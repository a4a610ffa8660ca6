/-
  SealedDrop.Proofs.Form.Names
  ────────────────────────────
  **FORMS ARE TOLD APART BY NAMES.**

  Whether `Form.read` takes a document for one form or another hangs on what its
  members are called, not on what they hold.  A form `Needs` the names of the
  fields that may not be left out, and a closed form `Forbids` every name but
  those of its fields.  Where one form needs what another forbids, no document
  is read by both.

  The forms of signed requests are in a row:

      registration  needs  "public_key"   which all closed forms forbid
      creation      needs  "data"         which expirations and listings forbid
      expiration    needs  "id"           which listings forbid

  A name that occurs twice is read once, and a form never sees the difference;
  so nothing is asked of the members but their names.

  Main results:
    • `read_eq_ok_iff` — when a document is read,
    • `Needs.mem_names`, `Forbids.not_mem_names` — what its names then are.
-/
import SealedDrop.Form.Request
import SealedDrop.Proofs.Result

namespace SealedDrop

/-- The names of the members of a document. -/
def Json.memberNames : Json → List Text
  | .object o => o.map Prod.fst
  | _ => []

/-- What is found in an object is one of its members. -/
theorem Json.mem_of_find? {name : Text} {o : List (Text × Json)} {v : Json}
    (h : Json.find? name o = some v) : (name, v) ∈ o := by
  induction o with
  | nil => cases h
  | cons m o ih =>
    obtain ⟨k, w⟩ := m
    unfold Json.find? at h
    split at h
    next hk =>
      injection h with h
      rw [hk, h]
      exact List.mem_cons_self
    next => exact List.mem_cons_of_mem _ (ih h)

namespace Form

/-! ## §1. Checks that pass -/

section Checks

variable {α β : Type} {o : Members}

/-- Two checks pass together when each of them passes. -/
@[simp] theorem Checked.both_eq_ok_iff {f : Checked (α → β)} {x : Checked α} {b : β} :
    Checked.both f x = .ok b ↔ ∃ g a, f = .ok g ∧ x = .ok a ∧ g a = b := by
  cases f with
  | error e => cases x <;> simp [Checked.both]
  | ok g => cases x <;> simp [Checked.both]

/-- A check on the side passes without adding to the value. -/
@[simp] theorem Checked.also_eq_ok_iff {x : Checked α} {check : Checked Unit} {a : α} :
    x.also check = .ok a ↔ x = .ok a ∧ check = .ok () := by
  unfold Checked.also
  cases x with
  | error e => simp [Except.map]
  | ok b => cases check <;> simp [Except.map]

/-- A field is read iff its member is there and can be read. -/
theorem field_eq_ok_iff {read : Json → Except Problem α} {name : Text} {a : α} :
    field read o name = .ok a ↔ ∃ v, Json.find? name o = some v ∧ read v = .ok a := by
  unfold field
  cases Json.find? name o with
  | none => simp
  | some v => simp

/-- A field that may be left out is read iff it is left out or can be read. -/
theorem fieldOr_eq_ok_iff {read : Json → Except Problem α} {name : Text} {default a : α} :
    fieldOr default read o name = .ok a ↔ (Json.find? name o = none ∧ default = a)
      ∨ ∃ v, Json.find? name o = some v ∧ read v = .ok a := by
  unfold fieldOr
  cases Json.find? name o with
  | none => simp
  | some v => simp

/-- A text is read where the name holds a text. -/
theorem field_text_eq_ok_iff {name t : Text} :
    field text o name = .ok t ↔ Json.find? name o = some (.text t) := by
  rw [field_eq_ok_iff]
  constructor
  · rintro ⟨v, hv, ht⟩
    cases v with
    | text u =>
      injection ht with ht
      rw [hv, ht]
    | _ => cases ht
  · intro h
    exact ⟨_, h, rfl⟩

/-- A field that is read is there. -/
theorem mem_names_of_field {read : Json → Except Problem α} {name : Text} {a : α}
    (h : field read o name = .ok a) : name ∈ o.map Prod.fst := by
  obtain ⟨v, hv, _⟩ := field_eq_ok_iff.mp h
  exact List.mem_map_of_mem (f := Prod.fst) (Json.mem_of_find? hv)

/-- A request has no extra members when all of its names are known. -/
theorem noExtra_eq_ok_iff {names : List Text} :
    noExtra names o = .ok () ↔ ∀ m ∈ o, m.1 ∈ names := by
  unfold noExtra
  split
  next hnone => simpa using List.filter_eq_nil_iff.mp hnone
  next hsome =>
    constructor
    · intro h
      cases h
    · intro h
      -- there is nothing left to report
      refine absurd (List.filter_eq_nil_iff.mpr ?_) hsome
      intro m hm
      simpa using h m hm

end Checks

/-! ## §2. Documents that are read -/

section Read

variable {α : Type} [Document α] {j : Json} {a : α} {name : Text}

/-- **A document is read iff it is an object with the fields of the form, and, if the form is
closed, with no member beyond them.** -/
theorem read_eq_ok_iff :
    (read j : Except Rejection α) = .ok a ↔
      ∃ o, j = .object o ∧ Document.fields o = .ok a
        ∧ ∀ names, Document.closed α = some names →
          ∀ m ∈ o, m.1.isScalar = true ∧ m.1 ∈ names := by
  unfold read
  cases j with
  | object o =>
    dsimp only
    cases Document.closed α with
    | none => simp
    | some names =>
      dsimp only
      -- a closed form first checks that names can be written, then that it knows them
      by_cases hscalar : (o.all fun m => m.1.isScalar) = true
      · rw [if_pos hscalar, Result.mapError_eq_ok_iff, Checked.also_eq_ok_iff, noExtra_eq_ok_iff]
        have hall := List.all_eq_true.mp hscalar
        constructor
        · rintro ⟨hfields, hnames⟩
          refine ⟨o, rfl, hfields, ?_⟩
          intro names' heq m hm
          injection heq with heq
          subst heq
          exact ⟨hall m hm, hnames m hm⟩
        · rintro ⟨o', heq, hfields, hclosed⟩
          injection heq with heq
          subst heq
          exact ⟨hfields, fun m hm => (hclosed names rfl m hm).2⟩
      · rw [if_neg hscalar]
        constructor
        · intro h
          cases h
        · rintro ⟨o', heq, _, hclosed⟩
          injection heq with heq
          subst heq
          exact absurd (List.all_eq_true.mpr fun m hm => (hclosed names rfl m hm).1) hscalar
  | _ => simp

end Read

/-! ## §3. What forms need and forbid -/

/-- A form needs a name: whatever it reads has a member of that name. -/
def Needs (α : Type) [Document α] (name : Text) : Prop :=
  ∀ o (a : α), Document.fields o = .ok a → name ∈ o.map Prod.fst

/-- A form forbids a name: it is closed, and none of its fields has that name. -/
def Forbids (α : Type) [Document α] (name : Text) : Prop :=
  ∃ names, Document.closed α = some names ∧ name ∉ names

section Names

variable {α : Type} [Document α] {j : Json} {a : α} {name : Text}

/-- **What is read has the names that the form needs.** -/
theorem Needs.mem_names (hneeds : Needs α name) (h : (read j : Except Rejection α) = .ok a) :
    name ∈ j.memberNames := by
  obtain ⟨o, rfl, hfields, _⟩ := read_eq_ok_iff.mp h
  exact hneeds o a hfields

/-- **What is read has no name that the form forbids.** -/
theorem Forbids.not_mem_names (hforbids : Forbids α name)
    (h : (read j : Except Rejection α) = .ok a) : name ∉ j.memberNames := by
  obtain ⟨o, rfl, _, hclosed⟩ := read_eq_ok_iff.mp h
  obtain ⟨names, hnames, hname⟩ := hforbids
  intro hmem
  obtain ⟨m, hm, rfl⟩ := List.mem_map.mp hmem
  exact hname (hclosed names hnames m hm).2

end Names

/-- A registration needs a member `public_key`, which no other request may have. -/
theorem needs_publicKey : Needs Registration "public_key" := by
  intro o a h
  obtain ⟨_, _, _, hkey, _⟩ := Checked.both_eq_ok_iff.mp h
  exact mem_names_of_field hkey

/-- A creation needs a member `data`. -/
theorem needs_data : Needs Creation "data" := by
  intro o a h
  -- the envelope is the second field of four
  obtain ⟨_, _, hthree, _⟩ := Checked.both_eq_ok_iff.mp h
  obtain ⟨_, _, htwo, _⟩ := Checked.both_eq_ok_iff.mp hthree
  obtain ⟨_, _, _, hdata, _⟩ := Checked.both_eq_ok_iff.mp htwo
  exact mem_names_of_field hdata

/-- An expiration needs a member `id`. -/
theorem needs_id : Needs Expiration "id" := by
  intro o a h
  obtain ⟨_, _, _, hid, _⟩ := Checked.both_eq_ok_iff.mp h
  exact mem_names_of_field hid

end Form

end SealedDrop
