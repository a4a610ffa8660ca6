/-
  SealedDrop.Proofs.Form.Request
  ──────────────────────────────
  **A RECORD SURVIVES BEING WRITTEN, SENT AND READ.**

  A record that `Document.write` writes as a flat object is dumped without a
  fault, its compact text and its body are read back as the object, and
  `Form.read` makes the record of the object again.  `WritesFlat` is what the
  first half needs; the second is a matter of each form.

  Main results:
    • `WritesFlat.dump`, `WritesFlat.read_render`, `WritesFlat.textOfBody` — for any record,
    • `read_write_payload` — for what is sent,
    • `read_write_creation`, `read_write_listing`, `read_write_expiration` — for what is signed.
-/
import Mathlib.Data.List.Basic
import SealedDrop.Client.Session
import SealedDrop.Proofs.Calendar.Reading
import SealedDrop.Proofs.Json.Flat

namespace SealedDrop.Form

open Json (FlatObject Style)

/-! ## §1. Any record -/

section Record

variable {α : Type} [Document α] {a : α}

/-- A record that is written as a flat object. -/
def WritesFlat (a : α) : Prop := ∃ ms, Document.write a = .object ms ∧ FlatObject ms

/-- A record is written as a flat object if the names are fine and each value is flat. -/
theorem WritesFlat.of_values {ms : List (Text × Json)} (names : List Text)
    (hwrite : Document.write a = .object ms) (hms : ms.map Prod.fst = names)
    (hnames : names ≠ [] ∧ names.Nodup ∧ ∀ k ∈ names, Text.isScalar k = true)
    (hvalues : (ms.map Prod.snd).Forall Json.Flat) : WritesFlat a := by
  refine ⟨ms, hwrite, .of_names names hms hnames ?_⟩
  intro m hm
  exact List.forall_iff_forall_mem.mp hvalues m.2 (List.mem_map_of_mem hm)

/-- A flat record is read back from the text that is written of it. -/
theorem WritesFlat.read_render (h : WritesFlat a) {s : Style} (hs : s.Readable) :
    Json.read (Json.render s (Document.write a)) = .ok (Document.write a) := by
  obtain ⟨ms, hwrite, hms⟩ := h
  rw [hwrite]
  exact Json.read_render hs hms

/-- Also by the reader that does not look for a byte order mark. -/
theorem WritesFlat.readText_render (h : WritesFlat a) {s : Style} (hs : s.Readable) :
    Json.readText (Json.render s (Document.write a)) = .ok (Document.write a) := by
  obtain ⟨ms, hwrite, hms⟩ := h
  rw [hwrite]
  exact Json.readText_render hs hms

/-- The compact text of a record holds no surrogate. -/
theorem WritesFlat.isScalar (h : WritesFlat a) :
    (Json.render Style.compact (Document.write a)).isScalar = true := by
  obtain ⟨ms, hwrite, hms⟩ := h
  rw [hwrite]
  exact Style.writesIn_compact.object hms.flat

/-- **A record without surrogates is dumped as its compact text.** -/
theorem WritesFlat.dump (h : WritesFlat a) :
    dump a = .ok (Json.render Style.compact (Document.write a)) := by
  obtain ⟨ms, hwrite, hms⟩ := h
  have hnone : firstUnencodable (.object ms) = none := by
    refine List.findSome?_eq_none_iff.mpr ?_
    rintro ⟨k, v⟩ hm
    cases (hms.flat (k, v) hm).2 with
    | text ht => exact Utf8.firstSurrogates_eq_none_iff.mpr ht
    | bool b => rfl
  unfold Form.dump
  dsimp only
  rw [hwrite, hnone]

/-- **The body of a record is the text of the record.** -/
theorem WritesFlat.textOfBody (h : WritesFlat a) :
    Json.textOfBody ((Json.render Style.ascii (Document.write a)).flatMap Utf8.encodePoint)
      = .ok (Json.render Style.ascii (Document.write a)) := by
  obtain ⟨ms, hwrite, hms⟩ := h
  have hascii := Style.writesIn_ascii.object hms.flat
  obtain ⟨tail, htail⟩ := Json.renderMembers_cons Style.ascii hms.nonempty
  rw [hwrite]
  rw [Json.render_object, htail, List.cons_append] at hascii ⊢
  exact Json.textOfBody_ascii hascii

end Record

/-! ## §2. Signed payloads and registrations -/

/-- A signed payload is flat when its three texts are scalar. -/
theorem writesFlat_payload {p : SignedPayload} (hpayload : p.payload.isScalar = true)
    (hsignature : p.signature.isScalar = true) (husername : p.username.isScalar = true) :
    WritesFlat p :=
  .of_values ["payload", "signature", "username"] rfl rfl (by decide)
    ⟨.text hpayload, .text hsignature, .text husername⟩

/-- **A payload is read back.** -/
theorem read_write_payload (p : SignedPayload) :
    (read (Document.write p) : Except Rejection SignedPayload) = .ok p :=
  rfl

/-- So is a registration. -/
theorem writesFlat_registration {q : Registration} (husername : q.username.isScalar = true)
    (hkey : q.publicKey.isScalar = true) : WritesFlat q :=
  .of_values ["username", "public_key"] rfl rfl (by decide) ⟨.text husername, .text hkey⟩

/-! ## §3. Creations -/

/-- So is a creation whose deadline has an offset of whole minutes. -/
theorem writesFlat_creation {q : Creation} (husername : q.username.isScalar = true)
    (hdata : q.data.isScalar = true) (hexpires : Reading.WholeMinutes q.expiresAt.offset) :
    WritesFlat q := by
  have htime := Text.isScalar_of_isAscii (Reading.isAscii_wireText hexpires)
  exact .of_values ["username", "data", "expires_at", "single_use"] rfl rfl (by decide)
    ⟨.text husername, .text hdata, .text htime, .bool _⟩

/-- A point in time is read back, if its offset is one of whole minutes. -/
theorem stamp_wireText {s : Stamp} (h : Reading.WholeMinutes s.offset) :
    stamp (.text s.wireText) = .ok s := by
  have htime := Text.isScalar_of_isAscii (Reading.isAscii_wireText h)
  unfold stamp
  dsimp only
  rw [if_pos htime, Reading.ofText_wireText h]
  rfl

/-- **A creation is read back**, if the offset of its deadline is one of whole minutes. -/
theorem read_write_creation {q : Creation} (hexpires : Reading.WholeMinutes q.expiresAt.offset) :
    (read (Document.write q) : Except Rejection Creation) = .ok q := by
  -- the other fields are read back whatever they hold
  show (Checked.also (Checked.both (Checked.both (.ok (Creation.mk q.username q.data))
    ((stamp (.text q.expiresAt.wireText)).mapError fun p => [⟨["expires_at"], p⟩]))
    (.ok q.singleUse)) (.ok ())).mapError _ = _
  rw [stamp_wireText hexpires]
  rfl

/-! ## §4. Listings and expirations -/

/-- So is a listing. -/
theorem writesFlat_listing {q : Listing} (husername : q.username.isScalar = true) :
    WritesFlat q :=
  .of_values ["username"] rfl rfl (by decide) (.text husername)

/-- **A listing is read back.** -/
theorem read_write_listing (q : Listing) :
    (read (Document.write q) : Except Rejection Listing) = .ok q :=
  rfl

/-- So is an expiration. -/
theorem writesFlat_expiration {q : Expiration} (husername : q.username.isScalar = true)
    (hid : q.id.isScalar = true) : WritesFlat q :=
  .of_values ["username", "id"] rfl rfl (by decide) ⟨.text husername, .text hid⟩

/-- **An expiration is read back.** -/
theorem read_write_expiration (q : Expiration) :
    (read (Document.write q) : Except Rejection Expiration) = .ok q :=
  rfl

/-! ## §5. Answers -/

/-- So is the answer with a new id. -/
theorem writesFlat_created {id : Text} (hid : id.isScalar = true) : WritesFlat (Created.mk id) :=
  .of_values ["id"] rfl rfl (by decide) (.text hid)

/-- A clock on UTC is written with whole minutes. -/
theorem wholeMinutes_utc (m : Moment) : Reading.WholeMinutes (Stamp.utc m).offset := by
  intro o ho
  injection ho with ho
  subst ho
  exact ⟨rfl, by decide⟩

/-- So is the public view of a secret. -/
theorem writesFlat_publicView {id data : Text} {created expires : Moment} {singleUse : Bool}
    (hid : id.isScalar = true) (hdata : data.isScalar = true) :
    WritesFlat (PublicView.mk id (Stamp.utc created) (Stamp.utc expires) singleUse data) := by
  have htime : ∀ m, (Stamp.utc m).wireText.isScalar = true := fun m =>
    Text.isScalar_of_isAscii (Reading.isAscii_wireText (wholeMinutes_utc m))
  exact .of_values ["id", "created_at", "expires_at", "single_use", "expired", "data"] rfl rfl
    (by decide) ⟨.text hid, .text (htime created), .text (htime expires), .bool _, .bool _,
      .text hdata⟩

end SealedDrop.Form
