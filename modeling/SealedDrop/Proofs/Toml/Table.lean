/-
  SealedDrop.Proofs.Toml.Table
  ────────────────────────────
  **NO NAME STANDS TWICE IN A DOCUMENT.**

  A `Toml.Table` is a list of names with values, and `find?` takes the first value
  that the list holds for a name.  `Table.override` goes through the second table
  from its start, so that the LAST value of a name would win there; the two
  readings agree because a document that `Toml.read` accepts has each name once.

  Every statement changes the document by setting one name of it, in place or at
  the end, however deep the key leads from there:

      change f key t  =  f t                if the key is empty,
                         set name v t       otherwise,

  and setting a name adds it at most once.

  Main results:
    • `distinct_of_read` — a document that is read has each name once,
    • `Table.find?_override` — what a table says when another one is laid over it.
-/
import SealedDrop.Proofs.Result
import SealedDrop.Toml.Document

namespace SealedDrop.Toml

/-! ## §1. Setting a name -/

namespace Table

variable {k name : Text} {v : Value} {t u : Table}

/-- No name stands twice in the table. -/
def Distinct (t : Table) : Prop := (t.map Prod.fst).Nodup

theorem distinct_nil : Distinct [] := List.nodup_nil

/-- A name that is no key is not found. -/
theorem find?_eq_none_of_not_mem (h : k ∉ t.map Prod.fst) : find? k t = none := by
  induction t with
  | nil => rfl
  | cons e t ih =>
    obtain ⟨hne, hrest⟩ := not_or.mp (mt List.mem_cons.mpr h)
    rw [find?, if_neg (Ne.symm hne)]
    exact ih hrest

/-- A name that was set has its new value; every other name has its old one. -/
theorem find?_set : find? k (set name v t) = if name = k then some v else find? k t := by
  induction t with
  | nil => rfl
  | cons e t ih =>
    obtain ⟨n, w⟩ := e
    by_cases hn : n = name
    · rw [set, if_pos hn, hn]
      by_cases hk : name = k
      · rw [find?, if_pos hk, if_pos hk]
      · rw [find?, if_neg hk, if_neg hk, find?, if_neg hk]
    · rw [set, if_neg hn, find?, ih, find?]
      by_cases hk : name = k
      · rw [if_neg (hk ▸ hn), if_pos hk, if_pos hk]
      · rw [if_neg hk, if_neg hk]

/-- Setting a name adds it if it was not there, and no other name. -/
theorem mem_names_set : k ∈ (set name v t).map Prod.fst ↔ k = name ∨ k ∈ t.map Prod.fst := by
  induction t with
  | nil => simp [set]
  | cons e t ih =>
    obtain ⟨n, w⟩ := e
    by_cases hn : n = name
    · rw [set, if_pos hn, hn]
      simp
    · rw [set, if_neg hn, List.map_cons, List.map_cons, List.mem_cons, List.mem_cons, ih]
      exact or_left_comm

/-- Setting a key keeps keys distinct, whether it was there or not. -/
theorem Distinct.set (h : Distinct t) : Distinct (set name v t) := by
  induction t with
  | nil => exact List.nodup_cons.mpr ⟨List.not_mem_nil, distinct_nil⟩
  | cons e t ih =>
    obtain ⟨n, w⟩ := e
    obtain ⟨hn, ht⟩ := List.nodup_cons.mp h
    by_cases hname : n = name
    · rw [Table.set, if_pos hname]
      exact h
    · rw [Table.set, if_neg hname]
      refine List.nodup_cons.mpr ⟨?_, ih ht⟩
      rw [mem_names_set]
      exact not_or.mpr ⟨hname, hn⟩

/-- **Where one table is laid over another, a name has its value in the second, and only a name
that the second does not have keeps its value in the first.** -/
theorem find?_override (hu : Distinct u) :
    find? k (override t u) = (find? k u).or (find? k t) := by
  induction u generalizing t with
  | nil => rfl
  | cons e u ih =>
    obtain ⟨n, w⟩ := e
    obtain ⟨hn, hu⟩ := List.nodup_cons.mp hu
    have hstep : find? k (override t ((n, w) :: u))
        = (find? k u).or (if n = k then some w else find? k t) := by
      rw [← find?_set]
      exact ih hu
    rw [hstep, find?]
    by_cases hk : n = k
    · -- the name does not come back further on
      have hlast : find? k u = none := find?_eq_none_of_not_mem (hk ▸ hn)
      rw [if_pos hk, if_pos hk, hlast]
      rfl
    · rw [if_neg hk, if_neg hk]

/-! ## §2. Changing a table -/

/-- A change below a key sets the first name of the key; a change at no key is made right here. -/
theorem change_eq_some {entersArrays : Bool} {f : Table → Option Table} {key : Key}
    (h : change entersArrays f key t = some u) :
    (key = [] ∧ f t = some u) ∨ ∃ name v, u = set name v t := by
  cases key with
  | nil => exact .inl ⟨rfl, h⟩
  -- wherever the change is made further in, this table sets one of its keys
  | cons name r =>
    refine .inr ⟨name, ?_⟩
    unfold change at h
    split at h
    next =>
      obtain ⟨n, _, hn⟩ := Option.map_eq_some_iff.mp h
      exact ⟨_, hn.symm⟩
    next =>
      obtain ⟨n, _, hn⟩ := Option.map_eq_some_iff.mp h
      exact ⟨_, hn.symm⟩
    next =>
      split at h
      next =>
        obtain ⟨n, _, hn⟩ := Option.map_eq_some_iff.mp h
        exact ⟨_, hn.symm⟩
      next => cases h
    next => cases h

/-- A change deep inside keeps them distinct, if it does so where it is made. -/
theorem Distinct.change {entersArrays : Bool} {f : Table → Option Table} {key : Key}
    (ht : Distinct t) (hf : ∀ n, f t = some n → Distinct n)
    (h : Table.change entersArrays f key t = some u) : Distinct u := by
  obtain ⟨_, hu⟩ | ⟨name, v, rfl⟩ := change_eq_some h
  · exact hf u hu
  · exact ht.set

end Table

open Table (Distinct)

variable {t u : Table} {d d' : Draft}

/-- So does a key that must be new. -/
theorem distinct_of_setNew {name : Text} {v : Value} (ht : Distinct t)
    (h : setNew name v t = some u) : Distinct u := by
  unfold setNew at h
  split at h
  next => cases h
  next =>
    injection h with h
    exact h ▸ ht.set

/-- So does one more table of an array. -/
theorem distinct_of_appendTable {name : Text} (ht : Distinct t)
    (h : Draft.appendTable name t = some u) : Distinct u := by
  unfold Draft.appendTable at h
  split at h
  next =>
    injection h with h
    exact h ▸ ht.set
  next =>
    injection h with h
    exact h ▸ ht.set
  next => cases h

/-! ## §3. Statements -/

/-- So does the header of a table. -/
theorem distinct_of_openTable {key : Key} (hd : Distinct d.table)
    (h : d.openTable key = some d') : Distinct d'.table := by
  unfold Draft.openTable at h
  split at h
  next => cases h
  next =>
    obtain ⟨table, htable, rfl⟩ := Option.map_eq_some_iff.mp h
    refine hd.change ?_ htable
    rintro _ ⟨⟩
    exact hd

/-- So does the header of an array of tables. -/
theorem distinct_of_openItem {key : Key} (hd : Distinct d.table)
    (h : d.openItem key = some d') : Distinct d'.table := by
  unfold Draft.openItem at h
  split at h
  next => cases h
  next =>
    obtain ⟨table, htable, rfl⟩ := Option.map_eq_some_iff.mp h
    exact hd.change (fun n hn => distinct_of_appendTable hd hn) htable

/-- And so does a line with a key and a value. -/
theorem distinct_of_setValue {key : Key} {v : Value} (hd : Distinct d.table)
    (h : d.setValue key v = some d') : Distinct d'.table := by
  unfold Draft.setValue at h
  dsimp only at h
  split at h
  next => cases h
  next =>
    split at h
    next => cases h
    next =>
      obtain ⟨table, htable, rfl⟩ := Option.map_eq_some_iff.mp h
      exact hd.change (fun n hn => distinct_of_setNew hd hn) htable

theorem orMalformed_eq_ok_iff {α : Type} {x : Option α} {a : α} :
    orMalformed x = .ok a ↔ x = some a := by
  cases x <;> simp [orMalformed]

/-- One statement keeps the names of the document distinct. -/
theorem distinct_of_statement {fuel : Nat} {text rest : Text} (hd : Distinct d.table)
    (h : statement fuel d text = .ok (d', rest)) : Distinct d'.table := by
  unfold statement at h
  split at h
  next =>
    cases h
    exact hd
  next c r =>
    split at h
    next =>
      cases h
      exact hd
    next =>
      split at h
      next =>
        -- a header: `settle` leaves the document alone
        obtain ⟨⟨key, _⟩, _, h⟩ := Result.bind_eq_ok_iff.mp h
        obtain ⟨opened, hopened, h⟩ := Result.bind_eq_ok_iff.mp h
        obtain ⟨_, _, h⟩ := Result.bind_eq_ok_iff.mp h
        cases h
        rw [orMalformed_eq_ok_iff] at hopened
        split at hopened
        · exact distinct_of_openItem (d := d.settle) hd hopened
        · exact distinct_of_openTable (d := d.settle) hd hopened
      next =>
        obtain ⟨⟨key, _⟩, _, h⟩ := Result.bind_eq_ok_iff.mp h
        obtain ⟨⟨v, _⟩, _, h⟩ := Result.bind_eq_ok_iff.mp h
        obtain ⟨_, hset, h⟩ := Result.bind_eq_ok_iff.mp h
        cases h
        exact distinct_of_setValue hd (orMalformed_eq_ok_iff.mp hset)

/-- All statements do, by induction on the lines. -/
theorem distinct_of_statements {fuel n : Nat} {text : Text} (hd : Distinct d.table)
    (h : statements fuel n d text = .ok u) : Distinct u := by
  -- on the number of statements that may still follow
  induction n generalizing d text with
  | zero =>
    injection h with h
    exact h ▸ hd
  | succ n ih =>
    unfold statements at h
    split at h
    next => cases h
    next d' text' hstep =>
      have hd' : Distinct d'.table := distinct_of_statement hd hstep
      split at h
      next => cases h
      next =>
        injection h with h
        exact h ▸ hd'
      next =>
        split at h
        next => exact ih hd' h
        next => cases h

/-- **A document that is read has each of its names once.** -/
theorem distinct_of_read {document : Text} (h : read document = .ok t) : Distinct t :=
  distinct_of_statements (d := .empty) Table.distinct_nil h

end SealedDrop.Toml
