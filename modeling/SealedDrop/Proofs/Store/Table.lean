/-
  SealedDrop.Proofs.Store.Table
  ─────────────────────────────
  **WHAT THE WRITES DO TO A TABLE, ROW BY ROW.**

  Every law about runs of the store comes down to one question: which rows
  does the table hold after a write, and where do they come from?  `insert`,
  `clearWhere` and `dropWhere` get one membership lemma each that answers it, and
  each case of `Row.view` one lemma that says when a row shows it; later modules
  never look into the lists again.

  Main results:
    • `mem_insert`, `mem_clearWhere`, `mem_dropWhere` — the rows after a write,
    • `view_eq_live_iff`, `view_eq_expired_iff` — when a row shows which view,
    • `find?_eq_some`, `mem_ofOwner` — what is found stands in the table, and has the
      id or the owner,
    • `Keyed.eq`, `Keyed.insert`, `Keyed.clearWhere`, `Keyed.dropWhere` — ids are
      a key of the table, and every write keeps them one.
-/
import Mathlib.Data.List.Nodup
import SealedDrop.Store.Row

namespace SealedDrop.Store

/-! ## §1. Views -/

@[simp] theorem Row.clear_header (r : Row) : r.clear.header = r.header := rfl

@[simp] theorem Row.clear_data (r : Row) : r.clear.data = none := rfl

/-- A row is live exactly as long as its envelope is there and the deadline has not passed. -/
theorem Row.view_eq_live_iff {r : Row} {now : Moment} {h : Header} {d : Text} :
    r.view now = .live h d ↔ r.header = h ∧ r.data = some d ∧ ¬ h.expiresAt < now := by
  unfold Row.view
  constructor
  · intro hv
    split at hv
    next => exact absurd hv (by simp)
    next e he =>
      split at hv
      next => exact absurd hv (by simp)
      next hn =>
        injection hv with hh hd
        subst hh hd
        exact ⟨rfl, he, hn⟩
  · rintro ⟨rfl, hd, hn⟩
    rw [hd]
    exact if_neg hn

/-- A row is expired once its envelope is gone or the deadline has passed. -/
theorem Row.view_eq_expired_iff {r : Row} {now : Moment} {h : Header} :
    r.view now = .expired h ↔ r.header = h ∧ (r.data = none ∨ h.expiresAt < now) := by
  unfold Row.view
  constructor
  · intro hv
    split at hv
    next he =>
      injection hv with hh
      exact ⟨hh, .inl he⟩
    next e he =>
      split at hv
      next hlt =>
        injection hv with hh
        subst hh
        exact ⟨rfl, .inr hlt⟩
      next => exact absurd hv (by simp)
  · rintro ⟨rfl, hd⟩
    split
    next => rfl
    next e he =>
      -- there is an envelope, so it is the deadline that is past
      rcases hd with hd | hlt
      · rw [he] at hd
        exact absurd hd (by simp)
      · exact if_pos hlt

/-! ## §2. Rows after a write -/

/-- A row stems from another: the same header, and the same envelope or none. -/
def Row.StemsFrom (r' r : Row) : Prop := r'.header = r.header ∧ (r'.data = r.data ∨ r'.data = none)

theorem Row.StemsFrom.refl (r : Row) : r.StemsFrom r := ⟨rfl, .inl rfl⟩

/-- What stems from a row that stems from another stems from that one. -/
theorem Row.StemsFrom.trans {r r' r'' : Row} (h' : r''.StemsFrom r') (h : r'.StemsFrom r) :
    r''.StemsFrom r := by
  refine ⟨h'.1.trans h.1, ?_⟩
  rcases h'.2 with hsame | hnone
  · rw [hsame]
    exact h.2
  · exact .inr hnone

/-- A row, cleared if a condition picks it. -/
def Row.clearIf (p : Row → Bool) (r : Row) : Row := if p r then r.clear else r

/-- Clearing a row, or leaving it, keeps what it stems from. -/
theorem Row.clearIf_stems (p : Row → Bool) (r : Row) : (r.clearIf p).StemsFrom r := by
  unfold clearIf
  split
  · exact ⟨rfl, .inr rfl⟩
  · exact Row.StemsFrom.refl r

@[simp] theorem Row.clearIf_header (p : Row → Bool) (r : Row) : (r.clearIf p).header = r.header :=
  (Row.clearIf_stems p r).1

namespace Table

/-- An insertion adds one row and takes none. -/
theorem mem_insert {t : Table} {r x : Row} : x ∈ t.insert r ↔ x ∈ t ∨ x = r := by
  unfold insert
  rw [List.mem_append, List.mem_singleton]

/-- A row after clearing is one that the condition spares, or a row that it clears. -/
theorem mem_clearWhere {t : Table} {p : Row → Bool} {x : Row} :
    x ∈ t.clearWhere p ↔ (x ∈ t ∧ p x = false) ∨ ∃ r ∈ t, p r = true ∧ x = r.clear := by
  unfold clearWhere
  rw [List.mem_map]
  constructor
  · rintro ⟨r, hr, rfl⟩
    by_cases hp : p r = true
    · rw [if_pos hp]
      exact .inr ⟨r, hr, hp, rfl⟩
    · rw [if_neg hp]
      exact .inl ⟨hr, by simpa using hp⟩
  · rintro (⟨hx, hp⟩ | ⟨r, hr, hp, rfl⟩)
    · exact ⟨x, hx, by rw [hp]; rfl⟩
    · exact ⟨r, hr, if_pos hp⟩

/-- Every row after clearing comes from one before. -/
theorem of_mem_clearWhere {t : Table} {p : Row → Bool} {r' : Row}
    (h : r' ∈ t.clearWhere p) : ∃ r ∈ t, r' = r.clearIf p := by
  obtain ⟨r, hr, hrr⟩ := List.mem_map.mp h
  exact ⟨r, hr, hrr.symm⟩

/-- Clearing keeps the places of rows. -/
theorem getElem?_clearWhere (t : Table) (p : Row → Bool) (i : Nat) :
    (t.clearWhere p)[i]? = t[i]?.map (Row.clearIf p) :=
  List.getElem?_map

/-- A cleared table holds the same headers in the same order. -/
theorem map_header_clearWhere (t : Table) (p : Row → Bool) :
    (t.clearWhere p).map Row.header = t.map Row.header := by
  unfold clearWhere
  rw [List.map_map]
  apply List.map_congr_left
  intro r _
  by_cases hp : p r = true
  · simp [hp]
  · simp [hp]

/-- A deletion leaves the rows that the condition spares. -/
theorem mem_dropWhere {t : Table} {p : Row → Bool} {x : Row} :
    x ∈ t.dropWhere p ↔ x ∈ t ∧ p x = false := by
  unfold dropWhere
  rw [List.mem_filter, Bool.not_eq_true']

/-- No row is counted when the condition holds of none. -/
theorem countWhere_eq_zero {t : Table} {p : Row → Bool} :
    t.countWhere p = 0 ↔ ∀ r ∈ t, p r = false := by
  unfold countWhere
  rw [List.countP_eq_zero]
  simp only [Bool.not_eq_true]

/-! ## §3. Looking up -/

/-- What a lookup finds is a row of the table with that id. -/
theorem find?_eq_some {t : Table} {id : Text} {r : Row} (h : t.find? id = some r) :
    r ∈ t ∧ r.header.id = id := by
  unfold find? at h
  exact ⟨List.mem_of_find?_eq_some h, by simpa using List.find?_some h⟩

/-- A lookup fails when no row has the id. -/
theorem find?_eq_none {t : Table} {id : Text} :
    t.find? id = none ↔ ∀ r ∈ t, r.header.id ≠ id := by
  unfold find?
  rw [List.find?_eq_none]
  simp only [decide_eq_true_eq]

/-- An id is free when no row has it. -/
theorem contains_eq_false {t : Table} {id : Text} :
    t.contains id = false ↔ ∀ r ∈ t, r.header.id ≠ id := by
  unfold contains
  rw [List.any_eq_false]
  simp only [decide_eq_true_eq]

/-- The rows of an owner are those with its name. -/
theorem mem_ofOwner {t : Table} {owner : Text} {r : Row} :
    r ∈ t.ofOwner owner ↔ r ∈ t ∧ r.header.owner = owner := by
  unfold ofOwner
  rw [List.mem_mergeSort, List.mem_filter, decide_eq_true_iff]

/-! ## §4. The key -/

/-- Ids are a key of the table: no two rows share one. -/
def Keyed (t : Table) : Prop := (t.map fun r => r.header.id).Nodup

instance (t : Table) : Decidable t.Keyed := inferInstanceAs (Decidable (List.Nodup _))

theorem keyed_nil : Keyed [] := List.nodup_nil

/-- A row is known by its id. -/
theorem Keyed.eq {t : Table} (h : t.Keyed) {r r' : Row} (hr : r ∈ t) (hr' : r' ∈ t)
    (hid : r.header.id = r'.header.id) : r = r' :=
  List.inj_on_of_nodup_map h hr hr' hid

/-- In a keyed table every row is found under its id. -/
theorem Keyed.find? {t : Table} (h : t.Keyed) {r : Row} (hr : r ∈ t) :
    t.find? r.header.id = some r := by
  cases hf : t.find? r.header.id with
  | none => exact absurd rfl (find?_eq_none.mp hf r hr)
  | some r' =>
    obtain ⟨hr', hid⟩ := find?_eq_some hf
    rw [h.eq hr' hr hid]

/-- Clearing keeps ids, so the table stays keyed. -/
theorem Keyed.clearWhere {t : Table} (h : t.Keyed) (p : Row → Bool) : (t.clearWhere p).Keyed := by
  have hids : (t.clearWhere p).map (fun r => r.header.id) = t.map fun r => r.header.id := by
    have := congrArg (List.map Header.id) (map_header_clearWhere t p)
    rw [List.map_map, List.map_map] at this
    exact this
  unfold Keyed
  rw [hids]
  exact h

/-- A row with a free id may be inserted. -/
theorem Keyed.insert {t : Table} (h : t.Keyed) {r : Row}
    (hr : ∀ x ∈ t, x.header.id ≠ r.header.id) : (t.insert r).Keyed := by
  unfold Keyed Table.insert
  rw [List.map_append]
  refine List.nodup_append.mpr ⟨h, List.nodup_singleton _, ?_⟩
  intro id hid id' hid'
  obtain ⟨x, hx, rfl⟩ := List.mem_map.mp hid
  rw [List.map_singleton, List.mem_singleton] at hid'
  subst hid'
  exact hr x hx

/-- What is left of a keyed table is keyed. -/
theorem Keyed.dropWhere {t : Table} (h : t.Keyed) (p : Row → Bool) : (t.dropWhere p).Keyed := by
  unfold Table.dropWhere
  exact h.sublist (List.filter_sublist.map _)

end Table

end SealedDrop.Store
