/-
  SealedDrop.Text.Ranges
  ──────────────────────
  **LOOKING THINGS UP IN TABLES THAT ARE IN ORDER.**

  What is known about code points comes in tables of ranges, lowest first.
  An entry is found by halving: a question about one entry tells on which side
  of it the entry stands that is looked for.

  Main statement: an entry that is found is one of the table, and is the one
  that was asked for (`findOrdered?_eq_some`).
-/
namespace SealedDrop.Text

/-- On which side of a range a number stands. -/
def sideOf (n first last : Nat) : Ordering :=
  if n < first then .lt else if last < n then .gt else .eq

/-- The entry in `lo ≤ i < hi` of a table that is looked for. Half of the entries are left after
each step. -/
def searchOrdered {α : Type} (table : Array α) (side : α → Ordering) :
    Nat → Nat → Nat → Option α
  | 0, _, _ => none
  | fuel + 1, lo, hi =>
    let mid := (lo + hi) / 2
    if hi ≤ lo then none
    else
      match table[mid]? with
      | none => none
      | some a =>
        match side a with
        | .lt => searchOrdered table side fuel lo mid
        | .gt => searchOrdered table side fuel (mid + 1) hi
        | .eq => some a

/-- The entry of a table that is looked for; every entry tells on which side of it that one
stands. -/
def findOrdered? {α : Type} (table : Array α) (side : α → Ordering) : Option α :=
  searchOrdered table side (table.size.log2 + 1) 0 table.size

/-- Whether some range of a table holds a number. -/
def inRanges (table : Array (Nat × Nat)) (n : Nat) : Bool :=
  (findOrdered? table fun (first, last) => sideOf n first last).isSome

/-- Whether ranges follow each other: each ends before the next one starts. -/
def areOrdered : List (Nat × Nat) → Bool
  | [] => true
  | [a] => a.1 ≤ a.2
  | a :: b :: r => a.1 ≤ a.2 && a.2 < b.1 && areOrdered (b :: r)

theorem searchOrdered_eq_some {α : Type} {table : Array α} {side : α → Ordering} {a : α} :
    ∀ {fuel lo hi : Nat}, searchOrdered table side fuel lo hi = some a →
      a ∈ table ∧ side a = .eq
  | 0, _, _, h => by simp [searchOrdered] at h
  | fuel + 1, lo, hi, h => by
    unfold searchOrdered at h
    split at h
    · simp at h
    · dsimp only at h
      split at h
      · simp at h
      · next b hb =>
        split at h
        · exact searchOrdered_eq_some h
        · exact searchOrdered_eq_some h
        · next he =>
          obtain rfl := Option.some.inj h
          exact ⟨Array.mem_of_getElem? hb, he⟩

theorem findOrdered?_eq_some {α : Type} {table : Array α} {side : α → Ordering} {a : α}
    (h : findOrdered? table side = some a) : a ∈ table ∧ side a = .eq :=
  searchOrdered_eq_some h

end SealedDrop.Text
