/-
  SealedDrop.Text.Punycode
  ────────────────────────
  **A NAME OF ANY SCRIPT IN ASCII.**

  The ASCII signs of a name come first, then a hyphen, then digits that say
  which other signs are to be put in, and where.  The other signs are put in
  in the order of their numbers; each is told by the distance from the one
  before, counted over all numbers and places between them.  A distance is
  written in base 36, its low digits first, and the bounds between a last digit
  and one that is followed by more move with the size of the distances so far.

  Main statement: only ASCII is written (`isAscii_encode`).
-/
import SealedDrop.Text.Basic

namespace SealedDrop.Punycode

/-! ## §1. Distances -/

/-- The number of digits. -/
def base : Nat := 36

/-- The greatest bound. -/
def maxBound : Nat := 26

/-- The bound at a place: a smaller digit is the last one. -/
def bound (bias place : Nat) : Nat := max 1 (min maxBound (place - bias))

theorem bound_pos (bias place : Nat) : 0 < bound bias place := by unfold bound; omega

/-- A digit as a sign: letters first. -/
def digitSign (d : Nat) : CodePoint :=
  if d < 26 then ⟨0x61 + d % 26, by omega⟩ else ⟨0x30 + (d - 26) % 10, by omega⟩

/-- The digits of a distance from a place on. -/
def digits (bias place n : Nat) : Text :=
  let t := bound bias place
  if n < t then [digitSign n]
  else digitSign (t + (n - t) % (base - t)) :: digits bias (place + base) ((n - t) / (base - t))
termination_by n
decreasing_by
  have := bound_pos bias place
  exact Nat.lt_of_le_of_lt (Nat.div_le_self _ _) (by omega)

/-- A distance brought below a limit by division, with what the divisions add to the bias. -/
def reduce (n bias : Nat) : Nat × Nat :=
  if 455 < n then reduce (n / 35) (bias + base) else (n, bias)
termination_by n
decreasing_by exact Nat.div_lt_self (by omega) (by omega)

/-- The bias after a distance, when so many signs are in place. The first distance counts for
little, as it is far greater than those that follow. -/
def nextBias (n count : Nat) (isFirst : Bool) : Nat :=
  let n := if isFirst then n / 700 else n / 2
  let (n, bias) := reduce (n + n / count) 0
  bias + base * n / (n + 38)

/-! ## §2. Names -/

/-- How far a name has been written. -/
structure Progress where
  /-- The digits so far. -/
  written : Text
  /-- The distance since the last sign that was put in. -/
  distance : Nat
  /-- The bias. -/
  bias : Nat
  /-- How many signs are in place. -/
  count : Nat
  /-- Whether no sign was put in yet. -/
  isFirst : Bool

/-- One sign of the name passed while the signs with some number are put in. -/
def Progress.pass (number : Nat) (p : Progress) (c : CodePoint) : Progress :=
  if c.val < number then { p with distance := p.distance + 1 }
  else if c.val = number then
    { written := p.written ++ digits p.bias base p.distance, distance := 0
      bias := nextBias p.distance (p.count + 1) p.isFirst, count := p.count + 1, isFirst := false }
  else p

/-- Puts in all signs of a name with some number; those below `start` are in place. -/
def Progress.insert (t : Text) (start number : Nat) (p : Progress) : Progress :=
  let p := { p with distance := p.distance + (number - start) * (p.count + 1) }
  let p := t.foldl (Progress.pass number) p
  { p with distance := p.distance + 1 }

/-- Puts in the signs with some numbers, in order. -/
def Progress.insertAll (t : Text) : Nat → List Nat → Progress → Progress
  | _, [], p => p
  | start, n :: r, p => insertAll t (n + 1) r (p.insert t start n)

/-- The numbers of all signs beyond ASCII, in order. -/
def foreignNumbers (t : Text) : List Nat :=
  (((t.filter fun c => !c.isAscii).map Fin.val).mergeSort fun a b => decide (a ≤ b)).eraseReps

/-- The bias before the first distance. -/
def firstBias : Nat := 72

/-- A name in ASCII. -/
def encode (t : Text) : Text :=
  let plain := t.filter CodePoint.isAscii
  let front := if plain.isEmpty then [] else plain ++ [CodePoint.ofChar '-']
  let p := Progress.insertAll t 0x80 (foreignNumbers t) ⟨[], 0, firstBias, plain.length, true⟩
  front ++ p.written

/-! ## §3. Small laws -/

theorem isAscii_digitSign (d : Nat) : (digitSign d).isAscii = true := by
  unfold digitSign CodePoint.isAscii
  split <;> simp only [decide_eq_true_eq] <;> omega

theorem isAscii_digits (bias place n : Nat) : (digits bias place n).isAscii = true := by
  unfold Text.isAscii
  fun_induction digits bias place n with
  | case1 => simp [isAscii_digitSign]
  | case2 _ _ _ _ ih => rw [List.all_cons, isAscii_digitSign, ih]; rfl

theorem isAscii_pass {number : Nat} {p : Progress} (c : CodePoint)
    (h : p.written.isAscii = true) : (p.pass number c).written.isAscii = true := by
  unfold Progress.pass
  split
  · exact h
  · split
    · have hd := isAscii_digits p.bias base p.distance
      unfold Text.isAscii at *
      rw [List.all_append, h, hd]; rfl
    · exact h

theorem isAscii_foldl (number : Nat) (t : Text) : ∀ p : Progress, p.written.isAscii = true →
    (t.foldl (Progress.pass number) p).written.isAscii = true := by
  induction t with
  | nil => exact fun _ h => h
  | cons c r ih => exact fun p h => ih _ (isAscii_pass c h)

theorem isAscii_insertAll (t : Text) (ns : List Nat) : ∀ (start : Nat) (p : Progress),
    p.written.isAscii = true → (Progress.insertAll t start ns p).written.isAscii = true := by
  induction ns with
  | nil => exact fun _ _ h => h
  | cons n r ih =>
    intro start p h
    exact ih _ _ (isAscii_foldl n t _ h)

theorem isAscii_encode (t : Text) : (encode t).isAscii = true := by
  have hp := isAscii_insertAll t (foreignNumbers t) 0x80
    ⟨[], 0, firstBias, (t.filter CodePoint.isAscii).length, true⟩ rfl
  have hf : (t.filter CodePoint.isAscii).all CodePoint.isAscii = true := by
    rw [List.all_eq_true]
    exact fun c h => (List.mem_filter.mp h).2
  unfold encode Text.isAscii at *
  simp only [List.all_append, hp, Bool.and_true]
  split
  · rfl
  · rw [List.all_append, hf]; rfl

end SealedDrop.Punycode
