/-
  SealedDrop.Proofs.Text.Digits
  ─────────────────────────────
  **NUMERALS OF A FIXED WIDTH.**

  Times and escapes are written with a fixed number of digits: the numeral of a
  number, filled up with zeros on the left.  `digits` is the same text digit by
  digit, which is how it is read.

  Main results:
    • `padLeft_toDigits` — a filled-up numeral is its digits,
    • `digit?_digitSign`, `hexDigit?_digitSign` — a digit is read back,
    • `isScalar_of_isAscii` — a text in ASCII holds no surrogate.
-/
import SealedDrop.Text.Basic

namespace SealedDrop.Text

/-! ## §1. Digits -/

/-- The sign of a digit. -/
def digitSign (d : Nat) : CodePoint := CodePoint.ofChar (Nat.digitChar d)

/-- The last digits of a number in a base, as many as a width says. -/
def digits (base : Nat) : Nat → Nat → Text
  | 0, _ => []
  | width + 1, n => digits base width (n / base) ++ [digitSign (n % base)]

/-- A numeral of a given width has that width. -/
theorem length_digits (base width n : Nat) : (digits base width n).length = width := by
  induction width generalizing n with
  | zero => rfl
  | succ width ih => rw [digits, List.length_append, ih, List.length_singleton]

/-- The digits of zero are zeros. -/
theorem digits_zero (base width : Nat) :
    digits base width 0 = List.replicate width (CodePoint.ofChar '0') := by
  induction width with
  | zero => rfl
  | succ width ih =>
    rw [digits, Nat.zero_div, ih, Nat.zero_mod, List.replicate_succ']
    rfl

/-- Padding leaves the last sign. -/
theorem padLeft_append_singleton (width : Nat) (c d : CodePoint) (t : Text) :
    padLeft (width + 1) c (t ++ [d]) = padLeft width c t ++ [d] := by
  unfold padLeft
  rw [List.length_append, List.length_singleton, Nat.add_sub_add_right, List.append_assoc]

/-- **A numeral that is filled up with zeros is its digits.** -/
theorem padLeft_toDigits {base : Nat} (hb : 1 < base) {width n : Nat} (hw : 0 < width)
    (hn : n < base ^ width) :
    padLeft width '0' ((Nat.toDigits base n).map CodePoint.ofChar) = digits base width n := by
  induction width generalizing n with
  | zero => exact absurd hw (Nat.lt_irrefl 0)
  | succ width ih =>
    by_cases hsmall : n < base
    · -- one digit, and zeros before it
      rw [Nat.toDigits_of_lt_base hsmall, digits, Nat.div_eq_of_lt hsmall, digits_zero,
        Nat.mod_eq_of_lt hsmall]
      rfl
    · have hbase : base ≤ n := Nat.le_of_not_lt hsmall
      have hpos : 0 < width := by
        rcases Nat.eq_zero_or_pos width with rfl | hpos
        · rw [Nat.zero_add, Nat.pow_one] at hn
          exact absurd hn hsmall
        · exact hpos
      have hdiv : n / base < base ^ width := by
        rw [Nat.pow_succ] at hn
        exact Nat.div_lt_of_lt_mul (Nat.mul_comm base _ ▸ hn)
      rw [Nat.toDigits_of_base_le hb hbase, List.map_append, List.map_singleton,
        padLeft_append_singleton, ih hpos hdiv]
      rfl

/-- A number that fits is padded to its decimal digits. -/
theorem ofNatPadded_eq {width n : Nat} (hw : 0 < width) (hn : n < 10 ^ width) :
    ofNatPadded width n = digits 10 width n :=
  padLeft_toDigits (by decide) hw hn

/-- And a hexadecimal one to its hexadecimal digits. -/
theorem hex_eq {width n : Nat} (hw : 0 < width) (hn : n < 16 ^ width) :
    hex width n = digits 16 width n :=
  padLeft_toDigits (by decide) hw hn

/-! ## §2. Reading a digit -/

theorem digit?_digitSign {d : Nat} (h : d < 10) : (digitSign d).digit? = some d := by
  have : ∀ m : Fin 10, (digitSign m.val).digit? = some m.val := by decide
  exact this ⟨d, h⟩

theorem isDigit_digitSign {d : Nat} (h : d < 10) : (digitSign d).isDigit = true := by
  have : ∀ m : Fin 10, (digitSign m.val).isDigit = true := by decide
  exact this ⟨d, h⟩

/-- A hexadecimal digit is read off its sign. -/
theorem hexDigit?_digitSign {d : Nat} (h : d < 16) : (digitSign d).hexDigit? = some d := by
  have : ∀ m : Fin 16, (digitSign m.val).hexDigit? = some m.val := by decide
  exact this ⟨d, h⟩

/-- The digits of a number in base ten are decimal digits. -/
theorem isDigit_of_mem_digits {width n : Nat} {c : CodePoint} (h : c ∈ digits 10 width n) :
    c.isDigit = true := by
  induction width generalizing n with
  | zero => exact absurd h List.not_mem_nil
  | succ width ih =>
    rw [digits, List.mem_append, List.mem_singleton] at h
    rcases h with h | rfl
    · exact ih h
    · exact isDigit_digitSign (Nat.mod_lt n (by decide))

theorem isAscii_of_isDigit {c : CodePoint} (h : c.isDigit = true) : c.isAscii = true := by
  unfold CodePoint.isDigit at h
  unfold CodePoint.isAscii
  simp only [Bool.and_eq_true, decide_eq_true_eq] at h ⊢
  omega

/-! ## §3. Texts in ASCII -/

/-- A text is ASCII when its parts are. -/
theorem isAscii_append {s t : Text} :
    isAscii (s ++ t) = true ↔ isAscii s = true ∧ isAscii t = true := by
  unfold isAscii
  rw [List.all_append, Bool.and_eq_true]

/-- Padded numbers are ASCII. -/
theorem isAscii_ofNatPadded {width n : Nat} (hw : 0 < width) (hn : n < 10 ^ width) :
    isAscii (ofNatPadded width n) = true := by
  rw [ofNatPadded_eq hw hn]
  exact List.all_eq_true.mpr fun c hc => isAscii_of_isDigit (isDigit_of_mem_digits hc)

theorem isAscii_hex {width n : Nat} (hw : 0 < width) (hn : n < 16 ^ width) :
    isAscii (hex width n) = true := by
  rw [hex_eq hw hn]
  refine List.all_eq_true.mpr ?_
  intro c hc
  clear hn
  induction width generalizing n with
  | zero => exact absurd hc List.not_mem_nil
  | succ width ih =>
    rw [digits, List.mem_append, List.mem_singleton] at hc
    rcases hc with hc | rfl
    · rcases Nat.eq_zero_or_pos width with rfl | hpos
      · exact absurd hc List.not_mem_nil
      · exact ih hpos hc
    · have : ∀ m : Fin 16, (digitSign m.val).isAscii = true := by decide
      exact this ⟨n % 16, Nat.mod_lt n (by decide)⟩

/-- A text in ASCII holds no surrogate. -/
theorem isScalar_of_isAscii {t : Text} (h : isAscii t = true) : isScalar t = true := by
  refine List.all_eq_true.mpr ?_
  intro c hc
  have hascii := List.all_eq_true.mp h c hc
  unfold CodePoint.isAscii at hascii
  unfold CodePoint.isSurrogate
  simp only [decide_eq_true_eq, Bool.not_eq_true', Bool.and_eq_false_iff,
    decide_eq_false_iff_not] at hascii ⊢
  omega

end SealedDrop.Text
