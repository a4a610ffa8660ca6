/-
  SealedDrop.Proofs.Json.Strings
  ──────────────────────────────
  **A STRING IS READ BACK AS IT WAS WRITTEN.**

  `quoted` chooses one of four spellings for a code point: itself, a short
  escape, one unit escape, or a pair of them (`Spelling`).  `scanString` joins
  two unit escapes that spell a surrogate pair, so a code point is only read
  back for itself because no text without surrogates is written with half of a
  pair.  Where nothing but control signs is escaped, every text is read back.

  Every lemma leaves open what follows; the last unit escape of a string is read
  because at least the closing quote follows it.

  Main results:
    • `spelling_pointText` — what is written is a spelling,
    • `Spelling.scanString` — every spelling is read back,
    • `scanString_flatMap` — a whole string up to its closing quote,
    • `Spelling.isAscii` — escaped spellings are ASCII.
-/
import SealedDrop.Json.Parser
import SealedDrop.Json.Printer
import SealedDrop.Proofs.Text.Digits
import SealedDrop.Proofs.Text.Utf8

namespace SealedDrop.Json

open Text (digitSign)

/-! ## §1. One step of the reader -/

section Step

variable (quote : Nat) (r : Text) (o : Nat) (acc : Text)

/-- A quote ends a string. -/
theorem scanString_quote :
    scanString quote (CodePoint.ofChar '"' :: r) o acc = .ok (acc.reverse, ⟨r, o + 1⟩) := by
  rw [scanString.eq_def]
  dsimp only
  rw [if_pos rfl]

/-- Any other sign stands for itself, apart from backslashes and controls. -/
theorem scanString_plain {c : CodePoint} (hquote : c ≠ CodePoint.ofChar '"')
    (hslash : c ≠ CodePoint.ofChar '\\') (hc : ¬ c.val < 0x20) :
    scanString quote (c :: r) o acc = scanString quote r (o + 1) (c :: acc) := by
  rw [scanString.eq_def]
  dsimp only
  rw [if_neg hquote, if_neg hslash, if_neg hc]

/-- A short escape is one sign. -/
theorem scanString_short {e x : CodePoint} (hu : e ≠ CodePoint.ofChar 'u') (he : escape? e = some x) :
    scanString quote (CodePoint.ofChar '\\' :: e :: r) o acc
      = scanString quote r (o + 2) (x :: acc) := by
  rw [scanString.eq_def]
  dsimp only
  rw [if_neg (by decide), if_pos rfl]
  rw [if_neg hu, he]

/-- An escape of four digits is one unit, unless a pair begins with it. -/
theorem scanString_unit {a b c d n : CodePoint} {u : Nat} (hu : unit? a b c d = some u)
    (hhigh : isHigh u = false) :
    scanString quote (CodePoint.ofChar '\\' :: CodePoint.ofChar 'u' :: a :: b :: c :: d :: n :: r) o acc
      = scanString quote (n :: r) (o + 6) (CodePoint.ofNat u :: acc) := by
  rw [scanString.eq_def]
  dsimp only
  rw [if_neg (by decide), if_pos rfl]
  rw [if_pos rfl, hu]
  dsimp only
  split
  next => rw [hhigh, if_neg (by simp)]
  next => rfl

/-- A pair of such escapes is one sign beyond the basic plane. -/
theorem scanString_pair {a b c d a' b' c' d' n : CodePoint} {u w : Nat}
    (hu : unit? a b c d = some u) (hhigh : isHigh u = true) (hw : unit? a' b' c' d' = some w)
    (hlow : isLow w = true) :
    scanString quote (CodePoint.ofChar '\\' :: CodePoint.ofChar 'u' :: a :: b :: c :: d
        :: CodePoint.ofChar '\\' :: CodePoint.ofChar 'u' :: a' :: b' :: c' :: d' :: n :: r) o acc
      = scanString quote (n :: r) (o + 12) (pairPoint u w :: acc) := by
  rw [scanString.eq_def]
  dsimp only
  rw [if_neg (by decide), if_pos rfl]
  rw [if_pos rfl, hu]
  dsimp only
  rw [hhigh, if_pos (by decide), hw]
  dsimp only
  rw [if_pos hlow]

end Step

/-! ## §2. Unit escapes -/

/-- The four digits of a unit. -/
theorem hex_unit {n : Nat} (hn : n < 0x10000) :
    Text.hex 4 n = [digitSign (n / 4096), digitSign (n / 256 % 16), digitSign (n / 16 % 16),
      digitSign (n % 16)] := by
  rw [Text.hex_eq (by decide) hn]
  show [digitSign (n / 16 / 16 / 16 % 16), digitSign (n / 16 / 16 % 16), digitSign (n / 16 % 16),
    digitSign (n % 16)] = _
  rw [show n / 16 / 16 / 16 % 16 = n / 4096 by omega, show n / 16 / 16 = n / 256 by omega]

/-- The four digits of a unit are read back. -/
theorem unit?_digits {n : Nat} (hn : n < 0x10000) :
    unit? (digitSign (n / 4096)) (digitSign (n / 256 % 16)) (digitSign (n / 16 % 16))
      (digitSign (n % 16)) = some n := by
  have hsum : ((n / 4096 * 16 + n / 256 % 16) * 16 + n / 16 % 16) * 16 + n % 16 = n := by omega
  unfold unit?
  rw [Text.hexDigit?_digitSign (by omega), Text.hexDigit?_digitSign (by omega),
    Text.hexDigit?_digitSign (by omega), Text.hexDigit?_digitSign (by omega)]
  show some (((n / 4096 * 16 + n / 256 % 16) * 16 + n / 16 % 16) * 16 + n % 16) = some n
  rw [hsum]

/-- **A sign of the basic plane is read back from its escape.** -/
theorem scanString_unitEscape (quote : Nat) {c n : CodePoint} (hlt : c.val < 0x10000)
    (hc : c.isSurrogate = false) (r : Text) (o : Nat) (acc : Text) :
    scanString quote (unitEscape c.val ++ n :: r) o acc
      = scanString quote (n :: r) (o + 6) (c :: acc) := by
  -- a lone unit is no half of a pair
  have hhigh : isHigh c.val = false := by
    have := Utf8.isSurrogate_eq_false_iff.mp hc
    unfold isHigh
    simp only [Bool.and_eq_false_iff, decide_eq_false_iff_not]
    omega
  unfold unitEscape
  rw [hex_unit hlt]
  refine (scanString_unit quote r o acc (unit?_digits hlt) hhigh).trans ?_
  rw [Utf8.ofNat_val]

/-- A pair of unit escapes spells the code point that it was made for. -/
theorem scanString_pairEscape (quote : Nat) {c n : CodePoint} (hge : ¬ c.val < 0x10000) (r : Text)
    (o : Nat) (acc : Text) :
    scanString quote (unitEscape (0xD800 + (c.val - 0x10000) / 0x400)
        ++ unitEscape (0xDC00 + (c.val - 0x10000) % 0x400) ++ n :: r) o acc
      = scanString quote (n :: r) (o + 12) (c :: acc) := by
  have hlt := c.isLt
  have hu : 0xD800 + (c.val - 0x10000) / 0x400 < 0x10000 := by omega
  have hw : 0xDC00 + (c.val - 0x10000) % 0x400 < 0x10000 := by omega
  have hhigh : isHigh (0xD800 + (c.val - 0x10000) / 0x400) = true := by
    unfold isHigh
    simp only [Bool.and_eq_true, decide_eq_true_eq]
    omega
  have hlow : isLow (0xDC00 + (c.val - 0x10000) % 0x400) = true := by
    unfold isLow
    simp only [Bool.and_eq_true, decide_eq_true_eq]
    omega
  -- the two units together stand for the code point
  have hpair : pairPoint (0xD800 + (c.val - 0x10000) / 0x400) (0xDC00 + (c.val - 0x10000) % 0x400)
      = c := by
    unfold pairPoint
    rw [show 0x10000 + (0xD800 + (c.val - 0x10000) / 0x400 - 0xD800) * 0x400
      + (0xDC00 + (c.val - 0x10000) % 0x400 - 0xDC00) = c.val by omega]
    exact Utf8.ofNat_val c
  unfold unitEscape
  rw [hex_unit hu, hex_unit hw]
  refine (scanString_pair quote r o acc (unit?_digits hu) hhigh (unit?_digits hw) hlow).trans ?_
  rw [hpair]

/-! ## §3. Strings -/

/-- The spellings of a code point inside a string; `escaped` says that nothing beyond ASCII may be
written as it is. -/
inductive Spelling (escaped : Bool) (c : CodePoint) : Text → Prop where
  /-- As it is. -/
  | plain (hquote : c ≠ CodePoint.ofChar '"') (hslash : c ≠ CodePoint.ofChar '\\')
      (hcontrol : ¬ c.val < 0x20) (hascii : escaped = true → c.isAscii = true) :
      Spelling escaped c [c]
  /-- A backslash and a letter or sign. -/
  | short {e : CodePoint} (hu : e ≠ CodePoint.ofChar 'u') (he : escape? e = some c)
      (hascii : e.isAscii = true) : Spelling escaped c [CodePoint.ofChar '\\', e]
  /-- One unit, for what may not be written as it is. -/
  | unit (hlt : c.val < 0x10000) (hneed : escaped = true ∨ c.val < 0x20) :
      Spelling escaped c (unitEscape c.val)
  /-- Two units. -/
  | pair (hge : ¬ c.val < 0x10000) : Spelling escaped c
      (unitEscape (0xD800 + (c.val - 0x10000) / 0x400)
        ++ unitEscape (0xDC00 + (c.val - 0x10000) % 0x400))

/-- **What is written for a code point is one of its spellings.** -/
theorem spelling_pointText (escaped : Bool) (c : CodePoint) :
    Spelling escaped c (pointText escaped c) := by
  have hlt := c.isLt
  unfold pointText
  by_cases h1 : c = CodePoint.ofChar '"'
  · rw [if_pos h1, h1]
    exact .short (by decide) rfl rfl
  rw [if_neg h1]
  by_cases h2 : c = CodePoint.ofChar '\\'
  · rw [if_pos h2, h2]
    exact .short (by decide) rfl rfl
  rw [if_neg h2]
  by_cases h3 : c = CodePoint.ofChar '\n'
  · rw [if_pos h3, h3]
    exact .short (by decide) rfl rfl
  rw [if_neg h3]
  by_cases h4 : c = CodePoint.ofChar '\r'
  · rw [if_pos h4, h4]
    exact .short (by decide) rfl rfl
  rw [if_neg h4]
  by_cases h5 : c = CodePoint.ofChar '\t'
  · rw [if_pos h5, h5]
    exact .short (by decide) rfl rfl
  rw [if_neg h5]
  by_cases h6 : c.val = 0x08
  · rw [if_pos h6, show c = 0x08 from Fin.ext h6]
    exact .short (by decide) rfl rfl
  rw [if_neg h6]
  by_cases h7 : c.val = 0x0C
  · rw [if_pos h7, show c = 0x0C from Fin.ext h7]
    exact .short (by decide) rfl rfl
  rw [if_neg h7]
  by_cases h8 : c.val < 0x20
  · rw [if_pos h8]
    -- a control sign without a letter of its own
    exact .unit (by omega) (.inr h8)
  rw [if_neg h8]
  by_cases h9 : (escaped && decide (0x7F ≤ c.val)) = true
  · rw [if_pos h9]
    by_cases h10 : c.val < 0x10000
    · rw [if_pos h10]
      rw [Bool.and_eq_true] at h9
      exact .unit h10 (.inl h9.1)
    · rw [if_neg h10]
      exact .pair h10
  -- nothing to escape
  · rw [if_neg h9]
    refine .plain h1 h2 h8 ?_
    intro hescaped
    rw [hescaped, Bool.true_and, decide_eq_true_eq] at h9
    unfold CodePoint.isAscii
    rw [decide_eq_true_eq]
    omega

/-- **A code point is read back from every spelling**; if it may be escaped, it must not be a
surrogate. -/
theorem Spelling.scanString {escaped : Bool} {c n : CodePoint} {t : Text} (h : Spelling escaped c t)
    (hc : escaped = true → c.isSurrogate = false) (quote : Nat) (r : Text) (o : Nat) (acc : Text) :
    ∃ o', scanString quote (t ++ n :: r) o acc = scanString quote (n :: r) o' (c :: acc) := by
  cases h with
  | plain hquote hslash hcontrol => exact ⟨_, scanString_plain quote (n :: r) o acc hquote hslash hcontrol⟩
  | short hu he => exact ⟨_, scanString_short quote (n :: r) o acc hu he⟩
  | unit hlt hneed =>
    have hlone : c.isSurrogate = false := by
      rcases hneed with hescaped | hcontrol
      · exact hc hescaped
      · refine Utf8.isSurrogate_eq_false_iff.mpr ?_
        omega
    exact ⟨_, scanString_unitEscape quote hlt hlone r o acc⟩
  | pair hge => exact ⟨_, scanString_pairEscape quote hge r o acc⟩

/-- **A string is read back up to its closing quote**; if it may be escaped, it must not hold
surrogates. -/
theorem scanString_flatMap (quote : Nat) (escaped : Bool) {t : Text}
    (ht : escaped = true → t.isScalar = true) (r : Text) (o : Nat) (acc : Text) :
    ∃ o', scanString quote (t.flatMap (pointText escaped) ++ CodePoint.ofChar '"' :: r) o acc
      = .ok (acc.reverse ++ t, ⟨r, o'⟩) := by
  induction t generalizing o acc with
  | nil =>
    rw [List.append_nil]
    exact ⟨o + 1, scanString_quote quote r o acc⟩
  | cons c t ih =>
    have hparts : escaped = true → c.isSurrogate = false ∧ Text.isScalar t = true := by
      intro hescaped
      have hall := ht hescaped
      rw [Text.isScalar, List.all_cons, Bool.and_eq_true, Bool.not_eq_true'] at hall
      exact hall
    -- something follows the code point: the next one, or the closing quote
    obtain ⟨n, r', hr'⟩ : ∃ n r', t.flatMap (pointText escaped) ++ CodePoint.ofChar '"' :: r = n :: r' :=
      List.exists_cons_of_ne_nil (by simp)
    obtain ⟨o₁, hstep⟩ :=
      (spelling_pointText escaped c).scanString (fun h => (hparts h).1) quote r' o acc
    obtain ⟨o₂, hrest⟩ := ih (fun h => (hparts h).2) o₁ (c :: acc)
    refine ⟨o₂, ?_⟩
    rw [List.flatMap_cons, List.append_assoc, hr', hstep, ← hr', hrest, List.reverse_cons,
      List.append_assoc]
    rfl

/-! ## §4. ASCII -/

theorem isAscii_unitEscape {n : Nat} (hn : n < 0x10000) : Text.isAscii (unitEscape n) = true := by
  unfold unitEscape
  exact Text.isAscii_append.mpr ⟨by decide, Text.isAscii_hex (by decide) hn⟩

/-- **Every escaped spelling is ASCII.** -/
theorem Spelling.isAscii {c : CodePoint} {t : Text} (h : Spelling true c t) :
    Text.isAscii t = true := by
  have hlt := c.isLt
  cases h with
  | plain _ _ _ hascii =>
    unfold Text.isAscii
    rw [List.all_cons, hascii rfl]
    rfl
  | @short e _ _ hascii =>
    unfold Text.isAscii
    rw [List.all_cons, List.all_cons, hascii]
    rfl
  | unit hunit _ => exact isAscii_unitEscape hunit
  | pair =>
    exact Text.isAscii_append.mpr ⟨isAscii_unitEscape (by omega), isAscii_unitEscape (by omega)⟩

end SealedDrop.Json
