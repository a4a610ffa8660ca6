/-
  SealedDrop.Proofs.Text.Utf8
  ───────────────────────────
  **STRICT UTF-8 READS EXACTLY WHAT IT WRITES.**

  The reader, `Utf8.head`, looks at one octet at a time and refuses as early as it
  can; the writer, `encodePoint`, computes octets from a number.  Between the two
  stands the table of well-formed sequences, `Sequence`: what the writer writes
  for a code point that is no surrogate is in the table, what the reader takes
  as the head of some octets is in the table, and a row of the table belongs to
  one code point.

  Main results:
    • `encode_eq_ok_iff` — a text has a form iff it holds no surrogate,
    • `decode_eq_ok_iff` — octets are a text iff they are its form,
    • `decode_eq_ok_iff_encode` — reading is the converse of writing,
    • `isScalar_decodeLossy` — what is read leniently holds no surrogate.
-/
import Mathlib.Data.List.TakeWhile
import SealedDrop.Text.Utf8

namespace SealedDrop.Utf8

/-! ## §1. Well-formed sequences -/

/-- The octets that stand for a code point, by the number of octets. -/
inductive Sequence (c : CodePoint) : UInt8 → Bytes → Prop where
  /-- ASCII. -/
  | one {b : UInt8} (hb : b.toNat < 0x80) (hc : c.val = b.toNat) : Sequence c b []
  /-- Up to U+07FF, and not overlong. -/
  | two {b x : UInt8} (hb : 0xC2 ≤ b.toNat ∧ b.toNat < 0xE0) (hx : isTail x = true)
      (hc : c.val = (b.toNat - 0xC0) * 0x40 + (x.toNat - 0x80)) : Sequence c b [x]
  /-- Up to U+FFFF, neither overlong nor a surrogate. -/
  | three {b x y : UInt8} (hb : 0xE0 ≤ b.toNat ∧ b.toNat < 0xF0) (hx : head.second3 b x = true)
      (hy : isTail y = true)
      (hc : c.val = ((b.toNat - 0xE0) * 0x40 + (x.toNat - 0x80)) * 0x40 + (y.toNat - 0x80)) :
      Sequence c b [x, y]
  /-- Up to U+10FFFF, and not overlong. -/
  | four {b x y z : UInt8} (hb : 0xF0 ≤ b.toNat ∧ b.toNat < 0xF5) (hx : head.second4 b x = true)
      (hy : isTail y = true) (hz : isTail z = true)
      (hc : c.val = (((b.toNat - 0xF0) * 0x40 + (x.toNat - 0x80)) * 0x40 + (y.toNat - 0x80)) * 0x40
        + (z.toNat - 0x80)) :
      Sequence c b [x, y, z]

/-- The octets that continue a sequence. -/
theorem isTail_iff {b : UInt8} : isTail b = true ↔ 0x80 ≤ b.toNat ∧ b.toNat ≤ 0xBF := by
  unfold isTail
  rw [Bool.and_eq_true, decide_eq_true_iff, decide_eq_true_iff, UInt8.le_iff_toNat_le,
    UInt8.le_iff_toNat_le]
  exact Iff.rfl

/-- The second octet of a sequence of three excludes what two octets say, and the surrogates. -/
theorem second3_iff {b c : UInt8} : head.second3 b c = true ↔
    (0x80 ≤ c.toNat ∧ c.toNat ≤ 0xBF) ∧ ¬ (b.toNat = 0xE0 ∧ c.toNat < 0xA0)
      ∧ ¬ (b.toNat = 0xED ∧ 0xA0 ≤ c.toNat) := by
  unfold head.second3
  simp only [Bool.and_eq_true, isTail_iff, Bool.not_eq_true', Bool.and_eq_false_iff,
    beq_eq_false_iff_ne, decide_eq_false_iff_not, ne_eq, ← UInt8.toNat_inj, UInt8.lt_iff_toNat_lt,
    ge_iff_le, UInt8.le_iff_toNat_le, UInt8.reduceToNat]
  omega

/-- That of a sequence of four excludes what three octets say, and what lies beyond the last plane.
-/
theorem second4_iff {b c : UInt8} : head.second4 b c = true ↔
    (0x80 ≤ c.toNat ∧ c.toNat ≤ 0xBF) ∧ ¬ (b.toNat = 0xF0 ∧ c.toNat < 0x90)
      ∧ ¬ (b.toNat = 0xF4 ∧ 0x90 ≤ c.toNat) := by
  unfold head.second4
  simp only [Bool.and_eq_true, isTail_iff, Bool.not_eq_true', Bool.and_eq_false_iff,
    beq_eq_false_iff_ne, decide_eq_false_iff_not, ne_eq, ← UInt8.toNat_inj, UInt8.lt_iff_toNat_lt,
    ge_iff_le, UInt8.le_iff_toNat_le, UInt8.reduceToNat]
  omega

/-- A number below 256 is what its octet stands for. -/
theorem toNat_octet {n : Nat} (h : n < 256) : (UInt8.ofNat n).toNat = n := by
  rw [UInt8.toNat_ofNat']
  omega

/-- The code point of a number in range. -/
theorem ofNat_val (c : CodePoint) : CodePoint.ofNat c.val = c := by
  unfold CodePoint.ofNat
  exact dif_pos c.isLt

theorem val_ofNat {n : Nat} (h : n < 0x110000) : (CodePoint.ofNat n).val = n := by
  unfold CodePoint.ofNat
  rw [dif_pos h]

/-- The surrogates are one range. -/
theorem isSurrogate_eq_false_iff {c : CodePoint} :
    c.isSurrogate = false ↔ ¬ (0xD800 ≤ c.val ∧ c.val ≤ 0xDFFF) := by
  unfold CodePoint.isSurrogate
  rw [← Bool.not_eq_true, Bool.and_eq_true, decide_eq_true_iff, decide_eq_true_iff]

/-! ## §2. What is written -/

/-- **The octets of a code point that is no surrogate are well formed.** -/
theorem sequence_encodePoint {c : CodePoint} (hc : c.isSurrogate = false) :
    ∃ b tails, encodePoint c = b :: tails ∧ Sequence c b tails := by
  have hlt := c.isLt
  have hs := isSurrogate_eq_false_iff.mp hc
  unfold encodePoint
  dsimp only
  split
  -- one case for each length, in the order of the encoder
  next h1 => exact ⟨_, _, rfl, .one (by rw [toNat_octet] <;> omega) (by rw [toNat_octet]; omega)⟩
  next h1 =>
    split
    next h2 =>
      have hb : (UInt8.ofNat (0xC0 + c.val / 0x40)).toNat = 0xC0 + c.val / 0x40 :=
        toNat_octet (by omega)
      have hx : (UInt8.ofNat (0x80 + c.val % 0x40)).toNat = 0x80 + c.val % 0x40 :=
        toNat_octet (by omega)
      exact ⟨_, _, rfl, .two (by omega) (isTail_iff.mpr (by omega)) (by omega)⟩
    next h2 =>
      split
      next h3 =>
        have hb : (UInt8.ofNat (0xE0 + c.val / 0x1000)).toNat = 0xE0 + c.val / 0x1000 :=
          toNat_octet (by omega)
        have hx : (UInt8.ofNat (0x80 + c.val / 0x40 % 0x40)).toNat = 0x80 + c.val / 0x40 % 0x40 :=
          toNat_octet (by omega)
        have hy : (UInt8.ofNat (0x80 + c.val % 0x40)).toNat = 0x80 + c.val % 0x40 :=
          toNat_octet (by omega)
        exact ⟨_, _, rfl, .three (by omega) (second3_iff.mpr (by omega)) (isTail_iff.mpr (by omega))
          (by omega)⟩
      next h3 =>
        have hb : (UInt8.ofNat (0xF0 + c.val / 0x40000)).toNat = 0xF0 + c.val / 0x40000 :=
          toNat_octet (by omega)
        have hx : (UInt8.ofNat (0x80 + c.val / 0x1000 % 0x40)).toNat
            = 0x80 + c.val / 0x1000 % 0x40 := toNat_octet (by omega)
        have hy : (UInt8.ofNat (0x80 + c.val / 0x40 % 0x40)).toNat = 0x80 + c.val / 0x40 % 0x40 :=
          toNat_octet (by omega)
        have hz : (UInt8.ofNat (0x80 + c.val % 0x40)).toNat = 0x80 + c.val % 0x40 :=
          toNat_octet (by omega)
        exact ⟨_, _, rfl, .four (by omega) (second4_iff.mpr (by omega)) (isTail_iff.mpr (by omega))
          (isTail_iff.mpr (by omega)) (by omega)⟩

theorem octet_eq {n : Nat} {b : UInt8} (h : n = b.toNat) : UInt8.ofNat n = b := by
  rw [h, UInt8.ofNat_toNat]

/-- **A well-formed sequence is what is written for its code point, which is no surrogate.** -/
theorem Sequence.encodePoint_eq {c : CodePoint} {b : UInt8} {tails : Bytes}
    (h : Sequence c b tails) : encodePoint c = b :: tails ∧ c.isSurrogate = false := by
  rw [isSurrogate_eq_false_iff]
  unfold encodePoint
  cases h with
  | one hb hc =>
    refine ⟨?_, by omega⟩
    rw [if_pos (by omega), octet_eq hc]
  | two hb hx hc =>
    rw [isTail_iff] at hx
    refine ⟨?_, by omega⟩
    rw [if_neg (by omega), if_pos (by omega), List.cons.injEq, List.cons.injEq]
    exact ⟨octet_eq (by omega), octet_eq (by omega), rfl⟩
  | three hb hx hy hc =>
    rw [second3_iff] at hx
    rw [isTail_iff] at hy
    refine ⟨?_, by omega⟩
    rw [if_neg (by omega), if_neg (by omega), if_pos (by omega), List.cons.injEq, List.cons.injEq,
      List.cons.injEq]
    exact ⟨octet_eq (by omega), octet_eq (by omega), octet_eq (by omega), rfl⟩
  | four hb hx hy hz hc =>
    rw [second4_iff] at hx
    rw [isTail_iff] at hy hz
    refine ⟨?_, by omega⟩
    rw [if_neg (by omega), if_neg (by omega), if_neg (by omega), List.cons.injEq, List.cons.injEq,
      List.cons.injEq, List.cons.injEq]
    exact ⟨octet_eq (by omega), octet_eq (by omega), octet_eq (by omega), octet_eq (by omega), rfl⟩

/-! ## §3. What is read -/

/-- **A well-formed sequence is taken as the head of whatever starts with it.** -/
theorem Sequence.head_eq {c : CodePoint} {b : UInt8} {tails : Bytes} (h : Sequence c b tails)
    (rest : Bytes) : head false b (tails ++ rest) = .point c (tails.length + 1) := by
  unfold head
  simp only [UInt8.lt_iff_toNat_lt, UInt8.reduceToNat, Bool.false_and]
  -- the first octet decides how many follow
  cases h with
  | one hb hc =>
    rw [if_pos hb, ← hc, ofNat_val]
    rfl
  | two hb hx hc =>
    rw [if_neg (by omega), if_neg (by omega), if_pos (by omega)]
    show (if isTail _ = true then _ else _) = _
    rw [if_pos hx, assemble]
    show Head.point (CodePoint.ofNat ((b.toNat - 0xC0) * 0x40 + (_ - 0x80))) 2 = _
    rw [← hc, ofNat_val]
    rfl
  | three hb hx hy hc =>
    rw [if_neg (by omega), if_neg (by omega), if_neg (by omega), if_pos (by omega)]
    show (if (!head.second3 _ _) = true then _ else if isTail _ = true then _ else _) = _
    rw [hx, if_neg (by simp), if_pos hy, assemble]
    show Head.point (CodePoint.ofNat
      (((b.toNat - 0xE0) * 0x40 + (_ - 0x80)) * 0x40 + (_ - 0x80))) 3 = _
    rw [← hc, ofNat_val]
    rfl
  | four hb hx hy hz hc =>
    rw [if_neg (by omega), if_neg (by omega), if_neg (by omega), if_neg (by omega),
      if_pos (by omega)]
    show (if (!head.second4 _ _) = true then _
      else if (!isTail _) = true then _ else if isTail _ = true then _ else _) = _
    rw [hx, hy, if_neg (by simp), if_neg (by simp), if_pos hz, assemble]
    show Head.point (CodePoint.ofNat
      ((((b.toNat - 0xF0) * 0x40 + (_ - 0x80)) * 0x40 + (_ - 0x80)) * 0x40 + (_ - 0x80))) 4 = _
    rw [← hc, ofNat_val]
    rfl

section Read

variable {b : UInt8} {r : Bytes} {c : CodePoint} {size : Nat}

/-- A head of `size` octets, the first of which is `b`, is a well-formed sequence. -/
def IsSequence (b : UInt8) (r : Bytes) (c : CodePoint) (size : Nat) : Prop :=
  ∃ tails rest, r = tails ++ rest ∧ size = tails.length + 1 ∧ Sequence c b tails

/-- A first octet below 0x80 is a sequence of its own. -/
theorem isSequence_one (hb : b.toNat < 0x80) (h : head false b r = .point c size) :
    IsSequence b r c size := by
  unfold head at h
  simp only [UInt8.lt_iff_toNat_lt, UInt8.reduceToNat] at h
  rw [if_pos hb] at h
  injection h with hc hs
  refine ⟨[], r, rfl, hs.symm, .one hb ?_⟩
  rw [← hc, val_ofNat (by omega)]

/-- A first octet from 0xC2 takes one more. -/
theorem isSequence_two (hb : 0xC2 ≤ b.toNat ∧ b.toNat < 0xE0) (h : head false b r = .point c size) :
    IsSequence b r c size := by
  unfold head head.truncated head.broken at h
  simp only [UInt8.lt_iff_toNat_lt, UInt8.reduceToNat] at h
  rw [if_neg (by omega), if_neg (by omega), if_pos hb.2] at h
  cases r with
  | nil => cases h
  | cons x r =>
    dsimp only at h
    split at h
    next hx =>
      injection h with hc hs
      refine ⟨[x], r, rfl, hs.symm, .two hb hx ?_⟩
      rw [isTail_iff] at hx
      rw [← hc, assemble, val_ofNat]
      · rfl
      · show (b.toNat - 0xC0) * 0x40 + (x.toNat - 0x80) < 0x110000
        omega
    next => cases h

/-- From 0xE0 it takes two more, and `second3` rules the surrogates out. -/
theorem isSequence_three (hb : 0xE0 ≤ b.toNat ∧ b.toNat < 0xF0)
    (h : head false b r = .point c size) : IsSequence b r c size := by
  unfold head head.truncated head.broken at h
  simp only [UInt8.lt_iff_toNat_lt, UInt8.reduceToNat, Bool.false_and] at h
  rw [if_neg (by omega), if_neg (by omega), if_neg (by omega), if_pos hb.2] at h
  cases r with
  | nil => cases h
  | cons x r =>
    dsimp only at h
    rw [if_neg (by simp)] at h
    split at h
    next => cases h
    next hx =>
      rw [Bool.not_eq_true', Bool.not_eq_false] at hx
      cases r with
      | nil => cases h
      | cons y r =>
        dsimp only at h
        split at h
        next hy =>
          injection h with hc hs
          -- every octet that continues has passed its check
          refine ⟨[x, y], r, rfl, hs.symm, .three hb hx hy ?_⟩
          rw [second3_iff] at hx
          rw [isTail_iff] at hy
          rw [← hc, assemble, val_ofNat]
          · rfl
          · show ((b.toNat - 0xE0) * 0x40 + (x.toNat - 0x80)) * 0x40 + (y.toNat - 0x80) < 0x110000
            omega
        next => cases h

/-- From 0xF0 it takes three more, up to the last plane. -/
theorem isSequence_four (hb : 0xF0 ≤ b.toNat ∧ b.toNat < 0xF5) (h : head false b r = .point c size) :
    IsSequence b r c size := by
  unfold head head.truncated head.broken at h
  simp only [UInt8.lt_iff_toNat_lt, UInt8.reduceToNat] at h
  rw [if_neg (by omega), if_neg (by omega), if_neg (by omega), if_neg (by omega), if_pos hb.2] at h
  cases r with
  | nil => cases h
  | cons x r =>
    dsimp only at h
    split at h
    next => cases h
    next hx =>
      rw [Bool.not_eq_true', Bool.not_eq_false] at hx
      cases r with
      | nil => cases h
      | cons y r =>
        dsimp only at h
        split at h
        next => cases h
        next hy =>
          rw [Bool.not_eq_true', Bool.not_eq_false] at hy
          cases r with
          | nil => cases h
          | cons z r =>
            dsimp only at h
            split at h
            next hz =>
              injection h with hc hs
              -- every octet that continues has passed its check
              refine ⟨[x, y, z], r, rfl, hs.symm, .four hb hx hy hz ?_⟩
              rw [second4_iff] at hx
              rw [isTail_iff] at hy hz
              rw [← hc, assemble, val_ofNat]
              · rfl
              · show (((b.toNat - 0xF0) * 0x40 + (x.toNat - 0x80)) * 0x40
                  + (y.toNat - 0x80)) * 0x40 + (z.toNat - 0x80) < 0x110000
                omega
            next => cases h

/-- An octet that starts no sequence is a fault. -/
theorem start_of_head (h : head false b r = .point c size) :
    b.toNat < 0x80 ∨ (0xC2 ≤ b.toNat ∧ b.toNat < 0xF5) := by
  unfold head at h
  simp only [UInt8.lt_iff_toNat_lt, UInt8.reduceToNat] at h
  by_cases hlow : b.toNat < 0x80
  · exact .inl hlow
  rw [if_neg hlow] at h
  by_cases hcontinues : b.toNat < 0xC2
  · rw [if_pos hcontinues] at h
    cases h
  by_cases hhigh : b.toNat < 0xF5
  · exact .inr ⟨by omega, hhigh⟩
  · rw [if_neg hcontinues, if_neg (by omega), if_neg (by omega), if_neg hhigh] at h
    cases h

/-- **What is taken as the head of some octets is a well-formed sequence.** -/
theorem isSequence_of_head (h : head false b r = .point c size) : IsSequence b r c size := by
  -- the first octet tells how many there are
  rcases start_of_head h with hone | ⟨hlow, hhigh⟩
  · exact isSequence_one hone h
  · by_cases htwo : b.toNat < 0xE0
    · exact isSequence_two ⟨hlow, htwo⟩ h
    · by_cases hthree : b.toNat < 0xF0
      · exact isSequence_three ⟨by omega, hthree⟩ h
      · exact isSequence_four ⟨by omega, hhigh⟩ h

end Read

/-! ## §4. Whole texts -/

/-- The octets that belong to the code point read last are passed over. -/
theorem go_tails (tails rest : Bytes) (pos : Nat) (acc : Text) :
    decodeWith.go false (tails ++ rest) pos tails.length acc
      = decodeWith.go false rest (pos + tails.length) 0 acc := by
  induction tails generalizing pos with
  | nil => rfl
  | cons b tails ih =>
    show decodeWith.go false (tails ++ rest) (pos + 1) tails.length acc = _
    rw [ih (pos + 1), List.length_cons, Nat.add_assoc, Nat.add_comm 1]

/-- The decoder takes a sequence in one go, and goes on behind it. -/
theorem go_sequence {c : CodePoint} {b : UInt8} {tails : Bytes} (h : Sequence c b tails)
    (rest : Bytes) (pos : Nat) (acc : Text) :
    decodeWith.go false (b :: tails ++ rest) pos 0 acc
      = decodeWith.go false rest (pos + 1 + tails.length) 0 (c :: acc) := by
  show decodeWith.go false (b :: (tails ++ rest)) pos 0 acc = _
  rw [decodeWith.go, h.head_eq rest]
  exact go_tails tails rest (pos + 1) (c :: acc)

/-- The form of a text is read back. -/
theorem go_flatMap (t : Text) (ht : t.isScalar = true) (pos : Nat) (acc : Text) :
    decodeWith.go false (t.flatMap encodePoint) pos 0 acc = .ok (acc.reverse ++ t) := by
  induction t generalizing pos acc with
  | nil => rw [List.append_nil]; rfl
  | cons c t ih =>
    rw [Text.isScalar, List.all_cons, Bool.and_eq_true, Bool.not_eq_true'] at ht
    obtain ⟨b, tails, henc, hseq⟩ := sequence_encodePoint ht.1
    rw [List.flatMap_cons, henc, go_sequence hseq, ih ht.2, List.reverse_cons, List.append_assoc]
    rfl

/-- Whatever is read as a text is its form. -/
theorem flatMap_of_go (bytes : Bytes) (pos : Nat) (acc t : Text)
    (h : decodeWith.go false bytes pos 0 acc = .ok t) :
    ∃ u : Text, u.isScalar = true ∧ bytes = u.flatMap encodePoint ∧ t = acc.reverse ++ u := by
  -- one head at a time, so the induction is on the number of octets left
  induction hn : bytes.length using Nat.strongRecOn generalizing bytes pos acc with
  | ind n ih =>
    cases bytes with
    | nil =>
      injection h with h
      exact ⟨[], rfl, rfl, by rw [List.append_nil, h]⟩
    | cons b r =>
      cases hhead : head false b r with
      | fault size reason =>
        rw [decodeWith.go, hhead] at h
        cases h
      | point c size =>
        obtain ⟨tails, rest, rfl, rfl, hseq⟩ := isSequence_of_head hhead
        have hgo := go_sequence hseq rest pos acc
        rw [List.cons_append] at hgo
        rw [hgo] at h
        have hlen : rest.length < n := by
          rw [← hn, List.length_cons, List.length_append]
          omega
        obtain ⟨u, hu, hrest, ht⟩ := ih rest.length hlen rest _ _ h rfl
        obtain ⟨henc, hscalar⟩ := hseq.encodePoint_eq
        refine ⟨c :: u, ?_, ?_, ?_⟩
        · rw [Text.isScalar, List.all_cons, hscalar]
          exact hu
        · rw [List.flatMap_cons, henc, ← hrest]
          rfl
        · rw [ht, List.reverse_cons, List.append_assoc]
          rfl

/-- **Octets are a text iff they are the form of that text, and the text holds no surrogate.** -/
theorem decode_eq_ok_iff {bytes : Bytes} {t : Text} :
    decode bytes = .ok t ↔ t.isScalar = true ∧ bytes = t.flatMap encodePoint := by
  constructor
  · intro h
    obtain ⟨u, hu, hbytes, ht⟩ := flatMap_of_go bytes 0 [] t h
    rw [List.reverse_nil, List.nil_append] at ht
    subst ht
    exact ⟨hu, hbytes⟩
  · rintro ⟨ht, rfl⟩
    exact go_flatMap t ht 0 []

/-- A text has no run of surrogates exactly when it is scalar. -/
theorem firstSurrogates_eq_none_iff {t : Text} :
    firstSurrogates t = none ↔ t.isScalar = true := by
  constructor
  · intro h
    unfold firstSurrogates at h
    split at h
    next hnil =>
      rw [List.dropWhile_eq_nil_iff] at hnil
      rw [Text.isScalar, List.all_eq_true]
      exact hnil
    next => cases h
  · intro h
    rw [firstSurrogates, dropWhile_of_isScalar h]

/-- **A text has a form iff it holds no surrogate.** -/
theorem encode_eq_ok_iff {t : Text} {bytes : Bytes} :
    encode t = .ok bytes ↔ t.isScalar = true ∧ bytes = t.flatMap encodePoint := by
  rw [← firstSurrogates_eq_none_iff]
  unfold encode
  cases firstSurrogates t with
  | some e => simp
  | none => simp [eq_comm]

/-- What has no form holds a surrogate. -/
theorem isScalar_of_encode_eq_error {t : Text} {e : Unencodable} (h : encode t = .error e) :
    t.isScalar = false := by
  cases hscalar : t.isScalar with
  | false => rfl
  | true =>
    rw [encode_eq_ok_iff.mpr ⟨hscalar, rfl⟩] at h
    cases h

/-- What is read back is what was written. -/
theorem decode_eq_ok_iff_encode {bytes : Bytes} {t : Text} :
    decode bytes = .ok t ↔ encode t = .ok bytes :=
  decode_eq_ok_iff.trans encode_eq_ok_iff.symm

/-! ## §5. Reading leniently -/

/-- What `errors="replace"` decodes has no surrogates. -/
theorem isScalar_go (bytes : Bytes) (skip : Nat) (acc : Text) (hacc : acc.isScalar = true) :
    (decodeLossy.go bytes skip acc).isScalar = true := by
  induction bytes generalizing skip acc with
  | nil =>
    show Text.isScalar acc.reverse = true
    unfold Text.isScalar at hacc ⊢
    rw [List.all_reverse]
    exact hacc
  | cons b r ih =>
    cases skip with
    | succ skip => exact ih skip acc hacc
    | zero =>
      unfold decodeLossy.go
      split
      next c size hhead =>
        -- a head that is read is the form of a code point, so that is no surrogate
        obtain ⟨tails, _, _, _, hsequence⟩ := isSequence_of_head hhead
        refine ih _ _ ?_
        unfold Text.isScalar at hacc ⊢
        rw [List.all_cons, hsequence.encodePoint_eq.2, hacc]
        rfl
      next =>
        refine ih _ _ ?_
        unfold Text.isScalar at hacc ⊢
        rw [List.all_cons, hacc]
        rfl

/-- **What is read leniently holds no surrogate.** -/
theorem isScalar_decodeLossy (bytes : Bytes) : (decodeLossy bytes).isScalar = true :=
  isScalar_go bytes 0 [] rfl

end SealedDrop.Utf8
