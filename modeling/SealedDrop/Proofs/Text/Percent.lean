/-
  SealedDrop.Proofs.Text.Percent
  ──────────────────────────────
  **WHAT ESCAPES STAND FOR.**

  Texts with percent escapes are spelled in many ways that stand for the same
  octets, and an address is respelled several times on its way.  So the lemmas
  are about spellings: `Spells p t bs` says that `t` consists of signs in `p`
  and of escapes, and stands for the octets `bs`.  A text in which every percent
  sign starts an escape is a spelling of its octets, and the only octets that it
  spells.

  Main results:
    • `decodeLossy_flatMap` — what becomes of a text that is written and read
      leniently,
    • `Spells.octets` — a spelling stands for what it spells,
    • `Spells.respelled` — escaping more signs spells the same,
    • `decode_encode` — an escaped text stands for itself.
-/
import Mathlib.Data.List.Basic
import SealedDrop.Proofs.Json.Flat
import SealedDrop.Proofs.Text.Utf8
import SealedDrop.Text.Percent

namespace SealedDrop

/-! ## §1. Half pairs among octets -/

namespace Utf8

/-- What a code point is read as that was written with three octets even if it is a surrogate. -/
def lenient (c : CodePoint) : Text :=
  if c.isSurrogate then [0xFFFD, 0xFFFD, 0xFFFD] else [c]

/-- The octets of a sequence that has been taken are skipped. -/
theorem lossy_tails (tails rest : Bytes) (acc : Text) :
    decodeLossy.go (tails ++ rest) tails.length acc = decodeLossy.go rest 0 acc := by
  induction tails with
  | nil => rfl
  | cons b tails ih => exact ih

/-- An octet that only continues a sequence starts none. -/
theorem head_of_isTail {b : UInt8} (hb : isTail b = true) (r : Bytes) :
    head false b r = .fault 1 "invalid start byte" := by
  rw [isTail_iff] at hb
  unfold head
  simp only [UInt8.lt_iff_toNat_lt, UInt8.reduceToNat]
  rw [if_neg (by omega), if_pos (by omega)]

/-- The three octets of a surrogate are at fault one by one. -/
theorem encodePoint_of_isSurrogate {c : CodePoint} (hc : c.isSurrogate = true) :
    ∃ x y, encodePoint c = [0xED, x, y] ∧ isTail x = true ∧ isTail y = true
      ∧ head.second3 0xED x = false := by
  unfold CodePoint.isSurrogate at hc
  rw [Bool.and_eq_true, decide_eq_true_iff, decide_eq_true_iff] at hc
  have hx : (UInt8.ofNat (0x80 + c.val / 0x40 % 0x40)).toNat = 0x80 + c.val / 0x40 % 0x40 :=
    toNat_octet (by omega)
  have hy : (UInt8.ofNat (0x80 + c.val % 0x40)).toNat = 0x80 + c.val % 0x40 := toNat_octet (by omega)
  refine ⟨UInt8.ofNat (0x80 + c.val / 0x40 % 0x40), UInt8.ofNat (0x80 + c.val % 0x40), ?_,
    isTail_iff.mpr (by omega), isTail_iff.mpr (by omega), ?_⟩
  · unfold encodePoint
    dsimp only
    rw [if_neg (by omega), if_neg (by omega), if_pos (by omega),
      show 0xE0 + c.val / 0x1000 = 0xED by omega]
    rfl
  · rw [← Bool.not_eq_true, second3_iff]
    have hed : (0xED : UInt8).toNat = 0xED := rfl
    omega

/-- The lossy decoder takes what the encoder wrote, a surrogate as three replacement signs. -/
theorem lossy_point (c : CodePoint) (rest : Bytes) (acc : Text) :
    decodeLossy.go (encodePoint c ++ rest) 0 acc
      = decodeLossy.go rest 0 ((lenient c).reverse ++ acc) := by
  unfold lenient
  cases hc : c.isSurrogate with
  | false =>
    obtain ⟨b, tails, henc, hseq⟩ := sequence_encodePoint hc
    rw [henc, List.cons_append, decodeLossy.go, hseq.head_eq rest]
    exact lossy_tails tails rest (c :: acc)
  | true =>
    obtain ⟨x, y, henc, hx, hy, hsecond⟩ := encodePoint_of_isSurrogate hc
    -- the octet 0xED may not be followed by what a surrogate has there
    have hlead : head false 0xED (x :: y :: rest) = .fault 1 "invalid continuation byte" := by
      unfold head
      show (if (!head.second3 0xED x) = true then head.broken 1 else _) = _
      rw [hsecond]
      rfl
    rw [henc]
    show decodeLossy.go (0xED :: x :: y :: rest) 0 acc = _
    rw [decodeLossy.go, hlead]
    show decodeLossy.go (x :: y :: rest) 0 _ = _
    rw [decodeLossy.go, head_of_isTail hx]
    show decodeLossy.go (y :: rest) 0 _ = _
    rw [decodeLossy.go, head_of_isTail hy]
    rfl

/-- **A text that is written and read leniently is what it was, but for its surrogates.** -/
theorem decodeLossy_flatMap (t : Text) : decodeLossy (t.flatMap encodePoint) = t.flatMap lenient := by
  have hgo : ∀ (t acc : Text), decodeLossy.go (t.flatMap encodePoint) 0 acc
      = acc.reverse ++ t.flatMap lenient := by
    intro t
    induction t with
    | nil =>
      intro acc
      exact (List.append_nil _).symm
    | cons c r ih =>
      intro acc
      rw [List.flatMap_cons, lossy_point, ih, List.reverse_append, List.reverse_reverse,
        List.append_assoc, List.flatMap_cons]
  exact hgo t []

/-- Without surrogates nothing is replaced. -/
theorem flatMap_lenient_of_isScalar {t : Text} (ht : t.isScalar = true) : t.flatMap lenient = t := by
  induction t with
  | nil => rfl
  | cons c r ih =>
    rw [Text.isScalar, List.all_cons, Bool.and_eq_true, Bool.not_eq_true'] at ht
    rw [List.flatMap_cons, ih ht.2, lenient, ht.1]
    rfl

/-- A text of ASCII is read only if it was written. -/
theorem eq_of_flatMap_lenient {t u : Text} (hu : u.isAscii = true) (h : t.flatMap lenient = u) :
    t = u := by
  have hall : t.isScalar = true := by
    refine List.all_eq_true.mpr ?_
    intro c hc
    rw [Bool.not_eq_true']
    -- what a surrogate becomes is not ASCII
    refine Bool.eq_false_iff.mpr fun hsurrogate => ?_
    have hmem : (0xFFFD : CodePoint) ∈ u := by
      rw [← h]
      refine List.mem_flatMap.mpr ⟨c, hc, ?_⟩
      rw [lenient, if_pos hsurrogate]
      exact List.mem_cons_self
    exact absurd (List.all_eq_true.mp hu _ hmem) (by decide)
  rw [← h, flatMap_lenient_of_isScalar hall]

end Utf8

namespace Percent

/-! ## §2. One escape -/

/-- Hexadecimal digits are unreserved, so an escape is written in signs that need none. -/
theorem isUnreserved_of_hexDigit? {c : CodePoint} {n : Nat} (h : c.hexDigit? = some n) :
    isUnreserved c = true := by
  unfold CodePoint.hexDigit? at h
  unfold isUnreserved CodePoint.isLetter
  split at h
  next hdigit => rw [hdigit, Bool.or_true, Bool.true_or]
  next =>
    have hletter : (decide (0x41 ≤ c.val) && decide (c.val ≤ 0x5A)
        || decide (0x61 ≤ c.val) && decide (c.val ≤ 0x7A)) = true := by
      simp only [Bool.or_eq_true, Bool.and_eq_true, decide_eq_true_eq]
      split at h
      next hlower => omega
      next =>
        split at h
        next hupper => omega
        next => cases h
    rw [hletter, Bool.true_or, Bool.true_or]

/-- An escape is read off two such digits. -/
theorem octet?_eq_some {a b : CodePoint} {r : Text} {n : UInt8} (h : octet? (a :: b :: r) = some n) :
    isUnreserved a = true ∧ isUnreserved b = true := by
  unfold octet? at h
  dsimp only at h
  cases ha : a.hexDigit? with
  | none =>
    rw [ha] at h
    cases h
  | some x =>
    cases hb : b.hexDigit? with
    | none =>
      rw [ha, hb] at h
      cases h
    | some y => exact ⟨isUnreserved_of_hexDigit? ha, isUnreserved_of_hexDigit? hb⟩

/-- The percent sign is none of the signs that need no escape. -/
theorem ne_percent {c : CodePoint} (h : isUnreserved c = true) : c ≠ CodePoint.ofChar '%' := by
  rintro rfl
  exact absurd h (by decide)

/-- The digits of an escape. -/
def escapeDigits (b : UInt8) : Text := (Text.hex 2 b.toNat).map CodePoint.toUpperAscii

/-- **An octet is read back from its escape.** -/
theorem octet?_escapeDigits (b : UInt8) :
    (escapeDigits b).length = 2 ∧ octet? (escapeDigits b) = some b := by
  have hall : ∀ n : Fin 256, (escapeDigits (UInt8.ofNat n.val)).length = 2
      ∧ octet? (escapeDigits (UInt8.ofNat n.val)) = some (UInt8.ofNat n.val) := by decide +kernel
  have hb := hall ⟨b.toNat, b.toNat_lt⟩
  rwa [UInt8.ofNat_toNat] at hb

/-- An octet is escaped with two digits that stand for it. -/
theorem exists_ofOctet (b : UInt8) :
    ∃ x y, ofOctet b = [CodePoint.ofChar '%', x, y] ∧ octet? [x, y] = some b := by
  obtain ⟨hlength, hoctet⟩ := octet?_escapeDigits b
  obtain ⟨x, y, hxy⟩ := List.length_eq_two.mp hlength
  exact ⟨x, y, congrArg (CodePoint.ofChar '%' :: ·) hxy, hxy ▸ hoctet⟩

/-! ## §3. Spellings -/

/-- A text of signs in `p` and escapes, with the octets that it stands for. -/
inductive Spells (p : CodePoint → Bool) : Text → Bytes → Prop where
  /-- Nothing. -/
  | nil : Spells p [] []
  /-- A sign that stands for itself. -/
  | sign {c : CodePoint} {r : Text} {bs : Bytes} (hc : p c = true) (hne : c ≠ CodePoint.ofChar '%')
      (h : Spells p r bs) : Spells p (c :: r) (Utf8.encodePoint c ++ bs)
  /-- An escape. -/
  | escape {a b : CodePoint} {r : Text} {n : UInt8} {bs : Bytes} (hn : octet? [a, b] = some n)
      (h : Spells p r bs) : Spells p (CodePoint.ofChar '%' :: a :: b :: r) (n :: bs)

section Spellings

variable {p q : CodePoint → Bool} {t u : Text} {bs bs' : Bytes}

/-- A text spells the same octets when more signs may stand for themselves. -/
theorem Spells.mono (hpq : ∀ c, c ≠ CodePoint.ofChar '%' → p c = true → q c = true)
    (h : Spells p t bs) : Spells q t bs := by
  induction h with
  | nil => exact .nil
  | sign hc hne _ ih => exact .sign (hpq _ hne hc) hne ih
  | escape hn _ ih => exact .escape hn ih

/-- A text of signs spells itself. -/
theorem spells_of_signs (h : ∀ c ∈ t, p c = true ∧ c ≠ CodePoint.ofChar '%') :
    Spells p t (t.flatMap Utf8.encodePoint) := by
  induction t with
  | nil => exact .nil
  | cons c r ih =>
    obtain ⟨hc, hne⟩ := h c List.mem_cons_self
    exact .sign hc hne (ih fun x hx => h x (List.mem_cons_of_mem _ hx))

/-- Two texts one behind the other spell their octets one behind the other. -/
theorem Spells.append (h : Spells p t bs) (h' : Spells p u bs') :
    Spells p (t ++ u) (bs ++ bs') := by
  induction h with
  | nil => exact h'
  | sign hc hne _ ih =>
    rw [List.append_assoc]
    exact .sign hc hne ih
  | escape hn _ ih => exact .escape hn ih

/-- **A spelling stands for the octets that it spells.** -/
theorem Spells.octets (h : Spells p t bs) : Percent.octets t = bs := by
  unfold Percent.octets
  induction h with
  | nil => rfl
  | sign hc hne _ ih => rw [Percent.octets.go, if_neg hne, ih]
  | @escape a b r n bs hn _ ih =>
    have hoctet : octet? (a :: b :: r) = some n := hn
    rw [Percent.octets.go, if_pos rfl, hoctet]
    exact congrArg (n :: ·) ih

/-- In a spelling every percent sign starts an escape. -/
theorem Spells.isEscaped (h : Spells p t bs) : isEscaped t = true := by
  induction h with
  | nil => rfl
  | sign hc hne _ ih =>
    unfold Percent.isEscaped
    rw [decide_eq_true hne, Bool.true_or, ih]
    rfl
  | @escape a b r n bs hn _ ih =>
    obtain ⟨ha, hb⟩ := octet?_eq_some hn
    have hstart : startsWithOctet (a :: b :: r) = true := by
      unfold startsWithOctet
      rw [show octet? (a :: b :: r) = some n from hn]
      rfl
    simp only [Percent.isEscaped, hstart, ih, decide_eq_true (ne_percent ha),
      decide_eq_true (ne_percent hb), Bool.or_true, Bool.true_or, Bool.and_true]

/-- **A text in which every percent sign starts an escape is a spelling.** -/
theorem spells_of_isEscaped : ∀ {t : Text}, Percent.isEscaped t = true →
    ∃ bs, Spells (fun _ => true) t bs
  | [], _ => ⟨[], .nil⟩
  | c :: r, h => by
    unfold Percent.isEscaped at h
    rw [Bool.and_eq_true] at h
    by_cases hc : c = CodePoint.ofChar '%'
    · subst hc
      have hstart : startsWithOctet r = true := by simpa using h.1
      match r, hstart, h.2 with
      | a :: b :: r, hstart, hr =>
        obtain ⟨n, hn⟩ := Option.isSome_iff_exists.mp hstart
        -- the two digits are no percent signs, so the rest is escaped as well
        have hrest : Percent.isEscaped r = true := by
          unfold Percent.isEscaped at hr
          rw [Bool.and_eq_true] at hr
          have hr := hr.2
          unfold Percent.isEscaped at hr
          rw [Bool.and_eq_true] at hr
          exact hr.2
        obtain ⟨bs, hbs⟩ := spells_of_isEscaped hrest
        exact ⟨n :: bs, .escape hn hbs⟩
    · obtain ⟨bs, hbs⟩ := spells_of_isEscaped h.2
      exact ⟨_, .sign rfl hc hbs⟩

/-- The signs of a spelling, if the digits of escapes are among those that stand for themselves. -/
theorem Spells.mem (hp : ∀ c, isUnreserved c = true → p c = true) (h : Spells p t bs)
    {c : CodePoint} (hc : c ∈ t) : p c = true ∨ c = CodePoint.ofChar '%' := by
  induction h with
  | nil => cases hc
  | sign hd hne _ ih =>
    rcases List.mem_cons.mp hc with rfl | hc
    · exact .inl hd
    · exact ih hc
  | escape hn _ ih =>
    obtain ⟨ha, hb⟩ := octet?_eq_some hn
    rcases List.mem_cons.mp hc with rfl | hc
    · exact .inr rfl
    · rcases List.mem_cons.mp hc with rfl | hc
      · exact .inl (hp _ ha)
      · rcases List.mem_cons.mp hc with rfl | hc
        · exact .inl (hp _ hb)
        · exact ih hc

theorem encodePoint_ne_nil (c : CodePoint) : Utf8.encodePoint c ≠ [] := by
  unfold Utf8.encodePoint
  dsimp only
  split
  · exact List.cons_ne_nil _ _
  · split
    · exact List.cons_ne_nil _ _
    · split <;> exact List.cons_ne_nil _ _

/-- Only nothing spells nothing. -/
theorem Spells.eq_nil_iff (h : Spells p t bs) : t = [] ↔ bs = [] := by
  cases h with
  | nil => exact ⟨fun _ => rfl, fun _ => rfl⟩
  | sign hc hne h =>
    refine ⟨nofun, fun hbs => ?_⟩
    exact absurd (List.append_eq_nil_iff.mp hbs).1 (encodePoint_ne_nil _)
  | escape hn h => exact ⟨nofun, nofun⟩

end Spellings

/-! ## §4. Escaping -/

section Escaping

variable {keep p : CodePoint → Bool} {t : Text} {bs : Bytes}

/-- Escaping goes sign by sign. -/
theorem encode_append (keep : CodePoint → Bool) (t u : Text) :
    encode keep (t ++ u) = encode keep t ++ encode keep u :=
  List.flatMap_append

/-- A sign that is kept stands for itself. -/
theorem encode_cons_of_keep {c : CodePoint} (hc : keep c = true) (t : Text) :
    encode keep (c :: t) = c :: encode keep t := by
  unfold encode
  rw [List.flatMap_cons, if_pos hc]
  rfl

/-- Any other is escaped octet by octet. -/
theorem encode_cons_of_not_keep {c : CodePoint} (hc : keep c = false) (t : Text) :
    encode keep (c :: t) = (Utf8.encodePoint c).flatMap ofOctet ++ encode keep t := by
  unfold encode
  rw [List.flatMap_cons, if_neg (by simp [hc])]

/-- Octets are spelled by their escapes. -/
theorem spells_escapes (bs : Bytes) : Spells p (bs.flatMap ofOctet) bs := by
  induction bs with
  | nil => exact .nil
  | cons b bs ih =>
    obtain ⟨x, y, hb, hoctet⟩ := exists_ofOctet b
    rw [List.flatMap_cons, hb]
    exact .escape hoctet ih

/-- A sign is spelled by itself or by its escapes. -/
theorem Spells.encode_cons {c : CodePoint} (hc : c ≠ CodePoint.ofChar '%')
    (h : Spells keep (encode keep t) bs) :
    Spells keep (encode keep (c :: t)) (Utf8.encodePoint c ++ bs) := by
  cases hkeep : keep c with
  | true =>
    rw [encode_cons_of_keep hkeep]
    exact .sign hkeep hc h
  | false =>
    rw [encode_cons_of_not_keep hkeep]
    exact (spells_escapes _).append h

/-- **Escaping more signs of a spelling spells the same**, if percent signs stay and digits do. -/
theorem Spells.respelled (hpercent : keep (CodePoint.ofChar '%') = true)
    (hkeep : ∀ c, isUnreserved c = true → keep c = true) (h : Spells p t bs) :
    Spells keep (encode keep t) bs := by
  induction h with
  | nil => exact .nil
  | sign hc hne _ ih => exact ih.encode_cons hne
  | escape hn _ ih =>
    obtain ⟨ha, hb⟩ := octet?_eq_some hn
    rw [encode_cons_of_keep hpercent, encode_cons_of_keep (hkeep _ ha),
      encode_cons_of_keep (hkeep _ hb)]
    exact .escape hn ih

/-- **A text whose percent signs are escaped is spelled by its escaped form.** -/
theorem spells_encode (hpercent : keep (CodePoint.ofChar '%') = false) (t : Text) :
    Spells keep (encode keep t) (t.flatMap Utf8.encodePoint) := by
  induction t with
  | nil => exact .nil
  | cons c t ih =>
    rw [List.flatMap_cons]
    by_cases hc : c = CodePoint.ofChar '%'
    · rw [encode_cons_of_not_keep (hc ▸ hpercent)]
      exact (spells_escapes _).append ih
    · exact ih.encode_cons hc

/-- **An escaped text stands for itself**, but for its surrogates. -/
theorem decode_encode (hpercent : keep (CodePoint.ofChar '%') = false) (t : Text) :
    decode (encode keep t) = t.flatMap Utf8.lenient := by
  unfold decode
  rw [(spells_encode hpercent t).octets]
  exact Utf8.decodeLossy_flatMap t

end Escaping

end Percent

end SealedDrop
