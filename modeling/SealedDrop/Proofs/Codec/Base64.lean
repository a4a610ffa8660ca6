/-
  SealedDrop.Proofs.Codec.Base64
  ──────────────────────────────
  **WHAT BASE64 LOOKS LIKE.**

  The strict reader, `Base64.decode?`, takes quads as they come.  What it accepts
  in the end can be said of the whole text at once: digits first, then padding.

      Closes — how many signs of padding may stand behind how many digits
      Spells — a text is strict base64 of octets

  Envelopes, signatures and keys travel through forms that only let ASCII pass,
  and an envelope must not be empty.  The lenient reader, `decodeLenient`, which a
  drill uses on stored envelopes, reads what `encode` writes like the strict one.

  Main results:
    • `decode?_eq_some_iff` — the strict reader reads what spells octets,
    • `Spells.isAscii` — what spells octets is ASCII,
    • `isAscii_encode` — so what is written is ASCII,
    • `isEmpty_encode` — it is empty for no octets only,
    • `decodeLenient_encode` — the lenient reader undoes the writer.
-/
import SealedDrop.Codec

namespace SealedDrop.Base64

/-! ## §1. Reading strictly -/

/-- The octets of six-bit values in fours; two or three values left over make one or two. -/
def octetsOf : List Nat → Bytes
  | x :: y :: z :: w :: r => octet1 x y :: octet2 y z :: octet3 z w :: octetsOf r
  | [x, y, z] => [octet1 x y, octet2 y z]
  | [x, y] => [octet1 x y]
  | [_] => []
  | [] => []

/-- Signs of padding that may stand behind digits: behind complete quads any number of them, and what
completes the last quad otherwise. -/
def Closes (digits pads : Nat) : Prop :=
  digits % 4 = 0 ∨ (digits % 4 = 2 ∧ pads = 2) ∨ (digits % 4 = 3 ∧ pads = 1)

/-- Quads of digits, and padding behind them. -/
def SpellsQuads (t : Text) (bytes : Bytes) : Prop :=
  ∃ (digits : Text) (values : List Nat) (pads : Nat), t = digits ++ List.replicate pads pad
    ∧ digits.map value? = values.map some ∧ Closes digits.length pads ∧ octetsOf values = bytes

/-- A text is strict base64 of octets: quads of digits, and padding behind them that does not come
first. -/
structure Spells (t : Text) (bytes : Bytes) : Prop where
  quads : SpellsQuads t bytes
  unpadded : t.head? ≠ some pad

/-- A text of padding is so many padding signs. -/
theorem all_pad_iff {t : Text} : t.all (· = pad) = true ↔ t = List.replicate t.length pad := by
  rw [List.all_eq_true, List.eq_replicate_iff]
  simp

/-- A text without digits spells nothing, and only if it is all padding. -/
theorem spellsQuads_of_onlyPadding {t : Text} {bytes : Bytes}
    (h : quads.onlyPadding t = some bytes) : SpellsQuads t bytes := by
  unfold quads.onlyPadding at h
  split at h
  next hall =>
    injection h with h
    exact ⟨[], [], t.length, all_pad_iff.mp hall, rfl, .inl rfl, h⟩
  next => cases h

/-- What is taken as quads is spelled by quads. -/
theorem spellsQuads_of_quads {t : Text} {bytes : Bytes} (h : quads t = some bytes) :
    SpellsQuads t bytes := by
  fun_induction quads t generalizing bytes with
  | case1 a b c d r x y z w hd hc hb ha ih =>
    -- a quad of digits goes before those of the rest
    obtain ⟨rest, hrest, rfl⟩ := Option.map_eq_some_iff.mp h
    obtain ⟨digits, values, pads, rfl, hvalues, hcloses, rfl⟩ := ih hrest
    refine ⟨a :: b :: c :: d :: digits, x :: y :: z :: w :: values, pads, rfl, ?_, ?_, rfl⟩
    · simp only [List.map_cons, ha, hb, hc, hd, hvalues]
    · unfold Closes at hcloses ⊢
      simp only [List.length_cons]
      omega
  | case2 a b c d r x y z hd hc hb ha hpad =>
    obtain ⟨rfl, rfl⟩ := hpad
    injection h with h
    exact ⟨[a, b, c], [x, y, z], 1, rfl, by simp only [List.map_cons, ha, hb, hc, List.map_nil],
      .inr (.inr ⟨rfl, rfl⟩), h⟩
  | case3 => cases h
  | case4 a b c d r x y hd hc hb ha hpad =>
    obtain ⟨rfl, rfl, rfl⟩ := hpad
    injection h with h
    exact ⟨[a, b], [x, y], 2, rfl, by simp only [List.map_cons, ha, hb, List.map_nil],
      .inr (.inl ⟨rfl, rfl⟩), h⟩
  | case5 => cases h
  | case6 => exact spellsQuads_of_onlyPadding h
  | case7 => exact spellsQuads_of_onlyPadding h

/-- Padding alone decodes to nothing. -/
theorem quads_replicate_pad (n : Nat) : quads (List.replicate n pad) = some [] := by
  have hall : (List.replicate n pad).all (· = pad) = true := by simp
  have honly : quads.onlyPadding (List.replicate n pad) = some [] := if_pos hall
  -- up to three signs are no quad, and four of them are none of digits
  rcases n with _ | _ | _ | _ | n
  · rfl
  · rfl
  · rfl
  · rfl
  · exact honly

/-- What is spelled by quads is taken as quads. -/
theorem quads_of_spellsQuads {t : Text} {bytes : Bytes} (h : SpellsQuads t bytes) :
    quads t = some bytes := by
  obtain ⟨digits, values, pads, rfl, hvalues, hcloses, rfl⟩ := h
  fun_induction octetsOf values generalizing digits with
  | case1 x y z w r ih =>
    obtain ⟨a, digits, rfl, ha, hvalues⟩ := List.map_eq_cons_iff.mp hvalues
    obtain ⟨b, digits, rfl, hb, hvalues⟩ := List.map_eq_cons_iff.mp hvalues
    obtain ⟨c, digits, rfl, hc, hvalues⟩ := List.map_eq_cons_iff.mp hvalues
    obtain ⟨d, digits, rfl, hd, hvalues⟩ := List.map_eq_cons_iff.mp hvalues
    have hrest : quads (digits ++ List.replicate pads pad) = some (octetsOf r) := by
      refine ih digits hvalues ?_
      unfold Closes at hcloses ⊢
      simp only [List.length_cons] at hcloses
      omega
    simp only [List.cons_append, quads, ha, hb, hc, hd, hrest, Option.map_some]
  | case2 x y z =>
    obtain ⟨a, digits, rfl, ha, hvalues⟩ := List.map_eq_cons_iff.mp hvalues
    obtain ⟨b, digits, rfl, hb, hvalues⟩ := List.map_eq_cons_iff.mp hvalues
    obtain ⟨c, digits, rfl, hc, hvalues⟩ := List.map_eq_cons_iff.mp hvalues
    obtain rfl := List.map_eq_nil_iff.mp hvalues
    obtain rfl : pads = 1 := by
      simp only [Closes, List.length_cons, List.length_nil] at hcloses
      omega
    simp [quads, ha, hb, hc, value?_pad]
  | case3 x y =>
    obtain ⟨a, digits, rfl, ha, hvalues⟩ := List.map_eq_cons_iff.mp hvalues
    obtain ⟨b, digits, rfl, hb, hvalues⟩ := List.map_eq_cons_iff.mp hvalues
    obtain rfl := List.map_eq_nil_iff.mp hvalues
    obtain rfl : pads = 2 := by
      simp only [Closes, List.length_cons, List.length_nil] at hcloses
      omega
    simp [quads, ha, hb, value?_pad]
  | case4 x =>
    -- one digit is never closed
    obtain ⟨a, digits, rfl, _, hvalues⟩ := List.map_eq_cons_iff.mp hvalues
    obtain rfl := List.map_eq_nil_iff.mp hvalues
    simp only [Closes, List.length_cons, List.length_nil] at hcloses
    omega
  | case5 =>
    obtain rfl := List.map_eq_nil_iff.mp hvalues
    exact quads_replicate_pad pads

/-- **What `quads` decodes is what `SpellsQuads` allows.** -/
theorem quads_eq_some_iff {t : Text} {bytes : Bytes} :
    quads t = some bytes ↔ SpellsQuads t bytes :=
  ⟨spellsQuads_of_quads, quads_of_spellsQuads⟩

/-- **The strict reader reads exactly what spells octets.** -/
theorem decode?_eq_some_iff {t : Text} {bytes : Bytes} :
    decode? t = some bytes ↔ Spells t bytes := by
  unfold decode?
  by_cases hhead : t.head? = some pad
  · rw [if_pos hhead]
    constructor
    · intro h
      cases h
    · intro h
      exact absurd hhead h.unpadded
  · rw [if_neg hhead, quads_eq_some_iff]
    exact ⟨fun h => ⟨h, hhead⟩, fun h => h.quads⟩

/-- A text that spells no octets is not decoded. -/
theorem decode?_eq_none_iff {t : Text} : decode? t = none ↔ ¬ ∃ bytes, Spells t bytes := by
  rw [Option.eq_none_iff_forall_ne_some]
  simp only [ne_eq, decode?_eq_some_iff, not_exists]

/-- A text spells at most one string of octets. -/
theorem Spells.unique {t : Text} {bytes bytes' : Bytes} (h : Spells t bytes) (h' : Spells t bytes') :
    bytes = bytes' := by
  rw [← decode?_eq_some_iff] at h h'
  exact Option.some.inj (h.symm.trans h')

theorem isAscii_pad : pad.isAscii = true := by decide

/-- The digits of Base64 are ASCII. -/
theorem isAscii_of_value? {c : CodePoint} {n : Nat} (h : value? c = some n) : c.isAscii = true := by
  unfold value? at h
  unfold CodePoint.isAscii
  rw [decide_eq_true_iff]
  dsimp only at h
  split at h
  · omega
  split at h
  · omega
  split at h
  · omega
  split at h
  · omega
  split at h
  · omega
  · cases h

/-- **What spells octets is ASCII.** -/
theorem Spells.isAscii {t : Text} {bytes : Bytes} (h : Spells t bytes) : t.isAscii = true := by
  obtain ⟨digits, values, pads, rfl, hvalues, _, _⟩ := h.quads
  have hdigits : Text.isAscii digits = true := by
    unfold Text.isAscii
    rw [List.all_eq_true]
    intro c hc
    have hmem : value? c ∈ values.map some := by
      rw [← hvalues]
      exact List.mem_map_of_mem hc
    obtain ⟨n, _, hn⟩ := List.mem_map.mp hmem
    exact isAscii_of_value? hn.symm
  unfold Text.isAscii at hdigits ⊢
  rw [List.all_append, hdigits, Bool.true_and, List.all_replicate, isAscii_pad]
  simp

/-! ## §2. What is written -/

/-- **What is written spells what it was written for.** -/
theorem spells_encode (bytes : Bytes) : Spells (encode bytes) bytes :=
  decode?_eq_some_iff.mp (decode?_encode bytes)

/-- **What is written is ASCII.** -/
theorem isAscii_encode (bytes : Bytes) : Text.isAscii (encode bytes) = true :=
  (spells_encode bytes).isAscii

/-- Different octets are written differently. -/
theorem encode_injective : Function.Injective encode := by
  intro a b h
  have hdecoded := congrArg decode? h
  rw [decode?_encode, decode?_encode] at hdecoded
  exact Option.some.inj hdecoded

/-- **Something is written whenever there are octets.** -/
theorem isEmpty_encode {bytes : Bytes} (h : bytes ≠ []) : (encode bytes).isEmpty = false := by
  have hpos : 0 < bytes.length := List.length_pos_iff.mpr h
  have hlength := length_encode bytes
  rw [List.isEmpty_eq_false_iff, ← List.length_pos_iff, hlength]
  omega

/-! ## §3. Reading leniently -/

section Lenient

variable {w : Nat} (hw : w < 64) (r : Text) (pads : Nat) (out : Bytes)
include hw

/-- The first digit of a group gives no octet yet. -/
theorem skim_first : skim (digit w :: r) [] pads out = skim r [w] 0 out := by
  rw [skim, if_neg (digit_ne_pad hw), value?_digit hw]

/-- The second completes the first octet. -/
theorem skim_second (x : Nat) :
    skim (digit w :: r) [x] pads out = skim r [w, x] 0 (octet1 x w :: out) := by
  rw [skim, if_neg (digit_ne_pad hw), value?_digit hw]

/-- The third completes the second. -/
theorem skim_third (y x : Nat) :
    skim (digit w :: r) [y, x] pads out = skim r [w, y, x] 0 (octet2 y w :: out) := by
  rw [skim, if_neg (digit_ne_pad hw), value?_digit hw]

/-- The fourth completes the third, and the group. -/
theorem skim_fourth (z y x : Nat) :
    skim (digit w :: r) [z, y, x] pads out = skim r [] 0 (octet3 z w :: out) := by
  rw [skim, if_neg (digit_ne_pad hw), value?_digit hw]

end Lenient

/-- Quads are taken up one by one, and the padding ends the data. -/
theorem skim_encode (bytes : Bytes) (pads : Nat) (out : Bytes) :
    skim (encode bytes) [] pads out = .ok (out.reverse ++ bytes) := by
  fun_induction encode bytes generalizing pads out with
  | case1 => rw [skim, List.append_nil]
  | case2 a =>
    have ha := a.toNat_lt
    rw [skim_first (by omega), skim_second (by omega), octet1_split_last]
    -- two signs of padding, and the second one completes the quad
    rw [skim, if_pos rfl, if_pos (by simp), if_neg (by simp), skim, if_pos rfl,
      if_pos (by simp), if_pos (by simp), List.reverse_cons]
  | case3 a b =>
    have ha := a.toNat_lt
    have hb := b.toNat_lt
    rw [skim_first (by omega), skim_second (by omega), skim_third (by omega), octet1_split,
      octet2_split_last]
    rw [skim, if_pos rfl, if_pos (by simp), if_pos (by simp), List.reverse_cons,
      List.reverse_cons, List.append_assoc]
    rfl
  | case4 a b c r ih =>
    have ha := a.toNat_lt
    have hb := b.toNat_lt
    have hc := c.toNat_lt
    rw [skim_first (by omega), skim_second (by omega), skim_third (by omega),
      skim_fourth (by omega), octet1_split, octet2_split, octet3_split, ih]
    simp

/-- **The lenient reader undoes the writer.** -/
theorem decodeLenient_encode (bytes : Bytes) : decodeLenient (encode bytes) = .ok bytes := by
  unfold decodeLenient
  rw [if_pos (isAscii_encode bytes), skim_encode]
  rfl

end SealedDrop.Base64
