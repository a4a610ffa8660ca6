/-
  SealedDrop.Codec
  ────────────────
  **OCTETS AS TEXT: HEXADECIMAL AND BASE64.**

  Hexadecimal is two lower-case digits per octet on writing, and either case on
  reading.

  Base64 has one writer and two readers.  Writing is the standard alphabet with
  padding.  The STRICT reader is the gate for envelopes, signatures and keys:
  nothing outside the alphabet, no data after padding, no missing padding.  It
  tolerates two things, because the octets are unambiguous in both: trailing
  bits that are not zero, and padding after a complete quad at the very end.
  The LENIENT reader skips what is not data and is what a tool uses to poke at
  stored envelopes.

  Main statements: the strict reader undoes the writer (`Base64.decode?_encode`),
  and the writer's text has four characters for every three octets begun
  (`Base64.length_encode`).
-/
import SealedDrop.Text.Utf8

namespace SealedDrop.Hex

/-! ## §1. Hexadecimal -/

/-- Two lower-case digits per octet. -/
def encode (bytes : Bytes) : Text :=
  bytes.flatMap fun b => [Text.hexDigit (b.toNat / 16), Text.hexDigit (b.toNat % 16)]

/-- Octets from pairs of digits. -/
def decode? : Text → Option Bytes
  | [] => some []
  | [_] => none
  | a :: b :: r => do
    let hi ← a.hexDigit?
    let lo ← b.hexDigit?
    let bytes ← decode? r
    return UInt8.ofNat (hi * 16 + lo) :: bytes

end SealedDrop.Hex

namespace SealedDrop.Base64

/-! ## §2. The alphabet -/

/-- The digit of a six-bit value. -/
def digit (n : Nat) : CodePoint :=
  CodePoint.ofNat <|
    if n < 26 then 0x41 + n
    else if n < 52 then 0x61 + (n - 26)
    else if n < 62 then 0x30 + (n - 52)
    else if n = 62 then 0x2B
    else 0x2F

/-- The six-bit value of a digit; the padding sign has none. -/
def value? (c : CodePoint) : Option Nat :=
  let n := c.val
  if 0x41 ≤ n ∧ n ≤ 0x5A then some (n - 0x41)
  else if 0x61 ≤ n ∧ n ≤ 0x7A then some (n - 0x61 + 26)
  else if 0x30 ≤ n ∧ n ≤ 0x39 then some (n - 0x30 + 52)
  else if n = 0x2B then some 62
  else if n = 0x2F then some 63
  else none

/-- The padding sign. -/
def pad : CodePoint := 0x3D

/-! ## §3. Writing -/

/-- Four digits for three octets; one or two octets left over are padded. -/
def encode : Bytes → Text
  | [] => []
  | [a] => [digit (a.toNat / 4), digit (a.toNat % 4 * 16), pad, pad]
  | [a, b] =>
    [digit (a.toNat / 4), digit (a.toNat % 4 * 16 + b.toNat / 16), digit (b.toNat % 16 * 4), pad]
  | a :: b :: c :: r =>
    digit (a.toNat / 4) :: digit (a.toNat % 4 * 16 + b.toNat / 16)
      :: digit (b.toNat % 16 * 4 + c.toNat / 64) :: digit (c.toNat % 64) :: encode r

/-! ## §4. Reading strictly -/

/-- The first octet of a quad. -/
def octet1 (x y : Nat) : UInt8 := UInt8.ofNat (x * 4 + y / 16)

/-- The second octet of a quad. -/
def octet2 (y z : Nat) : UInt8 := UInt8.ofNat (y % 16 * 16 + z / 4)

/-- The third octet of a quad. -/
def octet3 (z w : Nat) : UInt8 := UInt8.ofNat (z % 4 * 64 + w)

/-- Quads up to the end, the last of them possibly padded. -/
def quads : Text → Option Bytes
  | a :: b :: c :: d :: r =>
    match value? a, value? b, value? c, value? d with
    | some x, some y, some z, some w =>
      (quads r).map fun bytes => octet1 x y :: octet2 y z :: octet3 z w :: bytes
    | some x, some y, some z, none =>
      if d = pad ∧ r = [] then some [octet1 x y, octet2 y z] else none
    | some x, some y, none, none =>
      if c = pad ∧ d = pad ∧ r = [] then some [octet1 x y] else none
    | _, _, _, _ => onlyPadding (a :: b :: c :: d :: r)
  | t => onlyPadding t
where
  onlyPadding (t : Text) : Option Bytes := if t.all (· = pad) then some [] else none

/-- The octets of a text in strict form. -/
def decode? (t : Text) : Option Bytes :=
  if t.head? = some pad then none else quads t

/-! ## §5. Reading leniently -/

/-- Why even the lenient reader gives up. -/
inductive LenientFault where
  /-- A single digit is left over, with this many digits in all. -/
  | oneOver (digits : Nat)
  /-- Two or three digits are left over without their padding. -/
  | unpadded
  /-- The text is not ASCII. -/
  | notAscii
  deriving DecidableEq, Repr

namespace LenientFault

/-- The wording of the fault. -/
def message : LenientFault → Text
  | .oneOver n =>
    "Invalid base64-encoded string: number of data characters (" ++ Text.ofNat n
      ++ ") cannot be 1 more than a multiple of 4"
  | .unpadded => "Incorrect padding"
  | .notAscii => "string argument should contain only ASCII characters"

end LenientFault

/-- The digits of an unfinished quad, last one first. -/
abbrev Pending := List Nat

/-- The octets of complete quads, up to the padding that ends the data. `out` is reversed. -/
def skim : Text → Pending → Nat → Bytes → Except LenientFault Bytes
  | [], [], _, out => .ok out.reverse
  | [], [_], _, out => .error (.oneOver (out.length / 3 * 4 + 1))
  | [], _ :: _ :: _, _, _ => .error .unpadded
  | c :: r, pending, pads, out =>
    if c = pad then
      if 2 ≤ pending.length then
        if 4 ≤ pending.length + (pads + 1) then .ok out.reverse else skim r pending (pads + 1) out
      else skim r pending pads out
    else
      match value? c with
      | none => skim r pending pads out
      | some w =>
        match pending with
        | [] => skim r [w] 0 out
        | [x] => skim r [w, x] 0 (octet1 x w :: out)
        | [y, x] => skim r [w, y, x] 0 (octet2 y w :: out)
        | z :: _ => skim r [] 0 (octet3 z w :: out)

/-- The octets of a text, whatever else it holds. -/
def decodeLenient (t : Text) : Except LenientFault Bytes :=
  if t.isAscii then skim t [] 0 [] else .error .notAscii

/-! ## §6. Laws -/

theorem value?_digit {n : Nat} (h : n < 64) : value? (digit n) = some n := by
  have : ∀ m : Fin 64, value? (digit m.val) = some m.val := by decide
  exact this ⟨n, h⟩

theorem value?_pad : value? pad = none := rfl

theorem digit_ne_pad {n : Nat} (h : n < 64) : digit n ≠ pad := by
  intro e
  have := value?_digit h
  rw [e, value?_pad] at this
  cases this

theorem octet1_split (a b : UInt8) :
    octet1 (a.toNat / 4) (a.toNat % 4 * 16 + b.toNat / 16) = a := by
  have ha := a.toNat_lt
  have hb := b.toNat_lt
  apply UInt8.toNat_inj.mp
  simp only [octet1, UInt8.toNat_ofNat']
  omega

theorem octet1_split_last (a : UInt8) : octet1 (a.toNat / 4) (a.toNat % 4 * 16) = a := by
  have ha := a.toNat_lt
  apply UInt8.toNat_inj.mp
  simp only [octet1, UInt8.toNat_ofNat']
  omega

theorem octet2_split (a b c : UInt8) :
    octet2 (a.toNat % 4 * 16 + b.toNat / 16) (b.toNat % 16 * 4 + c.toNat / 64) = b := by
  have hb := b.toNat_lt
  have hc := c.toNat_lt
  apply UInt8.toNat_inj.mp
  simp only [octet2, UInt8.toNat_ofNat']
  omega

theorem octet2_split_last (a b : UInt8) :
    octet2 (a.toNat % 4 * 16 + b.toNat / 16) (b.toNat % 16 * 4) = b := by
  have hb := b.toNat_lt
  apply UInt8.toNat_inj.mp
  simp only [octet2, UInt8.toNat_ofNat']
  omega

theorem octet3_split (b c : UInt8) :
    octet3 (b.toNat % 16 * 4 + c.toNat / 64) (c.toNat % 64) = c := by
  have hc := c.toNat_lt
  apply UInt8.toNat_inj.mp
  simp only [octet3, UInt8.toNat_ofNat']
  omega

theorem quads_encode (bytes : Bytes) : quads (encode bytes) = some bytes := by
  fun_induction encode bytes with
  | case1 => rfl
  | case2 a =>
    have ha := a.toNat_lt
    simp [quads, value?_digit (show a.toNat / 4 < 64 by omega),
      value?_digit (show a.toNat % 4 * 16 < 64 by omega), value?_pad, octet1_split_last]
  | case3 a b =>
    have ha := a.toNat_lt
    have hb := b.toNat_lt
    simp [quads, value?_digit (show a.toNat / 4 < 64 by omega),
      value?_digit (show a.toNat % 4 * 16 + b.toNat / 16 < 64 by omega),
      value?_digit (show b.toNat % 16 * 4 < 64 by omega), value?_pad, octet1_split,
      octet2_split_last]
  | case4 a b c r ih =>
    have ha := a.toNat_lt
    have hb := b.toNat_lt
    have hc := c.toNat_lt
    simp [quads, value?_digit (show a.toNat / 4 < 64 by omega),
      value?_digit (show a.toNat % 4 * 16 + b.toNat / 16 < 64 by omega),
      value?_digit (show b.toNat % 16 * 4 + c.toNat / 64 < 64 by omega),
      value?_digit (show c.toNat % 64 < 64 by omega), octet1_split, octet2_split, octet3_split, ih]

theorem head?_encode_ne_pad (bytes : Bytes) : (encode bytes).head? ≠ some pad := by
  fun_cases encode bytes with
  | case1 => simp
  | case2 a =>
    have ha := a.toNat_lt
    simpa using digit_ne_pad (show a.toNat / 4 < 64 by omega)
  | case3 a b =>
    have ha := a.toNat_lt
    simpa using digit_ne_pad (show a.toNat / 4 < 64 by omega)
  | case4 a b c r =>
    have ha := a.toNat_lt
    simpa using digit_ne_pad (show a.toNat / 4 < 64 by omega)

theorem decode?_encode (bytes : Bytes) : decode? (encode bytes) = some bytes := by
  simp [decode?, head?_encode_ne_pad, quads_encode]

theorem length_encode (bytes : Bytes) : (encode bytes).length = (bytes.length + 2) / 3 * 4 := by
  fun_induction encode bytes with
  | case1 => rfl
  | case2 => simp
  | case3 => simp
  | case4 a b c r ih =>
    simp only [List.length_cons, ih]
    omega

end SealedDrop.Base64
