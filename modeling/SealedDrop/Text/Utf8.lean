/-
  SealedDrop.Text.Utf8
  ────────────────────
  **UTF-8, STRICT AND WITH POSITIONS.**

  Encoding refuses a text that holds a surrogate and says where the first run
  of surrogates lies; decoding refuses overlong forms, surrogates, numbers
  beyond U+10FFFF and truncated sequences, and says which bytes are at fault.
  Both faults carry the wording that a rejected request shows its sender.

  Main statement: encoding a text without surrogates always succeeds
  (`Utf8.encode_of_isScalar`).
-/
import SealedDrop.Text.Basic

namespace SealedDrop

/-- A sequence of octets. -/
abbrev Bytes := List UInt8

/-- Why a text has no encoding: its first run of surrogates. -/
structure Unencodable where
  /-- The first surrogate. -/
  point : CodePoint
  /-- Its index in the text. -/
  start : Nat
  /-- The number of surrogates in a row from there. -/
  count : Nat
  deriving DecidableEq, Repr

namespace Unencodable

/-- The wording of the fault. -/
def message (e : Unencodable) : Text :=
  if e.count ≤ 1 then
    "'utf-8' codec can't encode character '\\u" ++ Text.hex 4 e.point.val ++ "' in position "
      ++ Text.ofNat e.start ++ ": surrogates not allowed"
  else
    "'utf-8' codec can't encode characters in position " ++ Text.ofNat e.start ++ "-"
      ++ Text.ofNat (e.start + e.count - 1) ++ ": surrogates not allowed"

end Unencodable

/-- Why octets are no text. -/
structure Undecodable where
  /-- The name of the encoding. -/
  codec : Text
  /-- The octets at fault, from the first. -/
  octets : Bytes
  /-- Where they start. -/
  start : Nat
  /-- What is wrong with them. -/
  reason : Text
  deriving DecidableEq, Repr

namespace Undecodable

/-- The wording of the fault: one octet is shown, several are located. -/
def message (e : Undecodable) : Text :=
  match e.octets with
  | [b] =>
    "'" ++ e.codec ++ "' codec can't decode byte 0x" ++ Text.hex 2 b.toNat ++ " in position "
      ++ Text.ofNat e.start ++ ": " ++ e.reason
  | bs =>
    "'" ++ e.codec ++ "' codec can't decode bytes in position " ++ Text.ofNat e.start ++ "-"
      ++ Text.ofNat (e.start + bs.length - 1) ++ ": " ++ e.reason

end Undecodable

namespace Utf8

/-! ## §1. Encoding -/

/-- The octets of one code point; a surrogate is given the three octets of its number. -/
def encodePoint (c : CodePoint) : Bytes :=
  let n := c.val
  if n < 0x80 then [UInt8.ofNat n]
  else if n < 0x800 then [UInt8.ofNat (0xC0 + n / 0x40), UInt8.ofNat (0x80 + n % 0x40)]
  else if n < 0x10000 then
    [UInt8.ofNat (0xE0 + n / 0x1000), UInt8.ofNat (0x80 + n / 0x40 % 0x40),
      UInt8.ofNat (0x80 + n % 0x40)]
  else
    [UInt8.ofNat (0xF0 + n / 0x40000), UInt8.ofNat (0x80 + n / 0x1000 % 0x40),
      UInt8.ofNat (0x80 + n / 0x40 % 0x40), UInt8.ofNat (0x80 + n % 0x40)]

/-- The first run of surrogates of a text, if it has any. -/
def firstSurrogates (t : Text) : Option Unencodable :=
  match t.dropWhile (fun c => !c.isSurrogate) with
  | [] => none
  | c :: r =>
    some ⟨c, (t.takeWhile fun c => !c.isSurrogate).length,
      1 + (r.takeWhile CodePoint.isSurrogate).length⟩

/-- The first run of surrogates that starts with one that is not spared. -/
def firstSurrogatesBut (spared : CodePoint → Bool) (t : Text) : Option Unencodable :=
  let passes (c : CodePoint) : Bool := !c.isSurrogate || spared c
  match t.dropWhile passes with
  | [] => none
  | c :: r =>
    some ⟨c, (t.takeWhile passes).length, 1 + (r.takeWhile CodePoint.isSurrogate).length⟩

/-- The octets of a text without surrogates. -/
def encode (t : Text) : Except Unencodable Bytes :=
  match firstSurrogates t with
  | some e => .error e
  | none => .ok (t.flatMap encodePoint)

/-! ## §2. Decoding -/

/-- Whether an octet continues a sequence. -/
def isTail (b : UInt8) : Bool := 0x80 ≤ b && b ≤ 0xBF

/-- What stands at the head of some octets. -/
inductive Head where
  /-- A code point, and how many octets it takes. -/
  | point (c : CodePoint) (size : Nat)
  /-- Octets that start no code point: how many are at fault, and why. -/
  | fault (size : Nat) (reason : Text)

/-- The code point with a payload assembled from its octets. -/
def assemble (lead : Nat) (tails : List UInt8) : CodePoint :=
  CodePoint.ofNat (tails.foldl (fun n b => n * 0x40 + (b.toNat - 0x80)) lead)

/-- The head of nonempty octets. A sequence that breaks off is at fault as far as it could still
have been continued; at the end of the octets it is truncated. -/
def head (surrogates : Bool) (b : UInt8) (r : Bytes) : Head :=
  if b < 0x80 then .point (CodePoint.ofNat b.toNat) 1
  else if b < 0xC2 then .fault 1 "invalid start byte"
  else if b < 0xE0 then
    match r with
    | [] => truncated 1
    | c :: _ => if isTail c then .point (assemble (b.toNat - 0xC0) [c]) 2 else broken 1
  else if b < 0xF0 then
    match r with
    | [] => truncated 1
    | c :: r =>
      if surrogates && b == 0xED && isTail c && c ≥ 0xA0 then
        match r with
        | d :: _ => if isTail d then .point (assemble (b.toNat - 0xE0) [c, d]) 3 else broken 1
        | [] => broken 1
      else if !second3 c then broken 1
      else
        match r with
        | [] => truncated 2
        | d :: _ => if isTail d then .point (assemble (b.toNat - 0xE0) [c, d]) 3 else broken 2
  else if b < 0xF5 then
    match r with
    | [] => truncated 1
    | c :: r =>
      if !second4 c then broken 1
      else
        match r with
        | [] => truncated 2
        | d :: r =>
          if !isTail d then broken 2
          else
            match r with
            | [] => truncated 3
            | e :: _ =>
              if isTail e then .point (assemble (b.toNat - 0xF0) [c, d, e]) 4 else broken 3
  else .fault 1 "invalid start byte"
where
  truncated (n : Nat) : Head := .fault n "unexpected end of data"
  broken (n : Nat) : Head := .fault n "invalid continuation byte"
  second3 (c : UInt8) : Bool :=
    isTail c && !(b == 0xE0 && c < 0xA0) && !(b == 0xED && c ≥ 0xA0)
  second4 (c : UInt8) : Bool :=
    isTail c && !(b == 0xF0 && c < 0x90) && !(b == 0xF4 && c ≥ 0x90)

/-- The text of some octets. `surrogates` also admits the three-octet form of a surrogate. -/
def decodeWith (surrogates : Bool) (bytes : Bytes) : Except Undecodable Text :=
  go bytes 0 0 []
where
  /-- `skip` octets still belong to the code point read last. -/
  go : Bytes → Nat → Nat → Text → Except Undecodable Text
    | [], _, _, acc => .ok acc.reverse
    | _ :: r, pos, skip + 1, acc => go r (pos + 1) skip acc
    | b :: r, pos, 0, acc =>
      match head surrogates b r with
      | .point c size => go r (pos + 1) (size - 1) (c :: acc)
      | .fault size reason => .error ⟨"utf-8", (b :: r).take size, pos, reason⟩

/-- The text of strict UTF-8. -/
def decode (bytes : Bytes) : Except Undecodable Text := decodeWith false bytes

/-- The text of octets of any kind: whatever is at fault becomes one U+FFFD. -/
def decodeLossy (bytes : Bytes) : Text :=
  go bytes 0 []
where
  go : Bytes → Nat → Text → Text
    | [], _, acc => acc.reverse
    | _ :: r, skip + 1, acc => go r skip acc
    | b :: r, 0, acc =>
      match head false b r with
      | .point c size => go r (size - 1) (c :: acc)
      | .fault size _ => go r (size - 1) (0xFFFD :: acc)

/-! ## §3. Small laws -/

theorem dropWhile_of_isScalar {t : Text} (h : t.isScalar = true) :
    t.dropWhile (fun c => !c.isSurrogate) = [] := by
  induction t with
  | nil => rfl
  | cons c r ih =>
    simp only [Text.isScalar, List.all_cons, Bool.and_eq_true] at h
    rw [List.dropWhile_cons, if_pos h.1]
    exact ih h.2

theorem encode_of_isScalar {t : Text} (h : t.isScalar = true) :
    encode t = .ok (t.flatMap encodePoint) := by
  simp [encode, firstSurrogates, dropWhile_of_isScalar h]

end Utf8

end SealedDrop
