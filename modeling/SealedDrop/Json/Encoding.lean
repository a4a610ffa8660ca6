/-
  SealedDrop.Json.Encoding
  ────────────────────────
  **THE TEXT OF A JSON BODY.**

  A body may come in UTF-8, UTF-16 or UTF-32, in either octet order, with or
  without a byte order mark.  The first two characters of a document are
  ASCII, so the places of its first zero octets tell which encoding it is in.
  Surrogates are let through in all of them.
-/
import SealedDrop.Text.Utf8

namespace SealedDrop.Json

/-! ## §1. Wide encodings -/

/-- A number from octets in one of the two orders. -/
def numberOf (bigEndian : Bool) (b : Bytes) : Nat :=
  (if bigEndian then b else b.reverse).foldl (fun n x => n * 256 + x.toNat) 0

/-- The name of a wide encoding. -/
def wideName (size : Nat) (bigEndian : Bool) : Text :=
  "utf-" ++ Text.ofNat (8 * size) ++ (if bigEndian then "-be" else "-le")

/-- The text of 16-bit units, the first of which stands at `start`; surrogate pairs are joined. -/
def decode16 (bigEndian : Bool) (start : Nat) (bytes : Bytes) : Except Undecodable Text :=
  go bytes start none []
where
  /-- `high` is the first half of a pair still open. -/
  go : Bytes → Nat → Option CodePoint → Text → Except Undecodable Text
    | [], _, high, acc => .ok (high.toList ++ acc).reverse
    | [b], pos, _, _ => .error ⟨wideName 2 bigEndian, [b], pos, "truncated data"⟩
    | a :: b :: r, pos, high, acc =>
      let n := numberOf bigEndian [a, b]
      let low : Bool := 0xDC00 ≤ n && n ≤ 0xDFFF
      match high with
      | some h =>
        if low then
          go r (pos + 2) none
            (CodePoint.ofNat (0x10000 + (h.val - 0xD800) * 0x400 + (n - 0xDC00)) :: acc)
        else if 0xD800 ≤ n ∧ n ≤ 0xDBFF then go r (pos + 2) (some (CodePoint.ofNat n)) (h :: acc)
        else go r (pos + 2) none (CodePoint.ofNat n :: h :: acc)
      | none =>
        if 0xD800 ≤ n ∧ n ≤ 0xDBFF then go r (pos + 2) (some (CodePoint.ofNat n)) acc
        else go r (pos + 2) none (CodePoint.ofNat n :: acc)

/-- The text of 32-bit numbers, the first of which stands at `start`. -/
def decode32 (bigEndian : Bool) (start : Nat) (bytes : Bytes) : Except Undecodable Text :=
  go bytes start []
where
  go : Bytes → Nat → Text → Except Undecodable Text
    | a :: b :: c :: d :: r, pos, acc =>
      let n := numberOf bigEndian [a, b, c, d]
      if n < 0x110000 then go r (pos + 4) (CodePoint.ofNat n :: acc)
      else
        .error ⟨wideName 4 bigEndian, [a, b, c, d], pos, "code point not in range(0x110000)"⟩
    | [], _, acc => .ok acc.reverse
    | rest, pos, _ => .error ⟨wideName 4 bigEndian, rest, pos, "truncated data"⟩

/-! ## §2. Choosing -/

/-- The encodings a body may be in. -/
inductive Encoding where
  /-- Octets. -/
  | utf8
  /-- 16-bit units. -/
  | utf16 (bigEndian : Bool)
  /-- 32-bit numbers. -/
  | utf32 (bigEndian : Bool)
  deriving DecidableEq, Repr

/-- The encoding of a body, and the body without its byte order mark. -/
def Encoding.detect (body : Bytes) : Encoding × Bytes :=
  match body with
  | 0x00 :: 0x00 :: 0xFE :: 0xFF :: r => (.utf32 true, r)
  | 0xFF :: 0xFE :: 0x00 :: 0x00 :: r => (.utf32 false, r)
  | 0xFE :: 0xFF :: r => (.utf16 true, r)
  | 0xFF :: 0xFE :: r => (.utf16 false, r)
  | 0xEF :: 0xBB :: 0xBF :: r => (.utf8, r)
  | a :: b :: c :: d :: _ =>
    if a = 0 then (if b = 0 then .utf32 true else .utf16 true, body)
    else if b = 0 then (if c = 0 ∧ d = 0 then .utf32 false else .utf16 false, body)
    else (.utf8, body)
  | [a, b] =>
    if a = 0 then (.utf16 true, body)
    else if b = 0 then (.utf16 false, body)
    else (.utf8, body)
  | _ => (.utf8, body)

/-- The text of a body. Octets are counted from the first of a wide encoding, a byte order mark
included, and from behind the mark in UTF-8. -/
def textOfBody (body : Bytes) : Except Undecodable Text :=
  let (encoding, rest) := Encoding.detect body
  let start := body.length - rest.length
  match encoding with
  | .utf8 => Utf8.decodeWith true rest
  | .utf16 bigEndian => decode16 bigEndian start rest
  | .utf32 bigEndian => decode32 bigEndian start rest

end SealedDrop.Json
