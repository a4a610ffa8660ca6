/-
  SealedDrop.Server.Identifier
  ────────────────────────────
  **TEXTS THAT CAN BE IDS.**

  An id is 128 bits in hexadecimal.  Hyphens, braces around it and the marks
  `urn:` and `uuid:` do not count; what remains must be 32 signs that make one
  hexadecimal number.  A text that is no id is not looked up at all.  An id is
  issued in five groups, with marks that tell it was drawn at random.
-/
import SealedDrop.Codec
import SealedDrop.Text.Numeral

namespace SealedDrop.Server

/-- A hexadecimal digit; decimal digits may be of any script. -/
def isHexSign (c : CodePoint) : Bool := c.hexDigit?.isSome || (Text.anyDigit? c).isSome

/-- Hexadecimal digits with single underscores between them. -/
def isHexRun : Bool → Text → Bool
  | after, [] => after
  | after, c :: r =>
    if c = '_' then after && isHexRun false r else isHexSign c && isHexRun true r

/-- A hexadecimal number: white space around it, a plus sign and the mark `0x` do not count. -/
def isHexNumber (t : Text) : Bool :=
  let body := Text.trim Text.isWhite t
  let body := (Text.dropLiteral? "+" body).getD body
  match Text.dropLiteral? "0x" (Text.lowerAscii body) with
  | some r => isHexRun false ((Text.dropLiteral? "_" r).getD r)
  | none => isHexRun false body

/-- What is left of an id without marks, braces and hyphens. -/
def bareId (t : Text) : Text :=
  let t := Text.removeLiteral "uuid:" (Text.removeLiteral "urn:" t)
  let t := Text.trim (fun c => c.val = 0x7B || c.val = 0x7D) t
  t.filter fun c => c ≠ CodePoint.ofChar '-'

/-- Whether a text can be an id. -/
def isIdentifier (t : Text) : Bool :=
  let b := bareId t
  b.length = 32 && isHexNumber b

/-- The id of sixteen octets, six bits of which give way to the marks. -/
def identifierOf (octets : Bytes) : Text :=
  let marked := (List.range 16).map fun i =>
    let b := octets.getD i 0
    if i = 6 then b &&& 0x0F ||| 0x40 else if i = 8 then b &&& 0x3F ||| 0x80 else b
  let digits := Hex.encode marked
  Text.joinWith "-" [digits.take 8, (digits.drop 8).take 4, (digits.drop 12).take 4,
    (digits.drop 16).take 4, digits.drop 20]

end SealedDrop.Server
