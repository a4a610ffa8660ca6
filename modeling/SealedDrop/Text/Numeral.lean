/-
  SealedDrop.Text.Numeral
  ───────────────────────
  **NUMBERS AS PEOPLE TYPE THEM.**

  A typed number may have white space around it, a sign, single underscores between
  digits, and decimal digits of any script.
-/
import SealedDrop.Text.Printable

namespace SealedDrop.Text

/-! ## §1. Whole numbers -/

/-- The zeros of all scripts that have ten decimal digits in a row; Unicode Character Database,
version 14. -/
def zeros : List Nat :=
  [0x30, 0x660, 0x6f0, 0x7c0, 0x966, 0x9e6, 0xa66, 0xae6, 0xb66, 0xbe6, 0xc66,
   0xce6, 0xd66, 0xde6, 0xe50, 0xed0, 0xf20, 0x1040, 0x1090, 0x17e0, 0x1810,
   0x1946, 0x19d0, 0x1a80, 0x1a90, 0x1b50, 0x1bb0, 0x1c40, 0x1c50, 0xa620, 0xa8d0,
   0xa900, 0xa9d0, 0xa9f0, 0xaa50, 0xabf0, 0xff10, 0x104a0, 0x10d30, 0x11066, 0x110f0,
   0x11136, 0x111d0, 0x112f0, 0x11450, 0x114d0, 0x11650, 0x116c0, 0x11730, 0x118e0, 0x11950,
   0x11c50, 0x11d50, 0x11da0, 0x16a60, 0x16ac0, 0x16b50, 0x1d7ce, 0x1d7d8, 0x1d7e2, 0x1d7ec,
   0x1d7f6, 0x1e140, 0x1e2f0, 0x1e950, 0x1fbf0]

/-- The value of a decimal digit of any script. -/
def anyDigit? (c : CodePoint) : Option Nat :=
  (zeros.find? fun z => z ≤ c.val && c.val ≤ z + 9).map fun z => c.val - z

/-- White space: what may stand around a number. -/
def isWhite (c : CodePoint) : Bool :=
  let n := c.val
  (0x09 ≤ n && n ≤ 0x0D) || n = 0x20 || n = 0x85 || n = 0xA0 || n = 0x1680
    || (0x2000 ≤ n && n ≤ 0x200A) || n = 0x2028 || n = 0x2029 || n = 0x202F || n = 0x205F
    || n = 0x3000

/-- A blank of any kind: white space and the four separators of ASCII. -/
def isBlank (c : CodePoint) : Bool := isWhite c || (0x1C ≤ c.val && c.val ≤ 0x1F)

/-- Digits with single underscores between them; `after` says whether a digit came just before. -/
def digitRun : Bool → Text → Option (List Nat)
  | after, [] => if after then some [] else none
  | after, c :: r =>
    if c = '_' then (if after then digitRun false r else none)
    else do
      let d ← anyDigit? c
      let ds ← digitRun true r
      return d :: ds

/-- The digits of a typed number, with its sign. -/
def typedDigits? (t : Text) : Option (Bool × List Nat) :=
  let body := trim isWhite t
  match body with
  | [] => none
  | c :: r =>
    if c = '-' then (digitRun false r).map fun ds => (true, ds)
    else if c = '+' then (digitRun false r).map fun ds => (false, ds)
    else (digitRun false body).map fun ds => (false, ds)

/-- The longest number that is read. -/
def maxTypedDigits : Nat := 4300

/-- The complaint about a numeral with so many digits. -/
def overlongNumeral (digits : Nat) : Text :=
  "Exceeds the limit (" ++ ofNat maxTypedDigits
    ++ " digits) for integer string conversion: value has " ++ ofNat digits
    ++ " digits; use sys.set_int_max_str_digits() to increase the limit"

/-- Why a text is no whole number. -/
inductive NumeralFault where
  /-- It is not written like one. -/
  | malformed (typed : Text)
  /-- It has more digits than are read. -/
  | overlong (digits : Nat)
  deriving DecidableEq, Repr

/-- The wording of a fault; a long text is cut off. -/
def NumeralFault.message : NumeralFault → Text
  | .malformed t => "invalid literal for int() with base 10: " ++ (quoted t).take 200
  | .overlong n => overlongNumeral n

/-- A typed whole number, or why there is none. -/
def readInt (t : Text) : Except NumeralFault Int :=
  match typedDigits? t with
  | none => .error (.malformed t)
  | some (negative, ds) =>
    if maxTypedDigits < ds.length then .error (.overlong ds.length)
    else
      let n : Int := digitsValue ds
      .ok (if negative then -n else n)

/-- A typed whole number, if there is one. -/
def toInt? (t : Text) : Option Int := (readInt t).toOption

/-! ## §2. Numbers with a point -/

/-- A text without its sign. -/
def unsigned : Text → Text
  | [] => []
  | c :: r => if c = '-' ∨ c = '+' then r else c :: r

/-- Whether digits with a point, at the start, in the middle or at the end of them, stand here. -/
def isMantissa (t : Text) : Bool :=
  let isRun (d : Text) : Bool := (digitRun false d).isSome
  match cutAt? '.' t with
  | none => isRun t
  | some ([], b) => isRun b
  | some (a, b) => isRun a && (b.isEmpty || isRun b)

/-- The sign before an exponent. -/
def isExponentSign (c : CodePoint) : Bool := c.toLowerAscii = CodePoint.ofChar 'e'

/-- Whether a text is written like a number that need not be whole: digits with a point, with an
exponent, or one of the names of what is not finite. -/
def isNumber (t : Text) : Bool :=
  let body := unsigned (trim isWhite t)
  let names : List Text := ["inf", "infinity", "nan"]
  if names.contains (lowerAscii body) then true
  else
    match body.dropWhile fun c => !isExponentSign c with
    | [] => isMantissa body
    | _ :: exponent =>
      isMantissa (body.takeWhile fun c => !isExponentSign c)
        && (digitRun false (unsigned exponent)).isSome

end SealedDrop.Text
