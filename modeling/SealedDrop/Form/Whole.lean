/-
  SealedDrop.Form.Whole
  ─────────────────────
  **WHOLE NUMBERS IN A FORM.**

  A field for a whole number takes a truth value as 0 or 1, a number with
  fraction when the fraction is zero, and a text of digits: with white space
  around it, a sign, leading zeros, single underscores between digits, and a
  point with zeros behind it.  A text is tidied up step by step, and only what
  is left of it has to be short enough.
-/
import SealedDrop.Form.Reading
import SealedDrop.Text.Numeral

namespace SealedDrop.Form

/-- The most digits of a whole number. -/
def maxWholeDigits : Nat := 4300

/-- A text from its first digit on that is not a leading zero; underscores among leading zeros are
dropped with them, and a zero stays before a point and at the end.  The zeros may also end at a
hyphen, which is then the sign of what follows. -/
def dropLeadingZeros? : Text → Option Text
  | [] => none
  | c :: r =>
    if c = '0' then afterZero c r
    else if c.isDigit then some (c :: r)
    else none
where
  /-- The text after leading zeros, the last sign of which is `last`. -/
  afterZero (last : CodePoint) : Text → Option Text
    | [] => some [last]
    | c :: r =>
      if c = '0' ∨ c = '_' then afterZero c r
      else if c.isDigit ∨ c = '-' then some (c :: r)
      else if c = '.' then some (last :: c :: r)
      else none

/-- A text without its first point, if there are zeros behind it and nothing else. -/
def dropZeroPlaces (t : Text) : Text :=
  match Text.cutAt? '.' t with
  | some (whole, places) =>
    if !places.isEmpty && places.all (· = CodePoint.ofChar '0') then whole else t
  | none => t

/-- A text without its underscores, if they stand alone between other signs. -/
def dropUnderscores (t : Text) : Text :=
  if (Text.splitOn '_' t).any List.isEmpty then t
  else t.filter fun c => c ≠ CodePoint.ofChar '_'

/-- Digits that make up a text: their number, unless there are too many of them. A zero leads no
other digit. -/
def digitsNumber (t : Text) : Except Problem Nat :=
  let run := t.takeWhile CodePoint.isDigit
  if run.length > 1 ∧ run.head? = some (CodePoint.ofChar '0') then .error .unreadableInt
  else if maxWholeDigits < run.length then .error .oversizedInt
  else
    match Text.toNat? t with
    | some n => .ok n
    | none => .error .unreadableInt

/-- A whole number written as a text. -/
def intOfText (t : Text) : Except Problem Int :=
  let body := Text.trim Text.isWhite t
  let (negative, unsigned) : Bool × Text :=
    match body with
    | c :: r => if c = '-' then (true, r) else if c = '+' then (false, r) else (false, body)
    | [] => (false, [])
  match dropLeadingZeros? unsigned with
  | none => .error .unreadableInt
  | some rest =>
    let signed := dropUnderscores (dropZeroPlaces rest)
    match negative, Text.dropLiteral? "-" signed with
    | true, some _ => .error .unreadableInt
    | false, some digits => (digitsNumber digits).map fun n => -(n : Int)
    | true, none => (digitsNumber signed).map fun n => -(n : Int)
    | false, none => (digitsNumber signed).map Int.ofNat

/-- A whole number written with a fraction. -/
def intOfFloat (x : Float) : Except Problem Int :=
  match Double.ratio? x with
  | none => .error .notFinite
  | some _ =>
    if (Double.toInt? x).isNone then .error .fractionalInt
    else
      match int64OfFloat? x with
      | some n => .ok n
      | none => .error .oversizedInt

/-- A whole number with a least value. -/
def atLeast (least : Int) (n : Int) : Except Problem Int :=
  if least ≤ n then .ok n else .error (.below least)

end SealedDrop.Form
