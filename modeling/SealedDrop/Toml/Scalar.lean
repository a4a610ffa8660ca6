/-
  SealedDrop.Toml.Scalar
  ──────────────────────
  **STRINGS, NUMBERS, DATES AND TIMES.**

  Each reader looks at the start of a text and gives what it read and the
  rest.  Strings come in four kinds: with or without escapes, on one line or
  on several.  A number may have single underscores between its digits.
-/
import SealedDrop.Number.Double
import SealedDrop.Toml.Basic

namespace SealedDrop.Toml

/-! ## §1. Strings -/

/-- The double quote. -/
def quote : CodePoint := CodePoint.ofChar '"'

/-- The single quote. -/
def apostrophe : CodePoint := 0x27

/-- The backslash. -/
def backslash : CodePoint := CodePoint.ofChar '\\'

/-- The line feed. -/
def newline : CodePoint := CodePoint.ofChar '\n'

/-- A blank inside a line. -/
def isBlank (c : CodePoint) : Bool := c = CodePoint.ofChar ' ' || c = CodePoint.ofChar '\t'

/-- A blank, or the end of a line. -/
def isSpace (c : CodePoint) : Bool := isBlank c || c = newline

/-- A control character that may not stand where it is: tabs always may, and line feeds in what
spans lines. -/
def isForbidden (spansLines : Bool) (c : CodePoint) : Bool :=
  (c.val < 0x20 || c.val = 0x7F) && c ≠ CodePoint.ofChar '\t' && !(spansLines && c = newline)

/-- The value of hexadecimal digits. -/
def hexValue? (t : Text) : Option Nat :=
  (t.mapM CodePoint.hexDigit?).map fun ds => ds.foldl (fun n d => n * 16 + d) 0

/-- The code point that so many hexadecimal digits at the start name, if it is no surrogate. -/
def namedPoint? (digits : Nat) (t : Text) : Option CodePoint :=
  let ds := t.take digits
  if ds.length = digits then
    match hexValue? ds with
    | none => none
    | some n => if n < 0xD800 ∨ (0xDFFF < n ∧ n < 0x110000) then some (CodePoint.ofNat n) else none
  else none

/-- What a letter after a backslash stands for. -/
def simpleEscape? (c : CodePoint) : Option CodePoint :=
  if c = 'b' then some 0x08
  else if c = 't' then some 0x09
  else if c = 'n' then some 0x0A
  else if c = 'f' then some 0x0C
  else if c = 'r' then some 0x0D
  else if c = quote ∨ c = backslash then some c
  else none

/-- How many code points a backslash takes with it that stands at the end of a line: blanks, the
line feed, and all space after it. At the end of a document the line feed may be missing. -/
def lineJoin? (t : Text) : Option Nat :=
  let blanks := (t.takeWhile isBlank).length
  match t.drop blanks with
  | [] => some blanks
  | c :: r => if c = newline then some (blanks + 1 + (r.takeWhile isSpace).length) else none

/-- What an escape stands for, and how many code points it has after its backslash. -/
def escape? (spansLines : Bool) (t : Text) : Option (Text × Nat) :=
  match t with
  | [] => none
  | c :: r =>
    if spansLines && isSpace c then (lineJoin? t).map fun n => ([], n)
    else if c = 'u' then (namedPoint? 4 r).map fun p => ([p], 5)
    else if c = 'U' then (namedPoint? 8 r).map fun p => ([p], 9)
    else (simpleEscape? c).map fun p => ([p], 1)

/-- A string with escapes, from behind its opening quotes: `skip` code points still belong to the
last escape, and `acc` holds what was read, last first. -/
def escapedRest (spansLines : Bool) : Text → Nat → Text → Option (Text × Text)
  | [], _, _ => none
  | _ :: r, k + 1, acc => escapedRest spansLines r k acc
  | c :: r, 0, acc =>
    if c = quote then
      if !spansLines then some (acc.reverse, r)
      else if Text.startsWith r [quote, quote] then some (acc.reverse, r.drop 2)
      else escapedRest spansLines r 0 (c :: acc)
    else if c = backslash then
      match escape? spansLines r with
      | none => none
      | some (t, n) => escapedRest spansLines r n (t.reverse ++ acc)
    else if isForbidden spansLines c then none
    else escapedRest spansLines r 0 (c :: acc)

/-- A string without escapes, from behind its opening quotes. -/
def plainRest (spansLines : Bool) : Text → Text → Option (Text × Text)
  | [], _ => none
  | c :: r, acc =>
    if !spansLines && c = apostrophe then some (acc.reverse, r)
    else if spansLines && Text.startsWith (c :: r) [apostrophe, apostrophe, apostrophe] then
      some (acc.reverse, r.drop 2)
    else if isForbidden spansLines c then none
    else plainRest spansLines r (c :: acc)

/-- A text without the line feed at its start. -/
def dropNewline (t : Text) : Text :=
  match t with
  | c :: r => if c = newline then r else t
  | [] => []

/-- A string that spans lines, with the one or two quotes that may stand before the closing
ones. -/
def withQuotes (mark : CodePoint) (read : Text × Text) : Text × Text :=
  let extra := min 2 (read.2.takeWhile (· = mark)).length
  (read.1 ++ List.replicate extra mark, read.2.drop extra)

/-- A string that fits on a line. -/
def lineString? (t : Text) : Option (Text × Text) :=
  match t with
  | [] => none
  | c :: r =>
    if c = quote then escapedRest false r 0 []
    else if c = apostrophe then plainRest false r []
    else none

/-- A string of any kind. -/
def string? (t : Text) : Option (Text × Text) :=
  if Text.startsWith t [quote, quote, quote] then
    (escapedRest true (dropNewline (t.drop 3)) 0 []).map (withQuotes quote)
  else if Text.startsWith t [apostrophe, apostrophe, apostrophe] then
    (plainRest true (dropNewline (t.drop 3)) []).map (withQuotes apostrophe)
  else lineString? t

/-! ## §2. Keys -/

/-- A sign of a name without quotes. -/
def isNameSign (c : CodePoint) : Bool :=
  c.isLetter || c.isDigit || c = CodePoint.ofChar '-' || c = CodePoint.ofChar '_'

/-- A name. -/
def name? (t : Text) : Option (Text × Text) :=
  match t.takeWhile isNameSign with
  | [] => lineString? t
  | n => some (n, t.dropWhile isNameSign)

/-- Names with points between them, `n` of them at most, and blanks around each. -/
def key? : Nat → Text → Option (Key × Text)
  | 0, _ => none
  | n + 1, t =>
    match name? t with
    | none => none
    | some (k, t) =>
      match t.dropWhile isBlank with
      | c :: r =>
        if c = '.' then (key? n (r.dropWhile isBlank)).map fun (ks, t) => (k :: ks, t)
        else some ([k], c :: r)
      | [] => some ([k], [])

/-! ## §3. Numbers -/

/-- Digits with single underscores between them, from behind a digit, and the rest. -/
def moreDigits (isDigit : CodePoint → Bool) : Text → Text × Text
  | [] => ([], [])
  | [c] => if isDigit c then ([c], []) else ([], [c])
  | c :: d :: r =>
    if isDigit c then
      let (ds, rest) := moreDigits isDigit (d :: r)
      (c :: ds, rest)
    else if c = '_' ∧ isDigit d then
      let (ds, rest) := moreDigits isDigit r
      (d :: ds, rest)
    else ([], c :: d :: r)
termination_by t => t.length

/-- Digits, at least one, with single underscores between them. -/
def digits? (isDigit : CodePoint → Bool) (t : Text) : Option (Text × Text) :=
  match t with
  | [] => none
  | c :: r =>
    if isDigit c then
      let (ds, rest) := moreDigits isDigit r
      some (c :: ds, rest)
    else none

/-- The value of digits in a base. -/
def valueIn (base : Nat) (ds : Text) : Nat :=
  ds.foldl (fun n c => n * base + c.hexDigit?.getD 0) 0

/-- A number in hexadecimal, octal or binary. -/
def basedNumber? (t : Text) : Option (Int × Text) :=
  match t with
  | z :: b :: r =>
    let inBase (base : Nat) : Option (Int × Text) :=
      (digits? (fun c => match c.hexDigit? with | some d => d < base | none => false) r).map
        fun (ds, rest) => (Int.ofNat (valueIn base ds), rest)
    if z ≠ CodePoint.ofChar '0' then none
    else if b = 'x' then inBase 16
    else if b = 'o' then inBase 8
    else if b = 'b' then inBase 2
    else none
  | _ => none

/-- A sign, which may be missing. -/
def sign (t : Text) : Bool × Text :=
  match t with
  | c :: r => if c = '-' then (true, r) else if c = '+' then (false, r) else (false, t)
  | [] => (false, [])

/-- The whole part of a decimal number: a lone zero, or digits that start with another. -/
def wholePart? (t : Text) : Option (Text × Text) :=
  match t with
  | [] => none
  | c :: r => if c = '0' then some ([c], r) else digits? CodePoint.isDigit t

/-- A fraction, which may be missing. -/
def fraction (t : Text) : Text × Text :=
  match t with
  | c :: r => if c = '.' then (digits? CodePoint.isDigit r).getD ([], t) else ([], t)
  | [] => ([], [])

/-- An exponent, if there is one. -/
def exponent? (t : Text) : Option (Int × Text) :=
  match t with
  | [] => none
  | c :: r =>
    if c = 'e' ∨ c = 'E' then
      let (negative, r) := sign r
      (digits? CodePoint.isDigit r).map fun (ds, rest) =>
        let n := Int.ofNat (valueIn 10 ds)
        (if negative then -n else n, rest)
    else none

/-- The longest decimal whole number that is read. -/
def maxDigits : Nat := 4300

/-- A decimal number. -/
def decimal? (t : Text) : Option (Except Fault (Value × Text)) :=
  let (negative, body) := sign t
  match wholePart? body with
  | none => none
  | some (whole, afterWhole) =>
    let (places, afterPlaces) := fraction afterWhole
    match places, exponent? afterPlaces with
    | [], none =>
      if maxDigits < whole.length then some (.error (.tooManyDigits whole.length))
      else
        let n := Int.ofNat (valueIn 10 whole)
        some (.ok (.int (if negative then -n else n), afterWhole))
    | places, e =>
      let (shift, rest) := e.getD (0, afterPlaces)
      some (.ok (.float (Double.ofDecimal negative (valueIn 10 (whole ++ places))
        (shift - places.length)), rest))

/-- The numbers written as words. -/
def numberWords : List (Text × Float) :=
  let infinity : Float := 1.0 / 0.0
  let notANumber : Float := 0.0 / 0.0
  [("inf", infinity), ("nan", notANumber), ("+inf", infinity), ("-inf", -infinity),
   ("+nan", notANumber), ("-nan", notANumber)]

/-- A number of any kind. -/
def number? (t : Text) : Option (Except Fault (Value × Text)) :=
  match basedNumber? t with
  | some (n, rest) => some (.ok (.int n, rest))
  | none =>
    match decimal? t with
    | some r => some r
    | none =>
      (numberWords.findSome? fun (w, x) => (Text.dropLiteral? w t).map fun rest => (x, rest)).map
        fun (x, rest) => .ok (.float x, rest)

/-! ## §4. Dates and times -/

/-- So many digits at the start, with their value. -/
def fixed? (digits : Nat) (t : Text) : Option (Nat × Text) :=
  let ds := t.take digits
  if ds.length = digits then (Text.toNat? ds).map fun n => (n, t.drop digits) else none

/-- One sign at the start. -/
def mark? (marks : String) (t : Text) : Option (CodePoint × Text) :=
  match t with
  | c :: r => if (Text.ofString marks).contains c then some (c, r) else none
  | [] => none

/-- Two digits below a limit, and a mark before them. -/
def after? (mark : String) (limit : Nat) (t : Text) : Option (Nat × Text) := do
  let (_, t) ← mark? mark t
  let (n, t) ← fixed? 2 t
  if n < limit then some (n, t) else none

/-- A point with places of a second, in microseconds; more than six places are dropped. -/
def places (t : Text) : Nat × Text :=
  match mark? "." t with
  | none => (0, t)
  | some (_, r) =>
    let ds := r.takeWhile CodePoint.isDigit
    let six := (ds ++ List.replicate 6 (CodePoint.ofChar '0')).take 6
    if ds.isEmpty then (0, t) else ((Text.toNat? six).getD 0, r.drop ds.length)

/-- A time of day in microseconds. -/
def timeOfDay? (t : Text) : Option (Nat × Text) := do
  let (h, t) ← fixed? 2 t
  if 24 ≤ h then none
  let (m, t) ← after? ":" 60 t
  let (s, t) ← after? ":" 60 t
  let (micros, t) := places t
  return (((h * 60 + m) * 60 + s) * microsPerSecond + micros, t)

/-- An offset from UTC in seconds, which may be missing. -/
def offset (t : Text) : Option Int × Text :=
  match mark? "Zz" t with
  | some (_, r) => (some 0, r)
  | none =>
    let signed : Option (Int × Text) := do
      let (s, r) ← mark? "+-" t
      let (h, r) ← fixed? 2 r
      if 24 ≤ h then none
      let (m, r) ← after? ":" 60 r
      let n : Int := (h * 60 + m) * 60
      return (if s = CodePoint.ofChar '-' then -n else n, r)
    match signed with
    | some (n, r) => (some n, r)
    | none => (none, t)

/-- A date; its month and day are numbers of some month and day. -/
def date? (t : Text) : Option (Date × Text) := do
  let (y, t) ← fixed? 4 t
  let (m, t) ← after? "-" 13 t
  let (d, t) ← after? "-" 32 t
  if m = 0 ∨ d = 0 then none else return (⟨y, m, d⟩, t)

/-- A date, and a time of day behind it if there is one. -/
def dateOrStamp? (t : Text) : Option (Except Fault (Value × Text)) :=
  match date? t with
  | none => none
  | some (d, t) =>
    let check (v : Value) (rest : Text) : Except Fault (Value × Text) :=
      if d.valid then .ok (v, rest) else .error .malformed
    match (mark? "Tt " t).bind fun (_, r) => timeOfDay? r with
    | none => some (check (.date d) t)
    | some (micros, r) =>
      let (o, r) := offset r
      match Moment.ofMicros? (d.toDays * microsPerDay + micros) with
      | none => some (.error .malformed)
      | some m => some (check (.stamp ⟨m, o⟩) r)

end SealedDrop.Toml
