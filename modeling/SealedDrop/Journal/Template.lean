/-
  SealedDrop.Journal.Template
  ───────────────────────────
  **MESSAGES WITH BLANKS TO FILL.**

  A template is literal text with CONVERSIONS in it: a percent sign, flags, a
  width, a number of places, and a letter that says how the next argument is
  written.  Two percent signs in a row are a percent sign.  The arguments come
  in order; a conversion may name one instead, but there are no names to choose
  from, so it is never filled.

      Template.parse?    — the pieces of a template, if it is well formed
      Template.fill?     — the text of pieces with arguments in the blanks
      Template.message?  — both together; without arguments a template is its
                           own text, percent signs and all

  Filling fails as a whole: on an argument of the wrong kind, on too few of
  them, on one too many, and on a name.
-/
import SealedDrop.Json.Printer

namespace SealedDrop.Journal.Template

/-! ## §1. Pieces -/

/-- A width or a number of places. -/
inductive Extent where
  /-- Not written. -/
  | absent
  /-- Written out. -/
  | fixed (n : Nat)
  /-- Left to an argument. -/
  | given
  deriving DecidableEq, Repr

/-- How an argument is written. -/
inductive Kind where
  /-- Any value, as it stands in a sentence. -/
  | shown
  /-- Any value, as a literal. -/
  | literal
  /-- Any value, as a literal in ASCII. -/
  | plainLiteral
  /-- A whole number in decimal; fractions are cut off. -/
  | decimal
  /-- A whole number in octal. -/
  | octal
  /-- A whole number in hexadecimal. -/
  | hexadecimal (upper : Bool)
  /-- A number with an exponent. -/
  | scientific (upper : Bool)
  /-- A number with a fixed number of places. -/
  | positional (upper : Bool)
  /-- A number with so many significant digits. -/
  | general (upper : Bool)
  /-- One code point, or its number. -/
  | character
  deriving DecidableEq, Repr

/-- A blank. -/
structure Conversion where
  /-- The name of the argument that would go in here. -/
  key : Option Text := none
  /-- Stand at the left of the width. -/
  left : Bool := false
  /-- Give a number that is not negative a plus sign. -/
  plus : Bool := false
  /-- Give it a space for a sign, if not a plus. -/
  blank : Bool := false
  /-- Mark the base of a number, and keep its point and zeros. -/
  marked : Bool := false
  /-- Fill a number up with zeros. -/
  zeros : Bool := false
  /-- The least width. -/
  width : Extent := .absent
  /-- The number of places. -/
  places : Extent := .absent
  /-- How the argument is written. -/
  kind : Kind := .shown
  deriving DecidableEq, Repr

/-- A part of a template. -/
inductive Piece where
  /-- A code point that stands for itself. -/
  | point (c : CodePoint)
  /-- A blank. -/
  | conversion (c : Conversion)
  deriving DecidableEq, Repr

/-! ## §2. Taking a template apart -/

/-- The percent sign. -/
def percent : CodePoint := CodePoint.ofChar '%'

/-- The text up to the parenthesis that closes one already open, with `depth` more open inside. -/
def takeKey? (depth : Nat) : Text → Option (Text × Text)
  | [] => none
  | c :: r =>
    if c = ')' then
      match depth with
      | 0 => some ([], r)
      | d + 1 => (takeKey? d r).map fun (k, s) => (c :: k, s)
    else
      (takeKey? (if c = '(' then depth + 1 else depth) r).map fun (k, s) => (c :: k, s)

/-- Flags, in any order and number. -/
def takeFlags (c : Conversion) : Text → Conversion × Text
  | [] => (c, [])
  | p :: r =>
    if p = '-' then takeFlags { c with left := true } r
    else if p = '+' then takeFlags { c with plus := true } r
    else if p = ' ' then takeFlags { c with blank := true } r
    else if p = '#' then takeFlags { c with marked := true } r
    else if p = '0' then takeFlags { c with zeros := true } r
    else (c, p :: r)

/-- A width or a number of places, when there is one. -/
def takeExtent : Text → Extent × Text
  | [] => (.absent, [])
  | c :: r =>
    if c = '*' then (.given, r)
    else
      match (c :: r).takeWhile CodePoint.isDigit with
      | [] => (.absent, c :: r)
      | ds => (.fixed (Text.digitsValue (ds.filterMap CodePoint.digit?)),
          (c :: r).dropWhile CodePoint.isDigit)

/-- A number of places after a point; the point alone means none. -/
def takePlaces : Text → Extent × Text
  | [] => (.absent, [])
  | c :: r =>
    if c = '.' then
      match takeExtent r with
      | (.absent, s) => (.fixed 0, s)
      | found => found
    else (.absent, c :: r)

/-- A letter for the size of a number, which means nothing. -/
def skipSize : Text → Text
  | [] => []
  | c :: r => if c = 'h' ∨ c = 'l' ∨ c = 'L' then r else c :: r

/-- The letters of the ways to write an argument. -/
def kinds : List (Char × Kind) :=
  [('s', .shown), ('r', .literal), ('a', .plainLiteral), ('d', .decimal), ('i', .decimal),
   ('u', .decimal), ('o', .octal), ('x', .hexadecimal false), ('X', .hexadecimal true),
   ('e', .scientific false), ('E', .scientific true), ('f', .positional false),
   ('F', .positional true), ('g', .general false), ('G', .general true), ('c', .character)]

/-- A conversion after its percent sign, and the rest of the template. -/
def takeConversion? (t : Text) : Option (Conversion × Text) := do
  let (key, t) ← match t with
    | [] => none
    | c :: r =>
      if c = '(' then (takeKey? 0 r).map fun (k, s) => (some k, s) else some (none, c :: r)
  let (c, t) := takeFlags { key } t
  let (width, t) := takeExtent t
  let (places, t) := takePlaces t
  match skipSize t with
  | [] => none
  | letter :: r =>
    let (_, kind) ← kinds.find? fun (l, _) => letter = CodePoint.ofChar l
    return ({ c with width, places, kind }, r)

/-- The piece that a percent sign starts, read from after it, and the rest of the template. -/
def takePiece? (t : Text) : Option (Piece × Text) :=
  match t with
  | [] => none
  | c :: r =>
    if c = percent then some (.point percent, r)
    else (takeConversion? (c :: r)).map fun (conversion, s) => (.conversion conversion, s)

/-- The pieces of a template. -/
def parse? (t : Text) : Option (List Piece) :=
  match t with
  | [] => some []
  | c :: r =>
    if c = percent then
      match takePiece? r with
      | none => none
      | some (piece, s) =>
        if s.length ≤ r.length then (parse? s).map (piece :: ·) else none
    else (parse? r).map (.point c :: ·)
termination_by t.length

/-! ## §3. Arguments -/

/-- The whole number that an argument is, truth values included. -/
def whole? : Json → Option Int
  | .bool b => some (if b then 1 else 0)
  | .int n => some n
  | _ => none

/-- The whole number that an argument is cut off to. -/
def cut? : Json → Option Int
  | .float x => Double.truncate? x
  | v => whole? v

/-- The double that an argument is; a whole number that is too great is none. -/
def double? : Json → Option Float
  | .float x => some x
  | v => (whole? v).bind fun n =>
    let x := Double.ofInt n
    (Double.ratio? x).map fun _ => x

/-! ## §4. Writing one argument -/

/-- A number taken apart for filling up. -/
structure Numeral where
  /-- Whether it has a minus sign. -/
  negative : Bool
  /-- The mark of its base. -/
  mark : Text
  /-- The rest. -/
  digits : Text
  deriving DecidableEq, Repr

/-- The greatest width and number of places. -/
def maxExtent : Nat := 2147483647

/-- A text in its width. -/
def layText (c : Conversion) (width : Nat) (t : Text) : Text :=
  if c.left then Text.padRight width ' ' t else Text.padLeft width ' ' t

/-- A number in its width: zeros go between sign and digits, spaces before the sign or after the
digits. -/
def layNumeral (c : Conversion) (width : Nat) (x : Numeral) : Text :=
  let sign : Text :=
    if x.negative then "-" else if c.plus then "+" else if c.blank then " " else []
  let lead := sign ++ x.mark
  if c.zeros && !c.left then lead ++ Text.padLeft (width - lead.length) '0' x.digits
  else layText c width (lead ++ x.digits)

/-- A whole number in a base, with at least so many digits. -/
def wholeNumeral (base : Nat) (mark : Text) (places : Option Nat) (n : Int) : Numeral :=
  ⟨n < 0, mark, Text.padLeft (places.getD 0) '0'
    ((Nat.toDigits base n.natAbs).map CodePoint.ofChar)⟩

/-- A text with a point before its exponent, or at its end, if it has none. -/
def keepPoint (t : Text) : Text :=
  if t.contains (CodePoint.ofChar '.') then t
  else
    let beforeExponent (c : CodePoint) : Bool := c ≠ CodePoint.ofChar 'e'
    t.takeWhile beforeExponent ++ Text.ofString "." ++ t.dropWhile beforeExponent

/-- A double: its magnitude written by `write`, or a word when it is not finite. -/
def doubleNumeral (write : Nat → Nat → Text) (marked upper : Bool) (x : Float) : Numeral :=
  let inCase (t : Text) : Text := if upper then Text.upperAscii t else t
  match Double.ratio? x with
  | some (n, d) =>
    let t := write n d
    ⟨Double.isNegative x, [], inCase (if marked then keepPoint t else t)⟩
  | none => if x.isNaN then ⟨false, [], inCase "nan"⟩ else ⟨Double.isNegative x, [], inCase "inf"⟩

/-- A text with everything beyond ASCII written as an escape. -/
def asciiText (t : Text) : Text :=
  t.flatMap fun c =>
    if c.isAscii then [c]
    else if c.val < 0x100 then "\\x" ++ Text.hex 2 c.val
    else if c.val < 0x10000 then "\\u" ++ Text.hex 4 c.val
    else "\\U" ++ Text.hex 8 c.val

/-- The code point that an argument is. -/
def point? : Json → Option CodePoint
  | .text [c] => some c
  | .text _ => none
  | v => (whole? v).bind fun n =>
    if 0 ≤ n ∧ n < 0x110000 then some (CodePoint.ofNat n.toNat) else none

/-- An argument written as a conversion asks, in its width. -/
def write? (c : Conversion) (width : Nat) (places : Option Nat) (a : Json) : Option Text :=
  let cut (t : Text) : Text :=
    match places with
    | some p => t.take p
    | none => t
  let p := places.getD 6
  match c.kind with
  | .shown => some (layText c width (cut (Json.shown a)))
  | .literal => some (layText c width (cut (Json.literal a)))
  | .plainLiteral => some (layText c width (cut (asciiText (Json.literal a))))
  | .decimal => (cut? a).map fun n => layNumeral c width (wholeNumeral 10 [] places n)
  | .octal =>
    (whole? a).map fun n =>
      layNumeral c width (wholeNumeral 8 (if c.marked then "0o" else []) places n)
  | .hexadecimal upper =>
    (whole? a).map fun n =>
      let x := wholeNumeral 16 (if c.marked then "0x" else []) places n
      layNumeral c width
        (if upper then { x with mark := Text.upperAscii x.mark, digits := Text.upperAscii x.digits }
          else x)
  | .scientific upper =>
    (double? a).map fun x => layNumeral c width
      (doubleNumeral (fun n d => Double.scientificRatio n d p) c.marked upper x)
  | .positional upper =>
    (double? a).map fun x => layNumeral c width
      (doubleNumeral (fun n d => Double.fixedRatio n d p) c.marked upper x)
  | .general upper =>
    (double? a).map fun x => layNumeral c width
      (doubleNumeral (fun n d => Double.generalRatio n d p c.marked) c.marked upper x)
  | .character => (point? a).map fun d => layText c width [d]

/-! ## §5. Filling a template -/

/-- The first argument and those after it. -/
def next? : List Json → Option (Json × List Json)
  | [] => none
  | a :: r => some (a, r)

/-- The value of an extent; one that is left to an argument takes it. -/
def extent? (args : List Json) : Extent → Option (Option Int × List Json)
  | .absent => some (none, args)
  | .fixed n => if n ≤ maxExtent then some (some n, args) else none
  | .given => do
    let (a, args) ← next? args
    let n ← whole? a
    if n.natAbs ≤ maxExtent then some (some n, args) else none

/-- A conversion filled in, and the arguments that are left.  A negative width moves the text to
the left; a negative number of places is none. -/
def convert? (args : List Json) (c : Conversion) : Option (Text × List Json) := do
  if c.key.isSome then none
  let (width, args) ← extent? args c.width
  let (places, args) ← extent? args c.places
  let width := width.getD 0
  let c := if width < 0 then { c with left := true } else c
  let (a, args) ← next? args
  let t ← write? c width.natAbs (places.map Int.toNat) a
  return (t, args)

/-- The text of pieces, with arguments in the blanks. -/
def fill? (args : List Json) : List Piece → Option Text
  | [] => if args.isEmpty then some [] else none
  | .point c :: r => (fill? args r).map (c :: ·)
  | .conversion c :: r => do
    let (t, args) ← convert? args c
    let rest ← fill? args r
    return t ++ rest

/-- The message of a template and its arguments. -/
def message? (template : Text) (args : List Json) : Option Text :=
  if args.isEmpty then some template
  else (parse? template).bind (fill? args)

end SealedDrop.Journal.Template
