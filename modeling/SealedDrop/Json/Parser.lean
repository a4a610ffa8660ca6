/-
  SealedDrop.Json.Parser
  ──────────────────────
  **READING JSON, AND SAYING WHERE IT IS WRONG.**

  The reader accepts the standard grammar and the three names `NaN`,
  `Infinity` and `-Infinity`.  A malformed document is reported with its
  first fault and the place of it as line, column and offset; each fault has
  one place, fixed by where the reader stood (an unterminated string is
  reported at its opening quote, a bad escape at its backslash or at the `u`).

  Strings are scanned by structural recursion on the text.  Nested values
  recurse on a fuel that `readText` sets from the length of the document: two
  steps of nesting use up at least one code point, so the fuel never runs out.
  Apart from that, values may be nested `maxDepth` deep and no deeper; one that
  opens too deep is reported before anything inside it is looked at.
-/
import SealedDrop.Json.Basic
import SealedDrop.Text.Numeral

namespace SealedDrop.Json

/-! ## §1. Faults -/

/-- What is wrong with a document. -/
inductive Flaw where
  /-- No value starts here. -/
  | expectingValue
  /-- A member must start with its name. -/
  | expectingName
  /-- A colon must follow the name. -/
  | expectingColon
  /-- A comma or the closing bracket must follow. -/
  | expectingComma
  /-- Something follows the value. -/
  | extraData
  /-- A string is not closed. -/
  | unterminatedString
  /-- A control character stands in a string. -/
  | controlCharacter
  /-- A backslash is followed by no known escape. -/
  | badEscape
  /-- An escape `u` is not followed by four hexadecimal digits. -/
  | badUnitEscape
  /-- The document starts with a byte order mark. -/
  | byteOrderMark
  deriving DecidableEq, Repr

namespace Flaw

/-- The wording of a flaw. -/
def message : Flaw → Text
  | .expectingValue => "Expecting value"
  | .expectingName => "Expecting property name enclosed in double quotes"
  | .expectingColon => "Expecting ':' delimiter"
  | .expectingComma => "Expecting ',' delimiter"
  | .extraData => "Extra data"
  | .unterminatedString => "Unterminated string starting at"
  | .controlCharacter => "Invalid control character at"
  | .badEscape => "Invalid \\escape"
  | .badUnitEscape => "Invalid \\uXXXX escape"
  | .byteOrderMark => "Unexpected UTF-8 BOM (decode using utf-8-sig)"

end Flaw

/-- Why a document has no value. -/
inductive Fault where
  /-- It is malformed at an offset. -/
  | malformed (flaw : Flaw) (offset : Nat)
  /-- It holds a whole number with this many digits, too many to read. -/
  | tooManyDigits (digits : Nat)
  /-- It holds an object, or else an array, inside too many others. -/
  | tooDeep (isObject : Bool)
  deriving DecidableEq, Repr

/-- The longest whole number that is read. -/
def maxDigits : Nat := 4300

/-- How deep arrays and objects may be nested. This is the limit of the interpreter on nested calls, less
the calls that are open where a document is read; it was measured at one such depth, and a reader that
is called from deeper down has less room. -/
def maxDepth : Nat := 990

/-- Line and column of an offset, both counted from one. -/
def place (document : Text) (offset : Nat) : Nat × Nat :=
  let before := document.take offset
  let newline := CodePoint.ofChar '\n'
  (before.count newline + 1, (before.reverse.takeWhile (· ≠ newline)).length + 1)

namespace Fault

/-- The wording of a fault in a document. -/
def message (document : Text) : Fault → Text
  | .malformed flaw offset =>
    let (line, column) := place document offset
    flaw.message ++ ": line " ++ Text.ofNat line ++ " column " ++ Text.ofNat column ++ " (char "
      ++ Text.ofNat offset ++ ")"
  | .tooManyDigits n => Text.overlongNumeral n
  | .tooDeep isObject =>
    "maximum recursion depth exceeded while decoding a JSON "
      ++ (if isObject then Text.ofString "object" else Text.ofString "array")
      ++ " from a unicode string"

end Fault

/-! ## §2. Cursors -/

/-- Where the reader stands: the rest of the document and its offset. -/
structure Cursor where
  /-- What is still to be read. -/
  rest : Text
  /-- How much has been read. -/
  offset : Nat

namespace Cursor

/-- Past `n` code points. -/
def advance (c : Cursor) (n : Nat) : Cursor := ⟨c.rest.drop n, c.offset + n⟩

/-- Past blanks. -/
def skipBlanks (c : Cursor) : Cursor :=
  let blank (x : CodePoint) : Bool := x = ' ' || x = '\t' || x = '\n' || x = '\r'
  ⟨c.rest.dropWhile blank, c.offset + (c.rest.takeWhile blank).length⟩

end Cursor

/-! ## §3. Strings -/

/-- The value of four hexadecimal digits. -/
def unit? (a b c d : CodePoint) : Option Nat := do
  let a ← a.hexDigit?
  let b ← b.hexDigit?
  let c ← c.hexDigit?
  let d ← d.hexDigit?
  return ((a * 16 + b) * 16 + c) * 16 + d

/-- What a simple escape stands for. -/
def escape? (c : CodePoint) : Option CodePoint :=
  if c = '"' then some c
  else if c = '\\' then some c
  else if c = '/' then some c
  else if c = 'b' then some 0x08
  else if c = 'f' then some 0x0C
  else if c = 'n' then some '\n'
  else if c = 'r' then some '\r'
  else if c = 't' then some '\t'
  else none

/-- A surrogate that starts a pair. -/
def isHigh (n : Nat) : Bool := 0xD800 ≤ n && n ≤ 0xDBFF

/-- A surrogate that ends a pair. -/
def isLow (n : Nat) : Bool := 0xDC00 ≤ n && n ≤ 0xDFFF

/-- The code point of a surrogate pair. -/
def pairPoint (hi lo : Nat) : CodePoint :=
  CodePoint.ofNat (0x10000 + (hi - 0xD800) * 0x400 + (lo - 0xDC00))

/-- The rest of a string after its opening quote at `quote`: its text and the cursor behind the
closing quote. Two escapes that spell a surrogate pair make one code point. The digits of an
escape must not end the document. -/
def scanString (quote : Nat) : Text → Nat → Text → Except Fault (Text × Cursor)
  | [], _, _ => .error (.malformed .unterminatedString quote)
  | c :: r, at', acc =>
    if c = '"' then .ok (acc.reverse, ⟨r, at' + 1⟩)
    else if c = '\\' then
      match r with
      | [] => .error (.malformed .unterminatedString quote)
      | e :: r =>
        if e = 'u' then
          match r with
          | h1 :: h2 :: h3 :: h4 :: n :: r =>
            match unit? h1 h2 h3 h4 with
            | none => .error (.malformed .badUnitEscape (at' + 1))
            | some u =>
              match r with
              | v :: k1 :: k2 :: k3 :: k4 :: n' :: r' =>
                if isHigh u && n = '\\' && v = 'u' then
                  match unit? k1 k2 k3 k4 with
                  | none => .error (.malformed .badUnitEscape (at' + 7))
                  | some w =>
                    if isLow w then scanString quote (n' :: r') (at' + 12) (pairPoint u w :: acc)
                    else
                      scanString quote (n :: v :: k1 :: k2 :: k3 :: k4 :: n' :: r') (at' + 6)
                        (CodePoint.ofNat u :: acc)
                else
                  scanString quote (n :: v :: k1 :: k2 :: k3 :: k4 :: n' :: r') (at' + 6)
                    (CodePoint.ofNat u :: acc)
              | r => scanString quote (n :: r) (at' + 6) (CodePoint.ofNat u :: acc)
          | _ => .error (.malformed .badUnitEscape (at' + 1))
        else
          match escape? e with
          | some x => scanString quote r (at' + 2) (x :: acc)
          | none => .error (.malformed .badEscape at')
    else if c.val < 0x20 then .error (.malformed .controlCharacter at')
    else scanString quote r (at' + 1) (c :: acc)
termination_by t => t.length

/-! ## §4. Numbers and names -/

/-- The longest run of digits at the start, and the rest. -/
def spanDigits (t : Text) : Text × Text :=
  (t.takeWhile CodePoint.isDigit, t.dropWhile CodePoint.isDigit)

/-- The value of a run of digits. -/
def digitsNat (t : Text) : Nat := t.foldl (fun n c => n * 10 + (c.val - 0x30)) 0

/-- A fraction at the start: a point and digits. -/
def fraction (t : Text) : Text × Text :=
  match t with
  | p :: d :: r =>
    if p = '.' && d.isDigit then spanDigits (d :: r) else ([], t)
  | _ => ([], t)

/-- An exponent at the start: its value, and how many signs it is written with. -/
def exponent? (t : Text) : Option (Int × Nat) :=
  match t with
  | e :: r =>
    if e = 'e' ∨ e = 'E' then
      let (negative, signs, r) : Bool × Nat × Text :=
        match r with
        | s :: r' =>
          if s = '-' then (true, 1, r') else if s = '+' then (false, 1, r') else (false, 0, r)
        | [] => (false, 0, r)
      let ds := r.takeWhile CodePoint.isDigit
      let n : Int := digitsNat ds
      if ds.isEmpty then none else some (if negative then -n else n, 1 + signs + ds.length)
    else none
  | [] => none

/-- The integer part of a number: `0`, or digits that start with another. -/
def wholePart? (t : Text) : Option (Text × Text) :=
  match t with
  | [] => none
  | c :: r =>
    if c = '0' then some ([c], r)
    else if c.isDigit then some (spanDigits t)
    else none

/-- A number at the cursor. -/
def number (c : Cursor) : Except Fault (Json × Cursor) :=
  let (negative, body) :=
    match c.rest with
    | s :: r => if s = '-' then (true, r) else (false, c.rest)
    | [] => (false, c.rest)
  match wholePart? body with
  | none => .error (.malformed .expectingValue c.offset)
  | some (whole, afterWhole) =>
    let (frac, afterFrac) := fraction afterWhole
    let exp := exponent? afterFrac
    let before := (if negative then 1 else 0) + whole.length
      + if frac.isEmpty then 0 else 1 + frac.length
    let behind := (exp.map (·.2)).getD 0
    let next : Cursor := ⟨afterFrac.drop behind, c.offset + before + behind⟩
    if frac.isEmpty && exp.isNone then
      if maxDigits < whole.length then .error (.tooManyDigits whole.length)
      else
        let n : Int := digitsNat whole
        .ok (.int (if negative then -n else n), next)
    else
      let e := (exp.map (·.1)).getD 0 - frac.length
      .ok (.float (Double.ofDecimal negative (digitsNat (whole ++ frac)) e), next)

/-- The values written as names, with what they stand for. -/
def names : List (Text × Json) :=
  [("null", .null), ("true", .bool true), ("false", .bool false),
   ("NaN", .float (0.0 / 0.0)), ("Infinity", .float (1.0 / 0.0)),
   ("-Infinity", .float (-1.0 / 0.0))]

/-- A named value at the cursor. -/
def named? (c : Cursor) : Option (Json × Cursor) :=
  names.findSome? fun (name, v) =>
    (Text.dropLiteral? name c.rest).map fun r => (v, ⟨r, c.offset + name.length⟩)

/-! ## §5. Values -/

mutual

/-- A value at the cursor, which stands behind blanks; arrays and objects in it may be nested
`room` deep. -/
def value : Nat → Nat → Cursor → Except Fault (Json × Cursor)
  | 0, _, c => .error (.malformed .expectingValue c.offset)
  | fuel + 1, room, c =>
    match c.rest with
    | [] => .error (.malformed .expectingValue c.offset)
    | x :: r =>
      if x = '"' then (scanString c.offset r (c.offset + 1) []).map fun (t, c) => (.text t, c)
      else if x.val = 0x7B then
        match room with
        | 0 => .error (.tooDeep true)
        | room + 1 =>
          let c := (c.advance 1).skipBlanks
          match c.rest with
          | y :: _ =>
            if y.val = 0x7D then .ok (.object [], c.advance 1) else members fuel room c []
          | [] => members fuel room c []
      else if x = '[' then
        match room with
        | 0 => .error (.tooDeep false)
        | room + 1 =>
          let c := (c.advance 1).skipBlanks
          match c.rest with
          | y :: _ => if y = ']' then .ok (.list [], c.advance 1) else items fuel room c []
          | [] => items fuel room c []
      else
        match named? c with
        | some r => .ok r
        | none => number c

/-- Items up to the closing bracket; those before are in `acc`, last first. -/
def items : Nat → Nat → Cursor → List Json → Except Fault (Json × Cursor)
  | 0, _, c, _ => .error (.malformed .expectingValue c.offset)
  | fuel + 1, room, c, acc =>
    match value fuel room c with
    | .error e => .error e
    | .ok (v, c) =>
      let c := c.skipBlanks
      match c.rest with
      | [] => .error (.malformed .expectingComma c.offset)
      | x :: _ =>
        if x = ']' then .ok (.list (v :: acc).reverse, c.advance 1)
        else if x = ',' then items fuel room (c.advance 1).skipBlanks (v :: acc)
        else .error (.malformed .expectingComma c.offset)

/-- Members up to the closing brace; those before are in `acc`, last first. -/
def members : Nat → Nat → Cursor → List (Text × Json) → Except Fault (Json × Cursor)
  | 0, _, c, _ => .error (.malformed .expectingName c.offset)
  | fuel + 1, room, c, acc =>
    match c.rest with
    | [] => .error (.malformed .expectingName c.offset)
    | q :: r =>
      if q = '"' then
        match scanString c.offset r (c.offset + 1) [] with
        | .error e => .error e
        | .ok (name, c) =>
          let c := c.skipBlanks
          match c.rest with
          | [] => .error (.malformed .expectingColon c.offset)
          | x :: _ =>
            if x = ':' then
              match value fuel room (c.advance 1).skipBlanks with
              | .error e => .error e
              | .ok (v, c) =>
                let c := c.skipBlanks
                match c.rest with
                | [] => .error (.malformed .expectingComma c.offset)
                | y :: _ =>
                  if y.val = 0x7D then
                    .ok (ofMembers ((name, v) :: acc).reverse, c.advance 1)
                  else if y = ',' then
                    members fuel room (c.advance 1).skipBlanks ((name, v) :: acc)
                  else .error (.malformed .expectingComma c.offset)
            else .error (.malformed .expectingColon c.offset)
      else .error (.malformed .expectingName c.offset)

end

/-- The value of a document. -/
def readText (document : Text) : Except Fault Json :=
  match value (2 * document.length + 2) maxDepth (Cursor.skipBlanks ⟨document, 0⟩) with
  | .error e => .error e
  | .ok (v, c) =>
    let c := c.skipBlanks
    if c.rest.isEmpty then .ok v else .error (.malformed .extraData c.offset)

/-- The value of a document that may not start with a byte order mark. -/
def read (document : Text) : Except Fault Json :=
  if document.head? = some 0xFEFF then .error (.malformed .byteOrderMark 0)
  else readText document

end SealedDrop.Json
