/-
  SealedDrop.Json.Printer
  ───────────────────────
  **WRITING JSON.**

  A style says what stands between members and whether code points beyond
  ASCII are written as they are or as escapes.  Stored and signed documents
  are `Style.compact`; documents that travel as a request body are
  `Style.ascii`.

  When a value of unknown kind ends up in a sentence (`shown`), a text stands
  there as it is; anything else is shown as a literal, with texts inside it in
  quotes.
-/
import SealedDrop.Json.Basic
import SealedDrop.Text.Printable

namespace SealedDrop.Json

/-! ## §1. Documents -/

/-- How a document is laid out. -/
structure Style where
  /-- Between two members or items. -/
  itemMark : Text
  /-- Between a name and its value. -/
  nameMark : Text
  /-- Whether everything beyond printable ASCII is escaped. -/
  escaped : Bool

/-- No blanks, and text as it is. -/
def Style.compact : Style := ⟨",", ":", false⟩

/-- A blank after each mark, and nothing beyond ASCII. -/
def Style.ascii : Style := ⟨", ", ": ", true⟩

/-- The escape of a 16-bit unit. -/
def unitEscape (n : Nat) : Text := "\\u" ++ Text.hex 4 n

/-- One code point inside a string. -/
def pointText (escaped : Bool) (c : CodePoint) : Text :=
  if c = '"' then "\\\""
  else if c = '\\' then "\\\\"
  else if c = '\n' then "\\n"
  else if c = '\r' then "\\r"
  else if c = '\t' then "\\t"
  else if c.val = 0x08 then "\\b"
  else if c.val = 0x0C then "\\f"
  else if c.val < 0x20 then unitEscape c.val
  else if escaped && 0x7F ≤ c.val then
    if c.val < 0x10000 then unitEscape c.val
    else
      let n := c.val - 0x10000
      unitEscape (0xD800 + n / 0x400) ++ unitEscape (0xDC00 + n % 0x400)
  else [c]

/-- A string in quotes. -/
def quoted (escaped : Bool) (t : Text) : Text :=
  CodePoint.ofChar '"' :: (t.flatMap (pointText escaped) ++ [CodePoint.ofChar '"'])

/-- A number with fraction or exponent. -/
def floatText (x : Float) : Text :=
  if x.isNaN then "NaN"
  else if x.isInf then (if x < 0 then "-Infinity" else "Infinity")
  else Double.toText x

mutual

/-- A value in a style. -/
def render (s : Style) : Json → Text
  | .null => "null"
  | .bool true => "true"
  | .bool false => "false"
  | .int n => Text.ofInt n
  | .float x => floatText x
  | .text t => quoted s.escaped t
  | .list items => "[" ++ renderItems s items ++ "]"
  | .object members => "\x7b" ++ renderMembers s members ++ "\x7d"

/-- Items with marks between them. -/
def renderItems (s : Style) : List Json → Text
  | [] => []
  | [v] => render s v
  | v :: w :: r => render s v ++ s.itemMark ++ renderItems s (w :: r)

/-- Members with marks between them. -/
def renderMembers (s : Style) : List (Text × Json) → Text
  | [] => []
  | [(k, v)] => quoted s.escaped k ++ s.nameMark ++ render s v
  | (k, v) :: m :: r =>
    quoted s.escaped k ++ s.nameMark ++ render s v ++ s.itemMark ++ renderMembers s (m :: r)

end

/-! ## §2. Sentences -/

mutual

/-- A value as a literal. -/
def literal : Json → Text
  | .null => "None"
  | .bool true => "True"
  | .bool false => "False"
  | .int n => Text.ofInt n
  | .float x => Double.toText x
  | .text t => Text.quoted t
  | .list items => "[" ++ literalItems items ++ "]"
  | .object members => "\x7b" ++ literalMembers members ++ "\x7d"

/-- Items as literals, with commas between them. -/
def literalItems : List Json → Text
  | [] => []
  | [v] => literal v
  | v :: w :: r => literal v ++ ", " ++ literalItems (w :: r)

/-- Members as literals, with commas between them. -/
def literalMembers : List (Text × Json) → Text
  | [] => []
  | [(k, v)] => Text.quoted k ++ ": " ++ literal v
  | (k, v) :: m :: r => Text.quoted k ++ ": " ++ literal v ++ ", " ++ literalMembers (m :: r)

end

/-- A value in a sentence. -/
def shown : Json → Text
  | .text t => t
  | v => literal v

end SealedDrop.Json
