/-
  SealedDrop.Toml.Document
  ────────────────────────
  **READING A TOML DOCUMENT.**

  A document is read statement by statement.  A statement opens a table,
  adds a table to an array, or sets a value; comments and empty lines count
  for nothing.  Nothing is set twice: a table is opened once, a table that came
  about through the points of a key is not opened afterwards, and what was
  written as a value is closed for good.

  Nested values recurse on a fuel that `read` sets from the length of the
  document; each step uses up at least one code point.  Apart from that there is
  room for only so many values inside each other: a document that nests deeper
  is refused where it does, whatever follows.
-/
import SealedDrop.Toml.Scalar

namespace SealedDrop.Toml

/-! ## §1. Blanks and comments -/

/-- The text behind a comment, if one starts here. -/
def skipComment (t : Text) : Except Fault Text :=
  match t with
  | c :: r =>
    if c = '#' then
      let body := r.takeWhile (· ≠ newline)
      if body.any (isForbidden false) then .error .malformed else .ok (r.drop body.length)
    else .ok t
  | [] => .ok []

/-- The text behind space and comments, `n` of them at most. -/
def skipSpace : Nat → Text → Except Fault Text
  | 0, t => .ok t
  | n + 1, t =>
    let t := t.dropWhile isSpace
    match t with
    | c :: _ => if c = '#' then (skipComment t).bind (skipSpace n) else .ok t
    | [] => .ok []

/-! ## §2. Values -/

/-- Whether a key, or one that it starts with, is among those given. -/
def covers (keys : List Key) (key : Key) : Bool :=
  keys.any fun k => !k.isEmpty && List.isPrefixOf k key

/-- The parent of a key and its last name. -/
def splitKey (key : Key) : Key × Text := (key.dropLast, key.getLastD [])

/-- Sets a name that is not there yet. -/
def setNew (name : Text) (v : Value) (t : Table) : Option Table :=
  match Table.find? name t with
  | some _ => none
  | none => some (Table.set name v t)

/-- The brace that opens a table. -/
def openBrace : CodePoint := 0x7B

/-- The brace that closes a table. -/
def closeBrace : CodePoint := 0x7D

/-- A key with the equals sign after it, and the text of its value. -/
def keyPart (t : Text) : Except Fault (Key × Text) :=
  match key? t.length t with
  | some (k, c :: r) =>
    if c = '=' then .ok (k, r.dropWhile isBlank) else .error .malformed
  | _ => .error .malformed

/-- The room for nested values: the nested calls that the interpreter has left where a configuration is
read. It was measured at that depth; a reader that is called from deeper down has less room. -/
def nestingRoom : Nat := 988

/-- The room that an array takes. -/
def listRoom : Nat := 2

/-- The room that a table inside a line takes. -/
def tableRoom : Nat := 3

mutual

/-- A value at the start of a text, when there is so much room for nested values. -/
def value : Nat → Nat → Text → Except Fault (Value × Text)
  | 0, _, _ => .error .malformed
  | fuel + 1, room, t =>
    match t with
    | [] => .error .malformed
    | c :: r =>
      if c = quote ∨ c = apostrophe then
        match string? t with
        | some (s, rest) => .ok (.text s, rest)
        | none => .error .malformed
      else if Text.startsWith t "true" then .ok (.bool true, t.drop 4)
      else if Text.startsWith t "false" then .ok (.bool false, t.drop 5)
      else if c = '[' then
        if room < listRoom then .error .tooDeep
        else match skipSpace r.length r with
        | .error e => .error e
        | .ok (d :: r) =>
          if d = ']' then .ok (.list [], r) else items fuel (room - listRoom) (d :: r) []
        | .ok [] => .error .malformed
      else if c = openBrace then
        if room < tableRoom then .error .tooDeep
        else match r.dropWhile isBlank with
        | d :: r =>
          if d = closeBrace then .ok (.table [], r)
          else entries fuel (room - tableRoom) (d :: r) [] []
        | [] => .error .malformed
      else
        match dateOrStamp? t with
        | some v => v
        | none =>
          match timeOfDay? t with
          | some (micros, rest) => .ok (.timeOfDay micros, rest)
          | none => (number? t).getD (.error .malformed)

/-- Items up to the closing bracket; those before are in `acc`, last first. -/
def items : Nat → Nat → Text → List Value → Except Fault (Value × Text)
  | 0, _, _, _ => .error .malformed
  | fuel + 1, room, t, acc =>
    match value fuel room t with
    | .error e => .error e
    | .ok (v, t) =>
      match skipSpace t.length t with
      | .error e => .error e
      | .ok [] => .error .malformed
      | .ok (c :: r) =>
        if c = ']' then .ok (.list (v :: acc).reverse, r)
        else if c = ',' then
          match skipSpace r.length r with
          | .error e => .error e
          | .ok [] => .error .malformed
          | .ok (d :: r) =>
            if d = ']' then .ok (.list (v :: acc).reverse, r)
            else items fuel room (d :: r) (v :: acc)
        else .error .malformed

/-- Entries up to the closing brace, added to a table; the keys in `closed` hold values that are
closed for good. -/
def entries : Nat → Nat → Text → Table → List Key → Except Fault (Value × Text)
  | 0, _, _, _, _ => .error .malformed
  | fuel + 1, room, t, table, closed =>
    match keyPart t with
    | .error e => .error e
    | .ok (key, t) =>
      match value fuel room t with
      | .error e => .error e
      | .ok (v, t) =>
        if covers closed key then .error .malformed
        else
          let (parent, name) := splitKey key
          match Table.change false (setNew name v) parent table with
          | none => .error .malformed
          | some table =>
            match t.dropWhile isBlank with
            | [] => .error .malformed
            | c :: r =>
              if c = closeBrace then .ok (.table table, r)
              else if c = ',' then
                entries fuel room (r.dropWhile isBlank) table
                  (if v.isNest then key :: closed else closed)
              else .error .malformed

end

/-! ## §3. Statements -/

/-- What was read so far, and which keys are settled. -/
structure Draft where
  /-- The document. -/
  table : Table
  /-- The table that is open. -/
  header : Key
  /-- Keys of tables that may not be opened again. -/
  opened : List Key
  /-- Keys of values that are closed for good. -/
  closed : List Key
  /-- Keys of tables that may not be opened once another one is. -/
  pending : List Key

namespace Draft

/-- Nothing read yet. -/
def empty : Draft := ⟨[], [], [], [], []⟩

/-- Settles what was waiting for the next table. -/
def settle (d : Draft) : Draft := { d with opened := d.pending ++ d.opened, pending := [] }

/-- Opens a table. -/
def openTable (key : Key) (d : Draft) : Option Draft :=
  if d.opened.contains key || covers d.closed key then none
  else
    (Table.change true some key d.table).map fun table =>
      { d with table, header := key, opened := key :: d.opened }

/-- Adds an empty table to the array of a name. -/
def appendTable (name : Text) (t : Table) : Option Table :=
  match Table.find? name t with
  | none => some (Table.set name (.list [.table []]) t)
  | some (.list items) => some (Table.set name (.list (items ++ [.table []])) t)
  | some _ => none

/-- Adds a table to an array; what was settled below it holds for the tables before. -/
def openItem (key : Key) (d : Draft) : Option Draft :=
  if covers d.closed key then none
  else
    let (parent, name) := splitKey key
    let below (k : Key) : Bool := List.isPrefixOf key k
    (Table.change true (appendTable name) parent d.table).map fun table =>
      { d with
        table, header := key
        opened := key :: d.opened.filter fun k => !below k
        closed := d.closed.filter fun k => !below k }

/-- The keys of the tables that the points of a key lead through. -/
def between (header key : Key) : List Key :=
  (List.range (key.length - 1)).map fun i => header ++ key.take (i + 1)

/-- Sets a value. -/
def setValue (key : Key) (v : Value) (d : Draft) : Option Draft :=
  let through := between d.header key
  let whole := d.header ++ key
  let (parent, name) := splitKey key
  if through.any fun k => d.opened.contains k then none
  else if covers d.closed (d.header ++ parent) then none
  else
    (Table.change true (setNew name v) (d.header ++ parent) d.table).map fun table =>
      { d with
        table
        closed := if v.isNest then whole :: d.closed else d.closed
        pending := through ++ d.pending }

end Draft

/-- A draft, or a fault. -/
def orMalformed {α : Type} : Option α → Except Fault α
  | some a => .ok a
  | none => .error .malformed

/-- A statement at the start of a line, and the rest of the line. -/
def statement (fuel : Nat) (d : Draft) (t : Text) : Except Fault (Draft × Text) :=
  match t with
  | [] => .ok (d, [])
  | c :: r =>
    if c = newline ∨ c = '#' then .ok (d, t)
    else if c = '[' then do
      let d := d.settle
      let isItem := r.head? = some (CodePoint.ofChar '[')
      let r := (if isItem then r.drop 1 else r).dropWhile isBlank
      let (key, rest) ← orMalformed (key? r.length r)
      let d ← orMalformed (if isItem then d.openItem key else d.openTable key)
      let rest ← orMalformed (Text.dropLiteral? (if isItem then "]]" else "]") rest)
      return (d, rest)
    else do
      let (key, rest) ← keyPart t
      let (v, rest) ← value fuel nestingRoom rest
      let d ← orMalformed (d.setValue key v)
      return (d, rest)

/-- All statements of a text, `n` lines at most. -/
def statements (fuel : Nat) : Nat → Draft → Text → Except Fault Table
  | 0, d, _ => .ok d.table
  | n + 1, d, t =>
    match statement fuel d (t.dropWhile isBlank) with
    | .error e => .error e
    | .ok (d, t) =>
      match skipComment (t.dropWhile isBlank) with
      | .error e => .error e
      | .ok [] => .ok d.table
      | .ok (c :: r) => if c = newline then statements fuel n d r else .error .malformed

/-- A text with every pair of carriage return and line feed made a line feed. -/
def unixLines : Text → Text
  | [] => []
  | [c] => [c]
  | c :: d :: r =>
    if c = '\r' ∧ d = newline then newline :: unixLines r else c :: unixLines (d :: r)
termination_by t => t.length

/-- The table of a document. -/
def read (document : Text) : Except Fault Table :=
  let t := unixLines document
  statements (t.length + 1) (t.length + 1) .empty t

end SealedDrop.Toml
