/-
  SealedDrop.Journal.Escape
  ─────────────────────────
  **TEXT FOR A CONSOLE THAT IS NO TERMINAL.**

  Two kinds of control sequence speak to a terminal only: one that ends in a
  letter and sets colours and the like, and one that ends in a bell and
  carries a COMMAND.  Both are taken out of what goes to a file or a pipe.

  Commands are located first, all of them, and then taken out one by one AT
  THE PLACES WHERE THEY WERE FOUND; a second one is therefore looked for where
  it no longer is.  A command to set a title has nobody to obey it, and the
  text that holds it is lost.
-/
import SealedDrop.Text.Numeral

namespace SealedDrop.Journal.Escape

/-- The character that starts a control sequence. -/
def escape : CodePoint := 0x1B

/-- The character that ends a command. -/
def bell : CodePoint := 0x07

/-- A text without a mark that may come first. -/
def skipMark (mark : CodePoint) : Text → Text
  | [] => []
  | c :: r => if c = mark then r else c :: r

/-! ## §1. Sequences that end in a letter -/

/-- What follows the sequence that a text starts with: escape, bracket, digits and semicolons of
any number, a letter.  Marks of invisibility around it belong to it. -/
def afterSequence? (t : Text) : Option Text :=
  match skipMark 0x01 t with
  | e :: b :: r =>
    if e = escape ∧ b = '[' then
      match r.dropWhile fun c => (Text.anyDigit? c).isSome || c = CodePoint.ofChar ';' with
      | [] => none
      | l :: s => if l.isLetter then some (skipMark 0x02 s) else none
    else none
  | _ => none

/-- A text without its sequences. -/
def strip (t : Text) : Text :=
  match t with
  | [] => []
  | c :: r =>
    match afterSequence? (c :: r) with
    | some s => if s.length ≤ r.length then strip s else c :: strip r
    | none => c :: strip r
termination_by t.length

/-! ## §2. Commands -/

/-- A command in a text. -/
structure Found where
  /-- Where it starts. -/
  start : Nat
  /-- Where it ends. -/
  stop : Nat
  /-- What it says. -/
  body : Text
  deriving DecidableEq, Repr

/-- The command that a text starts with, and what follows it. -/
def command? (t : Text) : Option (Text × Text) :=
  match skipMark 0x01 t with
  | e :: b :: r =>
    if e = escape ∧ b = ']' then
      (Text.cutAt? bell r).map fun (body, s) => (body, skipMark 0x02 s)
    else none
  | _ => none

/-- The commands in a text whose first code point stands at `position`. -/
def commands (position : Nat) (t : Text) : List Found :=
  match t with
  | [] => []
  | c :: r =>
    match command? (c :: r) with
    | some (body, s) =>
      if s.length ≤ r.length then
        let stop := position + (r.length + 1 - s.length)
        ⟨position, stop, body⟩ :: commands stop s
      else commands (position + 1) r
    | none => commands (position + 1) r
termination_by t.length

/-- A command to set a title: one semicolon, and before it one of the numbers for titles or
nothing. -/
def Found.setsTitle (f : Found) : Bool :=
  match Text.splitOn ';' f.body with
  | [number, _] => ([[], Text.ofString "0", Text.ofString "2", Text.ofString "02"]).contains number
  | _ => false

/-! ## §3. What is written -/

/-- What a console that is no terminal shows of a text; nothing when the text sets a title. -/
def shown? (t : Text) : Option Text :=
  let found := commands 0 t
  if found.any Found.setsTitle then none
  else some (strip (found.foldl (fun s f => s.take f.start ++ s.drop f.stop) t))

end SealedDrop.Journal.Escape
