/-
  SealedDrop.Command.Line
  ───────────────────────
  **TAKING A COMMAND LINE APART.**

  A command line holds words and options, in any order.  An option may be
  shortened as long as only one option starts like it, and its value follows
  after an equals sign or as the next word.  A lone `--` turns everything
  after it into words.

  A line is first sorted into tokens, all of it; then the tokens are used up
  from the front.  A line that asks for help gets it as soon as its turn
  comes, whatever is wrong further on.
-/
import SealedDrop.Text.Numeral

namespace SealedDrop.Command

/-! ## §1. Shapes -/

/-- What an option is followed by. -/
inductive Operand where
  /-- Nothing: the option is there or not. -/
  | nothing
  /-- A text. -/
  | text
  /-- A whole number. -/
  | number
  deriving DecidableEq, Repr

/-- An option. -/
structure Flag where
  /-- The names it goes by; the first one is its own. -/
  names : List Text
  /-- What it is followed by. -/
  operand : Operand
  /-- Whether a line without it is incomplete. -/
  required : Bool
  deriving DecidableEq, Repr

/-- The option that asks for help. -/
def Flag.help : Flag := ⟨["-h", "--help"], .nothing, false⟩

/-- The name of an option. -/
def Flag.name (f : Flag) : Text := f.names.headD []

/-- What a command line may look like. -/
structure Shape where
  /-- The options, besides the one for help. -/
  flags : List Flag
  /-- The number of words. -/
  words : Nat
  /-- Whether the last word takes along everything after it, options and all. -/
  isOpen : Bool
  /-- What is shown to those who ask for help. -/
  screen : Text

/-- All options of a shape. -/
def Shape.allFlags (s : Shape) : List Flag := Flag.help :: s.flags

/-- Why a command line is not carried out. -/
inductive Stop where
  /-- It asks for help. -/
  | help (screen : Text)
  /-- It does not have its shape. -/
  | misuse
  deriving DecidableEq, Repr

/-! ## §2. Tokens -/

/-- A part of a command line. -/
inductive Token where
  /-- A word. -/
  | word
  /-- The mark after which there are only words. -/
  | mark
  /-- An option, with the value attached to it. -/
  | flag (f : Flag) (attached : Option Text)
  /-- What looks like an option but is none. -/
  | stranger
  deriving DecidableEq, Repr

/-- The hyphen that options start with. -/
def hyphen : CodePoint := CodePoint.ofChar '-'

/-- Whether a text looks like a negative number; one line feed may follow. -/
def looksNegative (t : Text) : Bool :=
  match if Text.endsWith t "\n" then t.dropLast else t with
  | [] => false
  | c :: r =>
    let isDigit (d : CodePoint) : Bool := (Text.anyDigit? d).isSome
    c = hyphen &&
      match r.dropWhile isDigit with
      | [] => !r.isEmpty
      | p :: places => p = CodePoint.ofChar '.' && !places.isEmpty && places.all isDigit

/-- The option of exactly this name. -/
def named? (fs : List Flag) (t : Text) : Option Flag := fs.find? fun f => f.names.contains t

/-- The options that a shortened name may mean, once for each name that fits, with the value
attached. -/
def candidates (fs : List Flag) (t : Text) : List (Flag × Option Text) :=
  let names := fs.flatMap fun f => f.names.map fun n => (f, n)
  if Text.startsWith t "--" then
    let (front, attached) : Text × Option Text :=
      match Text.cutAt? '=' t with
      | some (a, b) => (a, some b)
      | none => (t, none)
    (names.filter fun (_, n) => Text.startsWith n front).map fun (f, _) => (f, attached)
  else
    names.filterMap fun (f, n) =>
      if n = t.take 2 then some (f, some (t.drop 2))
      else if Text.startsWith n t then some (f, none) else none

/-- The kind of one part of a line. -/
def classify (fs : List Flag) (t : Text) : Except Stop Token :=
  if t.head? ≠ some hyphen then .ok .word
  else
    match named? fs t with
    | some f => .ok (.flag f none)
    | none =>
      if t.length = 1 then .ok .word
      else
        match (Text.cutAt? '=' t).bind fun (a, b) => (named? fs a).map fun f => (f, b) with
        | some (f, b) => .ok (.flag f (some b))
        | none =>
          match candidates fs t with
          | [(f, attached)] => .ok (.flag f attached)
          | [] =>
            if looksNegative t || t.contains (CodePoint.ofChar ' ') then .ok .word
            else .ok .stranger
          | _ => .error .misuse

/-- The parts of a line with their kinds. -/
def tokens (fs : List Flag) : List Text → Except Stop (List (Text × Token))
  | [] => .ok []
  | t :: r =>
    if t = "--" then .ok ((t, .mark) :: r.map fun w => (w, .word))
    else do
      let k ← classify fs t
      let ks ← tokens fs r
      return (t, k) :: ks

/-! ## §3. Reading -/

/-- What a command line says. -/
structure Reading where
  /-- Its words. -/
  words : List Text
  /-- Its options by name, with their values; the last one of a name counts. -/
  settings : List (Text × Text)
  /-- Whether something was left that has no place. -/
  leftover : Bool
  deriving DecidableEq, Repr

namespace Reading

/-- A line with nothing in it. -/
def empty : Reading := ⟨[], [], false⟩

/-- One more word at the front. -/
def addWord (t : Text) (r : Reading) : Reading := { r with words := t :: r.words }

/-- One more option at the front. -/
def addSetting (f : Flag) (v : Text) (r : Reading) : Reading :=
  { r with settings := (f.name, v) :: r.settings }

/-- Something at the front that has no place. -/
def addLeftover (r : Reading) : Reading := { r with leftover := true }

/-- The value of an option. -/
def setting? (r : Reading) (name : Text) : Option Text :=
  (r.settings.reverse.find? fun s => s.1 = name).map (·.2)

/-- Whether an option is there. -/
def has (r : Reading) (name : Text) : Bool := (r.setting? name).isSome

end Reading

/-- Whether a value fits an option. -/
def fits (f : Flag) (v : Text) : Bool :=
  match f.operand with
  | .number => (Text.toInt? v).isSome
  | _ => true

/-- Whether what is attached to the short option for help is the same option, once or more. -/
def repeatsHelp (attached : Text) : Bool :=
  !attached.isEmpty && attached.all (· = CodePoint.ofChar 'h')

/-- Uses up tokens when so many words are still to come. A mark counts for nothing next to a
word that is taken. -/
def consume (s : Shape) : Nat → List (Text × Token) → Except Stop Reading
  | _, [] => .ok .empty
  | n, (_, .stranger) :: r => do return (← consume s n r).addLeftover
  | 0, (_, .word) :: r => do return (← consume s 0 r).addLeftover
  | 0, (_, .mark) :: r => do return (← consume s 0 r).addLeftover
  | _ + 1, [(_, .mark)] => .ok Reading.empty.addLeftover
  | n + 1, (t, .mark) :: k :: r =>
    if s.isOpen ∧ n = 0 then .ok { Reading.empty with words := t :: (k :: r).map (·.1) }
    else consume s (n + 1) (k :: r)
  | n + 1, (t, .word) :: (m, .mark) :: r =>
    if s.isOpen ∧ n = 0 then .ok { Reading.empty with words := t :: m :: r.map (·.1) }
    else do return (← consume s n r).addWord t
  | n + 1, (t, .word) :: r =>
    if s.isOpen ∧ n = 0 then .ok { Reading.empty with words := t :: r.map (·.1) }
    else do return (← consume s n r).addWord t
  | n, (t, .flag f (some v)) :: r =>
    match f.operand with
    | .nothing =>
      if f = Flag.help ∧ !Text.startsWith t "--" ∧ repeatsHelp v then
        .error (.help s.screen)
      else .error .misuse
    | _ => if fits f v then do return (← consume s n r).addSetting f v else .error .misuse
  | n, (_, .flag f none) :: (v, .word) :: r =>
    match f.operand with
    | .nothing =>
      if f = Flag.help then .error (.help s.screen)
      else do return (← consume s n ((v, .word) :: r)).addSetting f []
    | _ => if fits f v then do return (← consume s n r).addSetting f v else .error .misuse
  | n, (_, .flag f none) :: r =>
    match f.operand with
    | .nothing =>
      if f = Flag.help then .error (.help s.screen)
      else do return (← consume s n r).addSetting f []
    | _ => .error .misuse

/-- What a line says, whether or not all of it has a place. -/
def scan (s : Shape) (args : List Text) : Except Stop Reading := do
  let ts ← tokens s.allFlags args
  consume s s.words ts

/-- Whether a reading has its shape. -/
def Reading.isComplete (r : Reading) (s : Shape) : Bool :=
  !r.leftover && s.words ≤ r.words.length
    && (s.flags.filter Flag.required).all fun f => r.has f.name

/-- What a line says, if it has its shape. -/
def read (s : Shape) (args : List Text) : Except Stop Reading := do
  let r ← scan s args
  if r.isComplete s then return r else .error .misuse

end SealedDrop.Command
