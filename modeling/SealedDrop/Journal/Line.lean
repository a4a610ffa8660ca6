/-
  SealedDrop.Journal.Line
  ───────────────────────
  **HOW A RECORD IS LAID OUT.**

  A record is written twice: to a file, after the time at which it was made,
  and to the console, in the colour of its severity.  Either line has the same
  columns: severity, journal, place, message.  A column that is too narrow for
  its text pushes the rest aside.

      Instant        — the time of a record, as whole seconds and milliseconds
      Record.fileLine?, consoleLine?  — the two lines

  No line comes of a record whose message cannot be filled in.
-/
import SealedDrop.Calendar.Date
import SealedDrop.Journal.Entry
import SealedDrop.Journal.Escape
import SealedDrop.Journal.Template

namespace SealedDrop.Journal

/-! ## §1. Instants -/

/-- When a record was made. -/
structure Instant where
  /-- The last whole second before it, counted from the start of 1970 in UTC. -/
  second : Int
  /-- The fraction of a second in milliseconds, cut off; before 1970 it counts backwards from the
  next whole second. -/
  milli : Int
  deriving DecidableEq, Repr

namespace Instant

/-- A whole number of seconds since 1970 began. -/
def ofSeconds (n : Int) : Instant := ⟨n, 0⟩

/-- A finite number of seconds since 1970 began. -/
def ofDouble? (x : Float) : Option Instant := do
  let second ← Double.floor? x
  let whole ← Double.truncate? x
  let milli ← Double.truncate? ((x - Double.ofInt whole) * 1000)
  return ⟨second, milli⟩

/-- The days of the calendar before 1970. -/
def daysBefore1970 : Int := Date.toDays ⟨1970, 1, 1⟩

/-- The days in four hundred years, after which the calendar repeats itself. -/
def daysPerCycle : Int := 146097

/-- Year, month and day of a day counted from the calendar's first, in any year. -/
def civil (day : Int) : Int × Nat × Nat :=
  let d := Date.ofDays (day.emod daysPerCycle).toNat
  (400 * day.ediv daysPerCycle + d.year, d.month, d.day)

/-- The instant as date, time of day and milliseconds. -/
def text (i : Instant) : Text :=
  let (year, month, day) := civil (i.second.ediv 86400 + daysBefore1970)
  let s := (i.second.emod 86400).toNat
  let two (n : Nat) : Text := Text.ofNatPadded 2 n
  Text.ofInt year ++ "-" ++ two month ++ "-" ++ two day ++ " " ++ two (s / 3600) ++ ":"
    ++ two (s / 60 % 60) ++ ":" ++ two (s % 60) ++ ","
    ++ Template.layNumeral { zeros := true } 3 (Template.wholeNumeral 10 [] none i.milli)

end Instant

/-! ## §2. Severities on the screen -/

/-- The code of a severity's colour; severities without a name are white. -/
def colour (rank : Int) : Text :=
  match Level.ofRank? rank with
  | some .debug => "\x1b[36m"
  | some .info => "\x1b[32m"
  | some .warning => "\x1b[33m"
  | some .error => "\x1b[31m"
  | some .critical => "\x1b[35m"
  | none => "\x1b[37m"

/-- What a severity is called when a record does not say. -/
def rankName (rank : Int) : Text :=
  match Level.ofRank? rank with
  | some l => l.name
  | none => if rank = 0 then "NOTSET" else "Level " ++ Text.ofInt rank

/-- The code that makes what follows bright. -/
def bright : Text := "\x1b[1m"

/-- The code that makes what follows dim. -/
def dim : Text := "\x1b[2m"

/-- The code that ends all others. -/
def plain : Text := "\x1b[0m"

/-! ## §3. Records -/

/-- Something to be written down. -/
structure Record where
  /-- The name of the journal. -/
  journal : Text
  /-- How grave it is. -/
  rank : Int
  /-- What its severity is called. -/
  rankName : Text
  /-- The module in which it was made. -/
  module : Text
  /-- The function in which it was made. -/
  function : Text
  /-- What it says, with blanks. -/
  template : Text
  /-- What goes into the blanks. -/
  args : List Json
  /-- When it was made; nothing when that lies outside every calendar. -/
  made : Option Instant

namespace Record

/-- The columns up to the message, with a code before each part. -/
def columns (r : Record) (beforeName beforePlace beforeMessage : Text) : Text :=
  beforeName ++ Text.padRight 10 ' ' r.rankName ++ " "
    ++ beforePlace ++ Text.padRight 20 ' ' r.journal ++ " "
    ++ r.module ++ "." ++ Text.padRight 30 ' ' r.function ++ " " ++ beforeMessage

/-- What the record says. -/
def message? (r : Record) : Option Text := Template.message? r.template r.args

/-- The text of the line for the file. -/
def fileText (r : Record) (made : Instant) (message : Text) : Text :=
  made.text ++ " - " ++ r.columns [] [] [] ++ message ++ "\n"

/-- The text of the line for a terminal. -/
def terminalText (r : Record) (message : Text) : Text :=
  colour r.rank ++ r.columns bright dim plain ++ message ++ plain ++ "\n"

/-- The line for the file; text that has no encoding cannot be written there. -/
def fileLine? (r : Record) : Option Text :=
  match r.message?, r.made with
  | some message, some made =>
    if (r.fileText made message).isScalar then some (r.fileText made message) else none
  | _, _ => none

/-- The line for a terminal. -/
def terminalLine? (r : Record) : Option Text := r.message?.map r.terminalText

/-- The line for a console, which may be a terminal. -/
def consoleLine? (isTerminal : Bool) (r : Record) : Option Text :=
  r.terminalLine?.bind fun line => if isTerminal then some line else Escape.shown? line

end Record

end SealedDrop.Journal
