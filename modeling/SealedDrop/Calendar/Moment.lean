/-
  SealedDrop.Calendar.Moment
  ──────────────────────────
  **MOMENTS, STAMPS, AND WHAT UTC MAKES OF THEM.**

  A `Moment` is a reading of a calendar clock to the microsecond, stored as the
  number of microseconds since the calendar began; its order is the order of
  time.  A `Stamp` is a reading together with the offset of the clock from
  UTC, when one is known.  `Stamp.toUtc` gives the moment in UTC; it fails
  exactly when that moment lies outside the calendar.

      Moment.fields, ofFields?  — the reading as year, month, …, microsecond
      Stamp.toUtc               — the same instant on a UTC clock
      Stamp.clock               — what a running clock tells, on a UTC clock
      Stamp.isoText             — `2026-01-01T12:00:00.250000+02:00`
      Stamp.wireText            — the same with `Z` for UTC and whole minutes
-/
import SealedDrop.Calendar.Date
import SealedDrop.Text.Basic

namespace SealedDrop

/-! ## §1. Moments -/

/-- Microseconds in a second. -/
def microsPerSecond : Nat := 1000000

/-- Microseconds in a day. -/
def microsPerDay : Nat := 86400 * microsPerSecond

/-- A reading of a calendar clock in the years 1 to 9999. -/
structure Moment where
  /-- Microseconds since the start of year 1. -/
  micros : Nat
  /-- The reading is in the calendar. -/
  inCalendar : micros < Date.span * microsPerDay
  deriving DecidableEq, Repr

namespace Moment

instance : LT Moment := ⟨fun a b => a.micros < b.micros⟩
instance : LE Moment := ⟨fun a b => a.micros ≤ b.micros⟩
instance : DecidableLT Moment := fun a b => inferInstanceAs (Decidable (a.micros < b.micros))
instance : DecidableLE Moment := fun a b => inferInstanceAs (Decidable (a.micros ≤ b.micros))

/-- The first moment of the calendar. -/
def first : Moment := ⟨0, by decide⟩

instance : Inhabited Moment := ⟨first⟩

/-- The moment so many microseconds after the start of the calendar. -/
def ofMicros? (n : Int) : Option Moment :=
  if h : 0 ≤ n ∧ n.toNat < Date.span * microsPerDay then some ⟨n.toNat, h.2⟩ else none

/-- A reading taken apart. -/
structure Fields where
  /-- The date. -/
  date : Date
  /-- The hour, from 0 to 23. -/
  hour : Nat
  /-- The minute. -/
  minute : Nat
  /-- The second, from 0 to 59. -/
  second : Nat
  /-- The microsecond. -/
  micro : Nat
  deriving DecidableEq, Repr

/-- The reading of a moment. -/
def fields (m : Moment) : Fields :=
  let seconds := m.micros / microsPerSecond
  let ofDay := seconds % 86400
  ⟨Date.ofDays (seconds / 86400), ofDay / 3600, ofDay / 60 % 60, ofDay % 60,
    m.micros % microsPerSecond⟩

/-- The microseconds before a reading. -/
def Fields.micros (f : Fields) : Nat :=
  (((f.date.toDays * 24 + f.hour) * 60 + f.minute) * 60 + f.second) * microsPerSecond + f.micro

/-- The moment of a reading, if there is such a reading. -/
def ofFields? (f : Fields) : Option Moment :=
  if f.date.valid && f.hour < 24 && f.minute < 60 && f.second < 60 && f.micro < 1000000 then
    ofMicros? f.micros
  else none

/-- The Unix epoch in microseconds. -/
def epoch : Nat := (Date.toDays ⟨1970, 1, 1⟩) * microsPerDay

/-- The reading as text, with six places of a second when they are not all zero. -/
def text (m : Moment) : Text :=
  let f := m.fields
  let clock : Text :=
    Text.ofNatPadded 4 f.date.year ++ "-" ++ Text.ofNatPadded 2 f.date.month ++ "-"
      ++ Text.ofNatPadded 2 f.date.day ++ "T" ++ Text.ofNatPadded 2 f.hour ++ ":"
      ++ Text.ofNatPadded 2 f.minute ++ ":" ++ Text.ofNatPadded 2 f.second
  if f.micro = 0 then clock else clock ++ "." ++ Text.ofNatPadded 6 f.micro

/-- The text of a moment on a UTC clock, marked `Z`. -/
def utcText (m : Moment) : Text := m.text ++ "Z"

end Moment

/-! ## §2. Stamps -/

/-- A clock reading, and how many seconds the clock is ahead of UTC if that is known. -/
structure Stamp where
  /-- What the clock shows. -/
  wall : Moment
  /-- Seconds ahead of UTC. -/
  offset : Option Int
  deriving DecidableEq, Repr

namespace Stamp

instance : Inhabited Stamp := ⟨⟨Moment.first, none⟩⟩

/-- A reading of a clock about which nothing else is known. -/
def naive (m : Moment) : Stamp := ⟨m, none⟩

/-- A reading of a UTC clock. -/
def utc (m : Moment) : Stamp := ⟨m, some 0⟩

/-- The instant in microseconds on a UTC clock, inside the calendar or not; an unknown offset
counts as zero. -/
def instant (s : Stamp) : Int := s.wall.micros - s.offset.getD 0 * microsPerSecond

/-- The instant of a stamp lies outside the calendar. -/
inductive OutOfCalendar where
  /-- The only way to fail. -/
  | outOfCalendar
  deriving DecidableEq, Repr

/-- The wording of the failure. -/
def OutOfCalendar.message : Text := "date value out of range"

/-- The moment of a stamp on a UTC clock. -/
def toUtc (s : Stamp) : Except OutOfCalendar Moment :=
  match s.offset with
  | none => .ok s.wall
  | some _ =>
    match Moment.ofMicros? s.instant with
    | some m => .ok m
    | none => .error .outOfCalendar

/-- Why a running clock tells nothing. -/
inductive ClockFault where
  /-- Its instant lies outside the calendar. -/
  | outOfCalendar
  /-- The day before lies outside the calendar. -/
  | noDayBefore
  deriving DecidableEq, Repr

/-- The wording of the fault. -/
def ClockFault.message : ClockFault → Text
  | .outOfCalendar => OutOfCalendar.message
  | .noDayBefore => "year 0 is out of range"

/-- What a running clock tells, on a UTC clock.  A clock that does not know its offset runs on UTC,
but it is compared with the clock of a day ago in case it was changed since, so it tells nothing
on the first day of the calendar. -/
def clock (s : Stamp) : Except ClockFault Moment :=
  match s.offset with
  | none => if s.wall.micros < microsPerDay then .error .noDayBefore else .ok s.wall
  | some _ => s.toUtc.mapError fun _ => .outOfCalendar

/-- An offset as sign, hours and minutes; seconds only when they are not zero. -/
def offsetText (o : Int) : Text :=
  let n := o.natAbs
  (if o < 0 then "-" else "+") ++ Text.ofNatPadded 2 (n / 3600) ++ ":"
    ++ Text.ofNatPadded 2 (n / 60 % 60)
    ++ if n % 60 = 0 then [] else Text.ofString ":" ++ Text.ofNatPadded 2 (n % 60)

/-- The text of a stamp with its full offset. -/
def isoText (s : Stamp) : Text :=
  s.wall.text ++ match s.offset with
    | none => []
    | some o => offsetText o

/-- The text of a stamp in a document: `Z` for UTC, otherwise whole minutes of offset. -/
def wireText (s : Stamp) : Text :=
  s.wall.text ++ match s.offset with
    | none => []
    | some o =>
      if o = 0 then Text.ofString "Z"
      else
        let n := o.natAbs
        (if o < 0 then Text.ofString "-" else Text.ofString "+")
          ++ Text.ofNatPadded 2 (n / 3600) ++ ":" ++ Text.ofNatPadded 2 (n / 60 % 60)

end Stamp

end SealedDrop
