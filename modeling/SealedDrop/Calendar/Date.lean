/-
  SealedDrop.Calendar.Date
  ────────────────────────
  **THE GREGORIAN CALENDAR, YEARS 1 TO 9999.**

  A date and the number of days before it determine each other.  Counting
  forward adds whole years and whole months; counting back peels off cycles
  of 400, 100, 4 and 1 years and then walks through the months of the year.

      Date.toDays   — days since 1 January of year 1
      Date.ofDays   — the date after that many days
-/
namespace SealedDrop

/-- A date; `Date.valid` says whether it is in the calendar. -/
structure Date where
  /-- The year. -/
  year : Nat
  /-- The month, from 1. -/
  month : Nat
  /-- The day of the month, from 1. -/
  day : Nat
  deriving DecidableEq, Repr

namespace Date

/-- Whether a year has a 29 February. -/
def isLeap (year : Nat) : Bool :=
  (year % 4 = 0 ∧ year % 100 ≠ 0) ∨ year % 400 = 0

/-- The lengths of the months. -/
def monthLengths (leap : Bool) : List Nat :=
  [31, if leap then 29 else 28, 31, 30, 31, 30, 31, 31, 30, 31, 30, 31]

/-- The length of a month; zero when there is no such month. -/
def daysInMonth (year month : Nat) : Nat :=
  if month = 0 then 0 else (monthLengths (isLeap year)).getD (month - 1) 0

/-- A date of the calendar. -/
def valid (d : Date) : Bool :=
  1 ≤ d.year && d.year ≤ 9999 && 1 ≤ d.month && d.month ≤ 12 && 1 ≤ d.day
    && d.day ≤ daysInMonth d.year d.month

/-- The days before a year. -/
def daysBeforeYear (year : Nat) : Nat :=
  let y := year - 1
  365 * y + y / 4 - y / 100 + y / 400

/-- The number of days in the calendar. -/
def span : Nat := daysBeforeYear 10000

/-- The days before a date. -/
def toDays (d : Date) : Nat :=
  daysBeforeYear d.year + ((monthLengths (isLeap d.year)).take (d.month - 1)).foldr (· + ·) 0 + (d.day - 1)

/-- The month, from 1, and day of the month, from 1, of a day of the year, from 0. -/
def locate : List Nat → Nat → Nat × Nat
  | [], r => (1, r + 1)
  | n :: ns, r =>
    if r < n then (1, r + 1)
    else
      let (m, d) := locate ns (r - n)
      (m + 1, d)

/-- The date after a number of days. -/
def ofDays (n : Nat) : Date :=
  let c400 := n / 146097
  let r := n % 146097
  let c100 := min (r / 36524) 3
  let r := r - c100 * 36524
  let c4 := r / 1461
  let r := r % 1461
  let c1 := min (r / 365) 3
  let year := 400 * c400 + 100 * c100 + 4 * c4 + c1 + 1
  let (month, day) := locate (monthLengths (isLeap year)) (r - c1 * 365)
  ⟨year, month, day⟩

end Date

end SealedDrop
