/-
  SealedDrop.Calendar.Reading
  ───────────────────────────
  **WHAT MAY STAND FOR A POINT IN TIME.**

  A document may give a time as

      a date and a clock reading    2026-01-01T12:00:00.25+02:00
      a date alone                  2026-01-01        (midnight, no offset)
      a count since the epoch       1767268800, or 1767268800000, or 1767268800.25
      the same count as a string    "1767268800"

  A count above `countLimit` in magnitude is in milliseconds, whole or not.  A
  count is on a UTC clock; a reading has the offset it names, or none.  Places of a second
  beyond the sixth are dropped from a reading and rounded from a count.

  `Stamp.ofIso?` reads the narrower form that programs write themselves, with
  offsets down to the second.
-/
import SealedDrop.Calendar.Moment
import SealedDrop.Number.Double
import SealedDrop.Text.Utf8

namespace SealedDrop

/-! ## §1. What can be wrong with a date or a count -/

/-- Why a text or a number is no date. -/
inductive DateFault where
  /-- Too few octets. -/
  | tooShort
  /-- Something else than a digit in the year. -/
  | yearDigit
  /-- Something else than a digit in the month. -/
  | monthDigit
  /-- Something else than a digit in the day. -/
  | dayDigit
  /-- No hyphen where one must be. -/
  | separator
  /-- No such month. -/
  | monthRange
  /-- No such day in the month. -/
  | dayRange
  /-- The date is followed by something. -/
  | extra
  /-- The count lies after the calendar. -/
  | tooLate
  /-- The count lies before year 0. -/
  | tooEarly
  /-- The number is not a number. -/
  | notANumber
  deriving DecidableEq, Repr

/-- The wording of a fault. -/
def DateFault.message : DateFault → Text
  | .tooShort => "input is too short"
  | .yearDigit => "invalid character in year"
  | .monthDigit => "invalid character in month"
  | .dayDigit => "invalid character in day"
  | .separator => Text.ofString "invalid date separator, expected \x60-\x60"
  | .monthRange => "month value is outside expected range of 1-12"
  | .dayRange => "day value is outside expected range"
  | .extra => "unexpected extra characters at the end of the input"
  | .tooLate => "dates after 9999 are not supported as unix timestamps"
  | .tooEarly => "dates before 0000 are not supported as unix timestamps"
  | .notANumber => "NaN values not permitted"

/-- Why something is no point in time. -/
inductive TimeFault where
  /-- A text that is neither a time nor a date; the fault is that of the date. -/
  | noTimeOrDate (fault : DateFault)
  /-- A number that is no time. -/
  | noTime (fault : DateFault)
  /-- The year is zero. -/
  | yearZero
  /-- Neither text nor number. -/
  | wrongType
  deriving DecidableEq, Repr

namespace Reading

/-! ## §2. Digits -/

/-- A digit at the head. -/
def digit? : Text → Option (Nat × Text)
  | [] => none
  | c :: r => c.digit?.map fun d => (d, r)

/-- Two digits at the head. -/
def twoDigits? (t : Text) : Option (Nat × Text) := do
  let (a, t) ← digit? t
  let (b, t) ← digit? t
  return (a * 10 + b, t)

/-- Four digits at the head. -/
def fourDigits? (t : Text) : Option (Nat × Text) := do
  let (a, t) ← twoDigits? t
  let (b, t) ← twoDigits? t
  return (a * 100 + b, t)

/-- A given sign at the head. -/
def mark? (c : CodePoint) : Text → Option Text
  | [] => none
  | d :: r => if d = c then some r else none

/-! ## §3. Dates -/

/-- The number of octets of a text. -/
def octetCount (t : Text) : Nat := (t.flatMap Utf8.encodePoint).length

/-- A date at the head; year 0 counts as a leap year here. -/
def date (t : Text) : Except DateFault (Date × Text) :=
  if octetCount t < 10 then .error .tooShort
  else
    match fourDigits? t with
    | none => .error .yearDigit
    | some (year, t) =>
      match mark? '-' t with
      | none => .error .separator
      | some t =>
        match twoDigits? t with
        | none => .error .monthDigit
        | some (month, t) =>
          match mark? '-' t with
          | none => .error .separator
          | some t =>
            match twoDigits? t with
            | none => .error .dayDigit
            | some (day, t) =>
              if month < 1 ∨ 12 < month then .error .monthRange
              else if day < 1 ∨ Date.daysInMonth year month < day then .error .dayRange
              else .ok (⟨year, month, day⟩, t)

/-! ## §4. Clock readings and offsets -/

/-- A clock reading at the head: hour, minute, and possibly second and fraction. -/
structure Clock where
  /-- The hour. -/
  hour : Nat
  /-- The minute. -/
  minute : Nat
  /-- The second. -/
  second : Nat
  /-- The microsecond. -/
  micro : Nat

/-- The first six places of a fraction, in microseconds. -/
def fractionMicros (digits : List Nat) : Nat :=
  Text.digitsValue ((digits ++ List.replicate 6 0).take 6)

/-- A fraction of a second at the head, after the seconds. -/
def fraction? (t : Text) : Option (Nat × Text) :=
  match t with
  | c :: r =>
    if c = '.' ∨ c = ',' then
      let ds := (r.takeWhile CodePoint.isDigit).filterMap CodePoint.digit?
      if ds.isEmpty then none else some (fractionMicros ds, r.dropWhile CodePoint.isDigit)
    else some (0, t)
  | [] => some (0, t)

/-- Seconds at the head, if a colon says that they follow. -/
def seconds? (t : Text) : Option (Nat × Nat × Text) :=
  match mark? ':' t with
  | none => some (0, 0, t)
  | some t => do
    let (second, t) ← twoDigits? t
    if 59 < second then none
    let (micro, t) ← fraction? t
    return (second, micro, t)

/-- A clock reading at the head. -/
def clock? (t : Text) : Option (Clock × Text) := do
  let (hour, t) ← twoDigits? t
  let t ← mark? ':' t
  let (minute, t) ← twoDigits? t
  if 23 < hour ∨ 59 < minute then none
  let (second, micro, t) ← seconds? t
  return (⟨hour, minute, second, micro⟩, t)

/-- The sign of an offset at the head; U+2212 is a minus too. -/
def sign? : Text → Option (Int × Text)
  | [] => none
  | c :: r =>
    if c = '+' then some (1, r)
    else if c = '-' ∨ c.val = 0x2212 then some (-1, r)
    else none

/-- The offset that makes up a text: nothing, `Z`, or sign, hours and minutes. -/
def offset? (t : Text) : Option (Option Int) :=
  match t with
  | [] => some none
  | c :: r =>
    if c = 'Z' ∨ c = 'z' then (if r.isEmpty then some (some 0) else none)
    else do
      let (sign, t) ← sign? t
      let (hours, t) ← twoDigits? t
      let (minutes, t) ← twoDigits? ((mark? ':' t).getD t)
      let seconds := hours * 3600 + minutes * 60
      if 59 < minutes ∨ 86400 ≤ seconds ∨ !t.isEmpty then none
      return some (sign * seconds)

/-! ## §5. Counts since the epoch -/

/-- The greatest count that is in seconds. -/
def countLimit : Nat := 20000000000

/-- The range of counts in 64 bits. -/
def inRange64 (n : Int) : Bool := -9223372036854775808 ≤ n && n ≤ 9223372036854775807

/-- The stamp of a number of microseconds. -/
def ofMicros (total : Int) : Except TimeFault Stamp :=
  let seconds := Int.fdiv total 1000000
  if 253402300799 < seconds then .error (.noTime .tooLate)
  else if seconds < -62167219200 then .error (.noTime .tooEarly)
  else
    match Moment.ofMicros? (total + Moment.epoch) with
    | some m => .ok (Stamp.utc m)
    | none => .error .yearZero

/-- The microseconds in a unit of counts. -/
def unitMicros (isMillis : Bool) : Nat := if isMillis then 1000 else 1000000

/-- The stamp of a whole count in 64 bits. -/
def ofCount (count : Int) : Except TimeFault Stamp :=
  if count ≤ -9223372036854775808 then .error (.noTime .tooEarly)
  else ofMicros (count * unitMicros (countLimit < count.natAbs))

/-- A double as a 64-bit integer, towards the floor; out of range it sticks to the end. -/
def floor64 (x : Float) : Int :=
  match Double.floor? x with
  | some n => max (-9223372036854775808) (min 9223372036854775807 n)
  | none => if Double.isNegative x then -9223372036854775808 else 9223372036854775807

/-- A double rounded to a natural number, a half away from zero; negatives count as zero. -/
def roundUp (x : Float) : Nat :=
  match Double.ratio? x with
  | some (n, d) => if Double.isNegative x then 0 else (2 * n + d) / (2 * d)
  | none => 0

/-- The stamp of a count with a fraction. -/
def ofFloat (x : Float) : Except TimeFault Stamp :=
  if x.isNaN then .error (.noTime .notANumber)
  else
    let unit := unitMicros (Float.ofNat countLimit < x.abs)
    let whole := floor64 x
    ofMicros (whole * unit + roundUp ((x - Double.ofInt whole) * Float.ofNat unit))

/-- The stamp of a whole count; beyond 64 bits it is taken as a double. -/
def ofInt (n : Int) : Except TimeFault Stamp :=
  if inRange64 n then ofCount n
  else
    let x := Double.ofInt n
    if x.isInf then .error .wrongType else ofFloat x

/-- The sign at the head of a count. -/
def countSign (t : Text) : Bool × Text :=
  match t with
  | c :: r => if c = '-' then (true, r) else if c = '+' then (false, r) else (false, t)
  | [] => (false, t)

/-- A whole count written as text: a sign and digits, within 64 bits. -/
def wholeCount? (t : Text) : Option Int :=
  let (negative, body) := countSign t
  (Text.toNat? body).bind fun n =>
    let n : Int := if negative then -(n : Int) else n
    if inRange64 n then some n else none

/-- An exponent of ten that makes up a text, or nothing. -/
def power? : Text → Option Int
  | [] => some 0
  | c :: r =>
    if c = 'e' ∨ c = 'E' then
      let (negative, digits) := countSign r
      (Text.toNat? digits).map fun n => if negative then -(n : Int) else n
    else none

/-- A count with a fraction written as text: a sign, digits with a point before, among or after
them, and possibly an exponent. -/
def fractionCount? (t : Text) : Option Float :=
  let (negative, body) := countSign t
  (Text.cutAt? '.' body).bind fun (whole, places) => do
    let frac := places.takeWhile CodePoint.isDigit
    let n ← Text.toNat? (whole ++ frac)
    let power ← power? (places.drop frac.length)
    return Double.ofDecimal negative n (power - frac.length)

/-! ## §6. Texts -/

/-- The stamp of a reading, when its date is in the calendar. -/
def assemble (d : Date) (c : Clock) (offset : Option Int) : Except TimeFault Stamp :=
  match Moment.ofFields? ⟨d, c.hour, c.minute, c.second, c.micro⟩ with
  | some m => .ok ⟨m, offset⟩
  | none => .error .yearZero

/-- A date, a mark between date and clock, a clock reading and an offset. -/
def dateTime? (t : Text) : Option (Except TimeFault Stamp) := do
  let (d, t) ← (date t).toOption
  match t with
  | [] => none
  | c :: t =>
    if c = 'T' ∨ c = 't' ∨ c = ' ' ∨ c = '_' then
      let (clock, t) ← clock? t
      let offset ← offset? t
      return assemble d clock offset
    else none

/-- The stamp of a date alone. -/
def dateAlone (t : Text) : Except TimeFault Stamp :=
  match date t with
  | .error e => .error (.noTimeOrDate e)
  | .ok (d, rest) =>
    if rest.isEmpty then assemble d ⟨0, 0, 0, 0⟩ none else .error (.noTimeOrDate .extra)

/-- The stamp that a text stands for. A count out of range is reported as one that is no date
either; one with a fraction is then looked at as a date. -/
def ofText (t : Text) : Except TimeFault Stamp :=
  match dateTime? t with
  | some r => r
  | none =>
    match wholeCount? t with
    | some n =>
      match ofCount n with
      | .error (.noTime e) => .error (.noTimeOrDate e)
      | r => r
    | none =>
      match (fractionCount? t).map ofFloat with
      | some (.error (.noTime _)) | none => dateAlone t
      | some r => r

end Reading

/-! ## §7. The narrow form -/

namespace Stamp

/-- An offset down to the second that makes up a text, or `Z` for UTC. -/
def isoOffset? (t : Text) : Option (Option Int) :=
  if t.isEmpty then some none
  else if t = "Z" then some (some 0)
  else do
    let (sign, t) ← Reading.sign? t
    let (hours, t) ← Reading.twoDigits? t
    let t ← Reading.mark? ':' t
    let (minutes, t) ← Reading.twoDigits? t
    if t.isEmpty then return some (sign * (hours * 3600 + minutes * 60 : Nat))
    let t ← Reading.mark? ':' t
    let (seconds, t) ← Reading.twoDigits? t
    if !t.isEmpty then none
    return some (sign * (hours * 3600 + minutes * 60 + seconds : Nat))

/-- A stamp as programs write it. -/
def ofIso? (t : Text) : Option Stamp := do
  let (d, t) ← (Reading.date t).toOption
  let t ← Reading.mark? 'T' t
  let (c, t) ← Reading.clock? t
  let offset ← isoOffset? t
  (Reading.assemble d c offset).toOption

end Stamp

end SealedDrop
