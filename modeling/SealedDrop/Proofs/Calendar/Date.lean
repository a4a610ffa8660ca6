/-
  SealedDrop.Proofs.Calendar.Date
  ───────────────────────────────
  **DATES AND DAY NUMBERS DETERMINE EACH OTHER.**

  `Date.ofDays` peels cycles of 400, 100, 4 and 1 years off a number of days,
  and `Date.toDays` counts them.  The last day of a leap year is what makes this
  delicate: it must not be taken for the first day of one more year.  `Peeled`
  says what the four digits of a year are and when the year is a leap year; the
  rest is walking through the months, which is an induction on their lengths.

  Main results:
    • `locate_spec` — a day of the year has one month and one day of the month,
    • `toDays_ofDays`, `valid_ofDays` — a day number gives a date of the calendar,
      and that date gives the day number back,
    • `Moment.ofFields?_fields` — so does the reading of a moment,
    • `Stamp.instant_of_toUtc` — a UTC clock shows the instant of a stamp.
-/
import SealedDrop.Calendar.Moment

namespace SealedDrop

namespace Date

/-! ## §1. Months -/

/-- **A day of the year lies in one month**, behind the months before it. -/
theorem locate_spec (ns : List Nat) {r : Nat} (h : r < ns.foldr (· + ·) 0) :
    1 ≤ (locate ns r).1 ∧ (locate ns r).1 ≤ ns.length ∧ 1 ≤ (locate ns r).2
      ∧ (locate ns r).2 ≤ ns.getD ((locate ns r).1 - 1) 0
      ∧ (ns.take ((locate ns r).1 - 1)).foldr (· + ·) 0 + ((locate ns r).2 - 1) = r := by
  induction ns generalizing r with
  | nil => exact absurd h (Nat.not_lt_zero r)
  | cons n ns ih =>
    rw [List.foldr_cons] at h
    unfold locate
    by_cases hr : r < n
    · rw [if_pos hr]
      refine ⟨Nat.le_refl 1, ?_, ?_, ?_, ?_⟩
      · show 1 ≤ ns.length + 1
        omega
      · show 1 ≤ r + 1
        omega
      · show r + 1 ≤ n
        omega
      · show 0 + (r + 1 - 1) = r
        omega
    · rw [if_neg hr]
      -- the day lies behind the first span: it is found in the rest, one place further
      obtain ⟨hm, hlen, hd, hle, hsum⟩ := ih (r := r - n) (by omega)
      obtain ⟨m, hm'⟩ : ∃ m, (locate ns (r - n)).1 = m + 1 := ⟨_, (Nat.sub_add_cancel hm).symm⟩
      rw [hm'] at hlen hle hsum
      dsimp only
      rw [hm']
      refine ⟨?_, ?_, hd, hle, ?_⟩
      · omega
      · show m + 1 + 1 ≤ ns.length + 1
        omega
      · show n + (ns.take m).foldr (· + ·) 0 + ((locate ns (r - n)).2 - 1) = r
        rw [Nat.add_sub_cancel] at hsum
        omega

/-- The length of a year. -/
theorem foldr_monthLengths (leap : Bool) :
    (monthLengths leap).foldr (· + ·) 0 = if leap then 366 else 365 := by
  cases leap with
  | false => rfl
  | true => rfl

/-! ## §2. Years -/

theorem isLeap_iff {year : Nat} :
    isLeap year = true ↔ (year % 4 = 0 ∧ year % 100 ≠ 0) ∨ year % 400 = 0 := by
  unfold isLeap
  exact decide_eq_true_iff

/-- A day number taken apart: whole cycles of 400, 100, 4 and 1 years, and a day of the year. -/
structure Peeled (n a b c d r : Nat) : Prop where
  /-- The cycles and the day make up the number. -/
  total : n = 146097 * a + 36524 * b + 1461 * c + 365 * d + r
  /-- Four centuries are a cycle. -/
  centuries : b ≤ 3
  /-- Twenty-five times four years are a century. -/
  fours : c ≤ 24
  /-- Four years are a cycle. -/
  years : d ≤ 3
  /-- The day is one of the year, which has one more if it is a leap year. -/
  day : r < if isLeap (400 * a + 100 * b + 4 * c + d + 1) then 366 else 365

/-- The year before has this many days before its end. -/
theorem daysBeforeYear_eq {a b c d : Nat} (hb : b ≤ 3) (hc : c ≤ 24) (hd : d ≤ 3) :
    daysBeforeYear (400 * a + 100 * b + 4 * c + d + 1)
      = 146097 * a + 36524 * b + 1461 * c + 365 * d := by
  unfold daysBeforeYear
  dsimp only
  omega

/-- **Peeling off cycles takes a day number apart.** -/
theorem peeled (n : Nat) :
    let r := n % 146097
    let c100 := min (r / 36524) 3
    let r4 := r - c100 * 36524
    let r1 := r4 % 1461
    let c1 := min (r1 / 365) 3
    Peeled n (n / 146097) c100 (r4 / 1461) c1 (r1 - c1 * 365) := by
  intro r c100 r4 r1 c1
  have hr : r < 146097 := Nat.mod_lt n (by decide)
  have hn : n = 146097 * (n / 146097) + r := (Nat.div_add_mod n 146097).symm
  have hr1 : r4 = 1461 * (r4 / 1461) + r1 := (Nat.div_add_mod r4 1461).symm
  have hlt : r1 < 1461 := Nat.mod_lt r4 (by decide)
  have h100 : c100 ≤ 3 := Nat.min_le_right _ _
  have h1 : c1 ≤ 3 := Nat.min_le_right _ _
  -- three is the greatest count, and what is left over fits in one more day
  have hr4 : r4 + c100 * 36524 = r ∧ (c100 < 3 → r4 < 36524) ∧ r4 < 36525 := by omega
  have hd : r1 - c1 * 365 + c1 * 365 = r1 ∧ (c1 < 3 → r1 - c1 * 365 < 365)
    ∧ r1 - c1 * 365 < 366 := by omega
  refine ⟨by omega, h100, by omega, h1, ?_⟩
  -- the 366th day is only reached in the fourth year of its cycle, which is a leap year
  split
  next => omega
  next hleap =>
    rw [isLeap_iff] at hleap
    omega

/-! ## §3. Dates -/

theorem year_le {n a b c d r : Nat} (h : Peeled n a b c d r) (hn : n < span) :
    400 * a + 100 * b + 4 * c + d + 1 ≤ 9999 := by
  have htotal := h.total
  have hb := h.centuries
  have hc := h.fours
  have hd := h.years
  have hspan : span = 3652059 := rfl
  omega

/-- The date of a day number, from the cycles that make it up. -/
theorem Peeled.date {n a b c d r : Nat} (h : Peeled n a b c d r) (hn : n < span) :
    let year := 400 * a + 100 * b + 4 * c + d + 1
    let place := locate (monthLengths (isLeap year)) r
    toDays ⟨year, place.1, place.2⟩ = n ∧ valid ⟨year, place.1, place.2⟩ = true := by
  intro year place
  have hr : r < (monthLengths (isLeap year)).foldr (· + ·) 0 := by
    rw [foldr_monthLengths]
    exact h.day
  obtain ⟨hm, hlen, hd, hle, hsum⟩ := locate_spec _ hr
  have hbefore : daysBeforeYear year = 146097 * a + 36524 * b + 1461 * c + 365 * d :=
    daysBeforeYear_eq h.centuries h.fours h.years
  have htotal := h.total
  constructor
  -- days before the year, days before the month, and the day of the month
  · show daysBeforeYear year
      + ((monthLengths (isLeap year)).take (place.1 - 1)).foldr (· + ·) 0 + (place.2 - 1) = n
    rw [Nat.add_assoc, hsum, hbefore]
    exact htotal.symm
  · have hyear : year ≤ 9999 := year_le h hn
    have hpos : place.1 ≠ 0 := by
      have : 1 ≤ place.1 := hm
      omega
    unfold valid daysInMonth
    rw [if_neg hpos]
    simp only [Bool.and_eq_true, decide_eq_true_eq]
    exact ⟨⟨⟨⟨⟨by omega, hyear⟩, hm⟩, hlen⟩, hd⟩, hle⟩

/-- **The date of a day number gives the number back.** -/
theorem toDays_ofDays {n : Nat} (hn : n < span) : toDays (ofDays n) = n := ((peeled n).date hn).1

/-- **Every day number of the calendar has a date of the calendar.** -/
theorem valid_ofDays {n : Nat} (hn : n < span) : valid (ofDays n) = true := ((peeled n).date hn).2

end Date

/-! ## §4. Moments -/

namespace Moment

/-- The parts of the reading of a moment lie in their ranges. -/
theorem fields_ranges (m : Moment) :
    m.fields.date.valid = true ∧ m.fields.hour < 24 ∧ m.fields.minute < 60 ∧ m.fields.second < 60
      ∧ m.fields.micro < 1000000 := by
  have hin := m.inCalendar
  unfold microsPerDay microsPerSecond at hin
  refine ⟨Date.valid_ofDays ?_, ?_, ?_, ?_, ?_⟩
  · show m.micros / 1000000 / 86400 < Date.span
    omega
  · show m.micros / 1000000 % 86400 / 3600 < 24
    omega
  · show m.micros / 1000000 % 86400 / 60 % 60 < 60
    omega
  · show m.micros / 1000000 % 86400 % 60 < 60
    omega
  · show m.micros % 1000000 < 1000000
    omega

/-- The reading of a moment counts its microseconds. -/
theorem micros_fields (m : Moment) : m.fields.micros = m.micros := by
  have hin := m.inCalendar
  unfold microsPerDay microsPerSecond at hin
  have hdays : Date.toDays (Date.ofDays (m.micros / 1000000 / 86400)) = m.micros / 1000000 / 86400 :=
    Date.toDays_ofDays (by omega)
  unfold Fields.micros fields microsPerSecond
  dsimp only
  rw [hdays]
  omega

theorem ofMicros?_micros (m : Moment) : ofMicros? m.micros = some m := by
  unfold ofMicros?
  exact dif_pos ⟨Int.natCast_nonneg _, m.inCalendar⟩

/-- **The reading of a moment gives the moment back.** -/
theorem ofFields?_fields (m : Moment) : ofFields? m.fields = some m := by
  obtain ⟨hdate, hhour, hminute, hsecond, hmicro⟩ := m.fields_ranges
  unfold ofFields?
  rw [if_pos, micros_fields, ofMicros?_micros]
  simp only [Bool.and_eq_true, decide_eq_true_eq]
  exact ⟨⟨⟨⟨hdate, hhour⟩, hminute⟩, hsecond⟩, hmicro⟩

theorem ofMicros?_eq_some {n : Int} {m : Moment} (h : ofMicros? n = some m) : (m.micros : Int) = n := by
  unfold ofMicros? at h
  split at h
  next hin =>
    injection h with h
    rw [← h]
    exact Int.toNat_of_nonneg hin.1
  next => cases h

theorem ofMicros?_eq_none_iff {n : Int} :
    ofMicros? n = none ↔ n < 0 ∨ Date.span * microsPerDay ≤ n := by
  unfold ofMicros?
  split
  next hin =>
    simp only [reduceCtorEq, false_iff]
    omega
  next hout =>
    simp only [true_iff]
    omega

end Moment

/-! ## §5. Stamps -/

namespace Stamp

/-- **The moment of a stamp on a UTC clock is its instant.** -/
theorem instant_of_toUtc {s : Stamp} {m : Moment} (h : s.toUtc = .ok m) : (m.micros : Int) = s.instant := by
  unfold toUtc at h
  cases ho : s.offset with
  | none =>
    rw [ho] at h
    injection h with h
    unfold instant
    rw [ho, h, Option.getD_none, Int.zero_mul, Int.sub_zero]
  | some o =>
    rw [ho] at h
    dsimp only at h
    split at h
    next m' hm' =>
      injection h with h
      rw [← h]
      exact Moment.ofMicros?_eq_some hm'
    next => cases h

/-- The instant of a stamp lies outside the calendar, and its offset is known. -/
def Outlying (s : Stamp) : Prop :=
  s.offset ≠ none ∧ (s.instant < 0 ∨ Date.span * microsPerDay ≤ s.instant)

instance (s : Stamp) : Decidable s.Outlying := inferInstanceAs (Decidable (_ ∧ (_ ∨ _)))

end Stamp

end SealedDrop
