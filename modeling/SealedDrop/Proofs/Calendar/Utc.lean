/-
  SealedDrop.Proofs.Calendar.Utc
  ──────────────────────────────
  **UTC KEEPS INSTANTS AND THEIR ORDER.**

  A reading of a clock that is ahead of UTC is moved back by its offset, with
  carries through days, months and leap years, and fails where the calendar
  ends.  Both sides of the law are said in parts of readings: the instant of a
  reading counts its parts (`Fields.micros`), and readings are compared part by
  part, from the year down to the microsecond (`Fields.parts`).

  The offset of a `Stamp` has whole seconds, which is what a document can hold.
  A clock may also be ahead by a part of a second, so the law is stated of
  SIGHTINGS, whose offsets have microseconds; a stamp is the sighting with its
  offset (`toUtc_sighting`).

  Main results:
    • `parts_lt_iff`, `parts_inj` — readings are in the order of their moments,
    • `inYears_iff` — the instants that a UTC clock can show in the years 1 to 9999,
    • `utc_keeps_instants_and_order` — what going over to UTC does to any sighting.
-/
import SealedDrop.Proofs.Calendar.Column

namespace SealedDrop

/-! ## §1. Readings part by part -/

namespace Moment

/-- The parts of a reading, from the year down to the microsecond. -/
def Fields.parts (f : Fields) : List Nat :=
  [f.date.year, f.date.month, f.date.day, f.hour, f.minute, f.second, f.micro]

/-- A reading that a clock can show in the years 1 to 9999. -/
structure Fields.Valid (f : Fields) : Prop where
  date : f.date.valid = true
  hour : f.hour < 24
  minute : f.minute < 60
  second : f.second < 60
  micro : f.micro < 1000000

theorem valid_fields (m : Moment) : m.fields.Valid := by
  obtain ⟨hdate, hhour, hminute, hsecond, hmicro⟩ := m.fields_ranges
  exact ⟨hdate, hhour, hminute, hsecond, hmicro⟩

/-- A reading that stands before another one part by part shows an earlier moment. -/
theorem lt_of_parts_lt {m n : Moment} (h : m.fields.parts < n.fields.parts) :
    m.micros < n.micros := by
  obtain ⟨hdate, hhour, hminute, hsecond, hmicro⟩ := m.valid_fields
  have hdate' := n.valid_fields.date
  simp only [Fields.parts, List.cons_lt_cons_iff, List.not_lt_nil, and_false, or_false] at h
  -- a part of the date decides between the days, one of the clock within a day
  rcases h with hyear | ⟨hyear, hmonth | ⟨hmonth, hday | ⟨hday, hclock⟩⟩⟩
  · exact lt_of_toDays (Date.toDays_lt_of_year hdate hyear)
  · exact lt_of_toDays (Date.toDays_lt_of_month hdate hdate' hyear hmonth)
  · exact lt_of_toDays (Date.toDays_lt_of_day hdate hyear hmonth hday)
  · have hdays : m.fields.date.toDays = n.fields.date.toDays := by
      rw [Date.toDays_eq, Date.toDays_eq, hyear, hmonth, hday]
    have hcount := m.micros_fields
    have hcount' := n.micros_fields
    unfold Fields.micros microsPerSecond at hcount hcount'
    omega

/-- Moments whose readings agree in all parts are the same. -/
theorem parts_inj {m n : Moment} : m.fields.parts = n.fields.parts ↔ m.micros = n.micros := by
  constructor
  · intro h
    simp only [Fields.parts, List.cons.injEq, and_true] at h
    obtain ⟨hyear, hmonth, hday, hhour, hminute, hsecond, hmicro⟩ := h
    rw [← m.micros_fields, ← n.micros_fields]
    unfold Fields.micros
    rw [Date.toDays_eq, Date.toDays_eq, hyear, hmonth, hday, hhour, hminute, hsecond, hmicro]
  · intro h
    unfold fields
    rw [h]

/-- **Readings are in the order of their moments, part by part.** -/
theorem parts_lt_iff {m n : Moment} : m.fields.parts < n.fields.parts ↔ m.micros < n.micros := by
  constructor
  · exact lt_of_parts_lt
  · intro h
    -- otherwise the readings agree, or stand the other way round
    rcases List.le_iff_lt_or_eq.mp (List.not_lt.mp fun hback : n.fields.parts < m.fields.parts =>
      Nat.lt_asymm h (lt_of_parts_lt hback)) with hlt | heq
    · exact hlt
    · exact absurd (parts_inj.mp heq) (Nat.ne_of_lt h)

end Moment

/-! ## §2. The instants of the calendar -/

/-- An instant that a UTC clock shows in the years 1 to 9999: some reading counts as many
microseconds. -/
def InYears (instant : Int) : Prop := ∃ f : Moment.Fields, f.Valid ∧ (f.micros : Int) = instant

/-- The readings of the years 1 to 9999 come before those of the year 10000. -/
theorem Moment.Fields.Valid.micros_lt {f : Moment.Fields} (h : f.Valid) :
    f.micros < Date.span * microsPerDay := by
  have hyear : f.date.year < 10000 := by
    have := (Reading.valid_iff.mp h.date).2.1
    omega
  have hdays : f.date.toDays < Date.span := Date.toDays_lt_of_year (e := ⟨10000, 1, 1⟩) h.date hyear
  obtain ⟨_, hhour, hminute, hsecond, hmicro⟩ := h
  unfold Fields.micros microsPerDay microsPerSecond
  omega

/-- **A UTC clock shows the instants from the first moment of the calendar to its end.** -/
theorem inYears_iff {instant : Int} :
    InYears instant ↔ 0 ≤ instant ∧ instant < Date.span * microsPerDay := by
  constructor
  · rintro ⟨f, hf, rfl⟩
    have hlt := hf.micros_lt
    omega
  · rintro ⟨hlow, hhigh⟩
    obtain ⟨n, rfl⟩ := Int.eq_ofNat_of_zero_le hlow
    have hn : n < Date.span * microsPerDay := by omega
    exact ⟨_, Moment.valid_fields ⟨n, hn⟩, congrArg Nat.cast (Moment.micros_fields ⟨n, hn⟩)⟩

/-- No moment shows an instant iff it lies outside the years 1 to 9999. -/
theorem Moment.ofMicros?_eq_none_iff_years {instant : Int} :
    ofMicros? instant = none ↔ ¬ InYears instant := by
  rw [ofMicros?_eq_none_iff, inYears_iff]
  omega

/-! ## §3. Sightings -/

/-- A reading of a clock, and how many microseconds the clock is ahead of UTC if that is known. -/
structure Sighting where
  wall : Moment
  ahead : Option Int
  deriving DecidableEq

/-- A stamp as a sighting. -/
def Stamp.sighting (s : Stamp) : Sighting := ⟨s.wall, s.offset.map (· * microsPerSecond)⟩

namespace Sighting

/-- A reading of a UTC clock. -/
def utc (m : Moment) : Sighting := ⟨m, some 0⟩

/-- The instant of a sighting, from the parts of its reading; an unknown offset counts as zero. -/
def instant (v : Sighting) : Int := v.wall.fields.micros - v.ahead.getD 0

/-- The same instant on a UTC clock. -/
def toUtc (v : Sighting) : Except Stamp.OutOfCalendar Sighting :=
  match v.ahead with
  | none => .ok (utc v.wall)
  | some ahead =>
    match Moment.ofMicros? (v.wall.micros - ahead) with
    | some m => .ok (utc m)
    | none => .error .outOfCalendar

/-- **Stamps go over to UTC as sightings do.** -/
theorem toUtc_sighting (s : Stamp) : s.sighting.toUtc = s.toUtc.map utc := by
  unfold toUtc Stamp.sighting Stamp.toUtc Stamp.instant
  cases s.offset with
  | none => rfl
  | some o =>
    simp only [Option.map_some, Option.getD_some]
    cases Moment.ofMicros? (s.wall.micros - o * microsPerSecond) with
    | none => rfl
    | some m => rfl

theorem instant_eq (v : Sighting) : v.instant = v.wall.micros - v.ahead.getD 0 := by
  unfold instant
  rw [Moment.micros_fields]

theorem instant_utc (m : Moment) : (utc m).instant = m.micros := by
  rw [instant_eq]
  exact Int.sub_zero _

theorem toUtc_utc (m : Moment) : (utc m).toUtc = .ok (utc m) := by
  unfold toUtc utc
  simp only [Int.sub_zero, Moment.ofMicros?_micros]

/-- A sighting has no counterpart on a UTC clock iff its offset is known and its instant lies outside
the years 1 to 9999. -/
theorem toUtc_eq_error_iff {v : Sighting} :
    v.toUtc = .error .outOfCalendar ↔ v.ahead ≠ none ∧ ¬ InYears v.instant := by
  rw [instant_eq]
  unfold toUtc
  cases v.ahead with
  | none => simp
  | some ahead =>
    rw [Option.getD_some, ← Moment.ofMicros?_eq_none_iff_years]
    cases hm : Moment.ofMicros? (v.wall.micros - ahead) with
    | none => simp [hm]
    | some m => simp [hm]

/-- Its counterpart is a reading of a UTC clock at its instant. -/
theorem of_toUtc_eq_ok {v u : Sighting} (h : v.toUtc = .ok u) :
    u = utc u.wall ∧ (u.wall.micros : Int) = v.instant := by
  rw [instant_eq]
  unfold toUtc at h
  split at h
  next hnone =>
    injection h with h
    subst h
    rw [hnone, Option.getD_none, Int.sub_zero]
    exact ⟨rfl, rfl⟩
  next ahead hsome =>
    split at h
    next m hm =>
      injection h with h
      subst h
      rw [hsome, Option.getD_some]
      exact ⟨rfl, Moment.ofMicros?_eq_some hm⟩
    next => cases h

/-- A sighting that is naive or in the years 1 to 9999 has a counterpart, which is its own. -/
theorem exists_toUtc {v : Sighting} (hv : v.ahead = none ∨ InYears v.instant) :
    ∃ u, v.toUtc = .ok u ∧ u.wall.fields.Valid ∧ u.ahead = some 0 ∧ u.instant = v.instant
      ∧ u.toUtc = .ok u := by
  cases hu : v.toUtc with
  -- only a known offset that leads out of the years can fail
  | error e =>
    cases e
    obtain ⟨hknown, hout⟩ := toUtc_eq_error_iff.mp hu
    rcases hv with hnone | hin
    · exact absurd hnone hknown
    · exact absurd hin hout
  | ok u =>
    obtain ⟨hutc, hinstant⟩ := of_toUtc_eq_ok hu
    refine ⟨u, rfl, u.wall.valid_fields, ?_, ?_, ?_⟩
    · rw [hutc]
      rfl
    · rw [hutc, instant_utc]
      exact hinstant
    · rw [hutc]
      exact toUtc_utc u.wall

end Sighting

/-- **UTC keeps instants and their order, up to the ends of the calendar.**  A stamp goes over to UTC
as the sighting that it is.  A sighting fails to iff its offset is known and its instant lies outside
the years 1 to 9999.  Otherwise its counterpart is a reading of those years with offset zero, at the
same instant to the microsecond, and going over once more changes nothing.  Counterparts stand in the
order of the instants when they are compared part by part. -/
theorem utc_keeps_instants_and_order :
    (∀ s : Stamp, s.toUtc.map Sighting.utc = s.sighting.toUtc)
    ∧ (∀ v : Sighting, v.toUtc = .error .outOfCalendar ↔ v.ahead ≠ none ∧ ¬ InYears v.instant)
    ∧ (∀ v : Sighting, v.ahead = none ∨ InYears v.instant →
        ∃ u, v.toUtc = .ok u ∧ u.wall.fields.Valid ∧ u.ahead = some 0 ∧ u.instant = v.instant
          ∧ u.toUtc = .ok u)
    ∧ ∀ v w u x : Sighting, v.toUtc = .ok u → w.toUtc = .ok x →
        (u.wall.fields.parts < x.wall.fields.parts ↔ v.instant < w.instant)
          ∧ (u.wall.fields.parts = x.wall.fields.parts ↔ v.instant = w.instant) := by
  refine ⟨fun s => (Sighting.toUtc_sighting s).symm, fun v => Sighting.toUtc_eq_error_iff,
    fun v hv => Sighting.exists_toUtc hv, ?_⟩
  intro v w u x hu hx
  obtain ⟨_, hv⟩ := Sighting.of_toUtc_eq_ok hu
  obtain ⟨_, hw⟩ := Sighting.of_toUtc_eq_ok hx
  rw [Moment.parts_lt_iff, Moment.parts_inj, ← hv, ← hw]
  exact ⟨Int.ofNat_lt.symm, Int.ofNat_inj.symm⟩

/-- Around the first moment of the calendar: a clock that is a microsecond ahead shows it too early
for UTC, and one that is a microsecond behind shows it one microsecond after midnight. -/
theorem utc_keeps_instants_and_order_first :
    (⟨.first, some 1⟩ : Sighting).toUtc = .error .outOfCalendar
    ∧ ∃ u, (⟨.first, some (-1)⟩ : Sighting).toUtc = .ok u
      ∧ Moment.first.fields.parts < u.wall.fields.parts := by
  obtain ⟨_, hfails, hcounterpart, horder⟩ := utc_keeps_instants_and_order
  have hbefore : (⟨.first, some 1⟩ : Sighting).instant = -1 := Sighting.instant_eq _
  have hafter : (⟨.first, some (-1)⟩ : Sighting).instant = 1 := Sighting.instant_eq _
  constructor
  · rw [hfails, hbefore, inYears_iff]
    exact ⟨by simp, by omega⟩
  · have hin : InYears (⟨.first, some (-1)⟩ : Sighting).instant := by
      rw [hafter, inYears_iff]
      decide
    obtain ⟨u, hu, _⟩ := hcounterpart _ (.inr hin)
    obtain ⟨hlt, _⟩ := horder (.utc .first) _ _ _ (Sighting.toUtc_utc .first) hu
    rw [hafter, Sighting.instant_utc] at hlt
    exact ⟨u, hu, hlt.mpr (by decide)⟩

end SealedDrop
