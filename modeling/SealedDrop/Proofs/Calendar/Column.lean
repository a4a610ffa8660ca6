/-
  SealedDrop.Proofs.Calendar.Column
  ─────────────────────────────────
  **TIMES IN A COLUMN OF TEXTS.**

  A database without a type for times keeps them as texts of one fixed form,

      2026-01-01 12:00:00.000000

  and compares them sign by sign.  That is sound because every part has a fixed
  width and stands behind the parts that weigh more: two such texts are in the
  order of their readings, part by part (`le_numeral`), and the readings are in
  the order of the moments (`toDays_lt_of_year`, `toDays_lt_of_month`).

  Main results:
    • `ofColumn?_columnText` — a time in a column is read back,
    • `columnText_le_iff` — the order of the texts is the order of the moments.
-/
import SealedDrop.Proofs.Calendar.Reading

namespace SealedDrop

open Text (digits digitSign)

/-! ## §1. Numerals of one width -/

namespace Text

/-- Texts that begin alike up to one length are compared there first. -/
theorem le_append {s t : Text} (h : s.length = t.length) (u v : Text) :
    le (s ++ u) (t ++ v) = if s = t then le u v else le s t := by
  induction s generalizing t with
  | nil =>
    rw [List.length_nil] at h
    rw [List.eq_nil_of_length_eq_zero h.symm]
    rfl
  | cons a s ih =>
    cases t with
    | nil => cases h
    | cons b t =>
      have hlength : s.length = t.length := Nat.succ.inj h
      show (if a = b then le (s ++ u) (t ++ v) else decide (a < b))
        = if a :: s = b :: t then le u v else if a = b then le s t else decide (a < b)
      -- the first sign at which the fronts differ decides, whatever stands behind them
      by_cases hab : a = b
      · subst hab
        rw [if_pos rfl, if_pos rfl, ih hlength]
        simp only [List.cons.injEq, true_and]
      · have hne : ¬ a :: s = b :: t := by
          intro heq
          injection heq with hhead
          exact hab hhead
        rw [if_neg hab, if_neg hne, if_neg hab]

/-- A digit stands before the greater ones. -/
theorem le_digitSign {a b : Nat} (ha : a < 10) (hb : b < 10) :
    le [digitSign a] [digitSign b] = decide (a ≤ b) := by
  have h : ∀ m n : Fin 10, le [digitSign m.val] [digitSign n.val] = decide (m.val ≤ n.val) := by
    decide
  exact h ⟨a, ha⟩ ⟨b, hb⟩

/-- Numerals of one width are equal when the numbers are. -/
theorem digits_inj {width a b : Nat} (ha : a < 10 ^ width) (hb : b < 10 ^ width) :
    digits 10 width a = digits 10 width b ↔ a = b := by
  constructor
  · intro h
    rw [← Reading.digitsValue_digits ha, h, Reading.digitsValue_digits hb]
  · intro h
    rw [h]

/-- Numerals of one width are in the order of their numbers. -/
theorem le_digits {width a b : Nat} (ha : a < 10 ^ width) (hb : b < 10 ^ width) :
    le (digits 10 width a) (digits 10 width b) = decide (a ≤ b) := by
  induction width generalizing a b with
  | zero =>
    rw [Nat.pow_zero] at ha hb
    have hab : a ≤ b := by omega
    rw [decide_eq_true hab]
    rfl
  | succ width ih =>
    rw [Nat.pow_succ] at ha hb
    have ha' : a / 10 < 10 ^ width := by omega
    have hb' : b / 10 < 10 ^ width := by omega
    have hlength : (digits 10 width (a / 10)).length = (digits 10 width (b / 10)).length := by
      rw [length_digits, length_digits]
    -- the last digits decide only between numbers that have the other digits in common
    rw [digits, digits, le_append hlength]
    by_cases hsame : a / 10 = b / 10
    · have hlast : (a % 10 ≤ b % 10) = (a ≤ b) := by
        apply propext
        omega
      rw [if_pos ((digits_inj ha' hb').mpr hsame),
        le_digitSign (Nat.mod_lt a (by decide)) (Nat.mod_lt b (by decide))]
      simp only [hlast]
    · have hrest : (a / 10 ≤ b / 10) = (a ≤ b) := by
        apply propext
        omega
      rw [if_neg (fun h => hsame ((digits_inj ha' hb').mp h)), ih ha' hb']
      simp only [hrest]

/-- **A numeral of a fixed width is compared before what stands behind it.** -/
theorem le_numeral {width a b : Nat} (hw : 0 < width) (ha : a < 10 ^ width) (hb : b < 10 ^ width)
    (u v : Text) :
    le (ofNatPadded width a ++ u) (ofNatPadded width b ++ v)
      = if a = b then le u v else decide (a ≤ b) := by
  have hlength : (digits 10 width a).length = (digits 10 width b).length := by
    rw [length_digits, length_digits]
  rw [ofNatPadded_eq hw ha, ofNatPadded_eq hw hb, le_append hlength, le_digits ha hb]
  simp only [digits_inj ha hb]

/-- What two texts have in common in front does not matter for their order. -/
theorem le_common (s u v : Text) : le (s ++ u) (s ++ v) = le u v := by
  rw [le_append rfl, if_pos rfl]

end Text

/-! ## §2. The order of dates -/

namespace Date

/-- The days of a year before one of its months. -/
def daysBeforeMonth (leap : Bool) (month : Nat) : Nat :=
  ((monthLengths leap).take (month - 1)).foldr (· + ·) 0

theorem toDays_eq (d : Date) :
    d.toDays = daysBeforeYear d.year + daysBeforeMonth (isLeap d.year) d.month + (d.day - 1) := rfl

theorem daysBeforeMonth_succ {leap : Bool} {month : Nat} (hlow : 1 ≤ month) (hhigh : month ≤ 12) :
    daysBeforeMonth leap (month + 1)
      = daysBeforeMonth leap month + (monthLengths leap).getD (month - 1) 0 := by
  have h : ∀ leap, ∀ m : Fin 12, daysBeforeMonth leap (m.val + 1 + 1)
      = daysBeforeMonth leap (m.val + 1) + (monthLengths leap).getD m.val 0 := by decide
  have hm := h leap ⟨month - 1, by omega⟩
  rw [show month - 1 + 1 = month by omega] at hm
  exact hm

theorem daysBeforeMonth_mono (leap : Bool) {m n : Nat} (h : m ≤ n) (hn : n ≤ 13) :
    daysBeforeMonth leap m ≤ daysBeforeMonth leap n := by
  have hall : ∀ leap, ∀ m n : Fin 14, m ≤ n →
      daysBeforeMonth leap m.val ≤ daysBeforeMonth leap n.val := by decide
  exact hall leap ⟨m, by omega⟩ ⟨n, by omega⟩ h

/-- A day of a month lies before the next month. -/
theorem day_lt {d : Date} (h : d.valid = true) :
    daysBeforeMonth (isLeap d.year) d.month + (d.day - 1)
      < daysBeforeMonth (isLeap d.year) (d.month + 1) := by
  obtain ⟨_, _, hlow, hhigh, hday, hlast⟩ := Reading.valid_iff.mp h
  rw [daysBeforeMonth_succ hlow hhigh]
  unfold daysInMonth at hlast
  rw [if_neg (by omega)] at hlast
  omega

/-- The days before the next year. -/
theorem daysBeforeYear_succ (year : Nat) (h : 1 ≤ year) :
    daysBeforeYear year + daysBeforeMonth (isLeap year) 13 = daysBeforeYear (year + 1) := by
  have hlength : daysBeforeMonth (isLeap year) 13 = if isLeap year then 366 else 365 := by
    cases isLeap year with
    | false => rfl
    | true => rfl
  rw [hlength]
  obtain ⟨y, rfl⟩ : ∃ y, year = y + 1 := ⟨year - 1, by omega⟩
  -- a count of multiples grows by one at each of them
  have h4 : (y + 1) / 4 = y / 4 + if (y + 1) % 4 = 0 then 1 else 0 := by
    split
    next => omega
    next => omega
  have h100 : (y + 1) / 100 = y / 100 + if (y + 1) % 100 = 0 then 1 else 0 := by
    split
    next => omega
    next => omega
  have h400 : (y + 1) / 400 = y / 400 + if (y + 1) % 400 = 0 then 1 else 0 := by
    split
    next => omega
    next => omega
  have hfewer : y / 100 ≤ y / 4 := by omega
  show 365 * y + y / 4 - y / 100 + y / 400 + (if isLeap (y + 1) = true then 366 else 365)
    = 365 * (y + 1) + (y + 1) / 4 - (y + 1) / 100 + (y + 1) / 400
  rw [h4, h100, h400]
  clear h4 h100 h400
  by_cases hleap : isLeap (y + 1) = true
  · rw [if_pos hleap]
    rw [isLeap_iff] at hleap
    rcases hleap with ⟨hfour, hcentury⟩ | hcycle
    · rw [if_pos hfour, if_neg hcentury, if_neg (by omega)]
      omega
    · rw [if_pos (by omega), if_pos (by omega), if_pos hcycle]
      omega
  · rw [if_neg hleap]
    rw [isLeap_iff] at hleap
    by_cases hfour : (y + 1) % 4 = 0
    · rw [if_pos hfour, if_pos (by omega), if_neg (by omega)]
      omega
    · rw [if_neg hfour, if_neg (by omega), if_neg (by omega)]
      omega

theorem daysBeforeYear_mono {y z : Nat} (h : y ≤ z) : daysBeforeYear y ≤ daysBeforeYear z := by
  induction h with
  | refl => exact Nat.le_refl _
  | @step z _ ih =>
    refine Nat.le_trans ih ?_
    cases z with
    | zero => exact Nat.le_refl 0
    | succ z =>
      have hnext := daysBeforeYear_succ (z + 1) (by omega)
      show daysBeforeYear (z + 1) ≤ daysBeforeYear (z + 1 + 1)
      omega

theorem toDays_lt_of_year {d e : Date} (hd : d.valid = true) (h : d.year < e.year) :
    d.toDays < e.toDays := by
  obtain ⟨hyear, _, _, hmonth, _, _⟩ := Reading.valid_iff.mp hd
  have hday := day_lt hd
  have hend := daysBeforeMonth_mono (isLeap d.year)
    (show d.month + 1 ≤ 13 by omega) (Nat.le_refl 13)
  have hnext := daysBeforeYear_succ d.year hyear
  have hyears : daysBeforeYear (d.year + 1) ≤ daysBeforeYear e.year := daysBeforeYear_mono h
  rw [toDays_eq, toDays_eq]
  omega

theorem toDays_lt_of_day {d e : Date} (hd : d.valid = true) (hyear : d.year = e.year)
    (hmonth : d.month = e.month) (h : d.day < e.day) : d.toDays < e.toDays := by
  obtain ⟨_, _, _, _, hday, _⟩ := Reading.valid_iff.mp hd
  rw [toDays_eq, toDays_eq, ← hyear, ← hmonth]
  omega

theorem toDays_lt_of_month {d e : Date} (hd : d.valid = true) (he : e.valid = true)
    (hyear : d.year = e.year) (h : d.month < e.month) : d.toDays < e.toDays := by
  obtain ⟨_, _, _, hmonth, _, _⟩ := Reading.valid_iff.mp he
  have hday := day_lt hd
  have hmonths := daysBeforeMonth_mono (isLeap d.year)
    (show d.month + 1 ≤ e.month from h) (by omega)
  rw [toDays_eq, toDays_eq, ← hyear]
  omega

end Date

/-! ## §3. The text of a moment in a column -/

namespace Moment

/-- The clock reading in a column, always with six places of a second. -/
def columnClock (f : Fields) : Text :=
  Reading.clockTextWith ⟨f.hour, f.minute, f.second, f.micro⟩
    (Text.ofString "." ++ Text.ofNatPadded 6 f.micro)

/-- The text of a moment in a column. -/
def columnText (m : Moment) : Text :=
  Reading.dateText m.fields.date ++ (Text.ofString " " ++ columnClock m.fields)

/-- The moment of a text in a column. -/
def ofColumn? (t : Text) : Option Moment := do
  let (d, t) ← (Reading.date t).toOption
  let t ← Reading.mark? ' ' t
  let (c, t) ← Reading.clock? t
  if !t.isEmpty then none
  ofFields? ⟨d, c.hour, c.minute, c.second, c.micro⟩

/-- **A time in a column is read back.** -/
theorem ofColumn?_columnText (m : Moment) : ofColumn? m.columnText = some m := by
  obtain ⟨hdate, hhour, hminute, hsecond, hmicro⟩ := m.fields_ranges
  have hclosed : Reading.Closed [] := by
    intro c r h
    cases h
  have hclock := Reading.clock?_of_fraction
    (c := ⟨m.fields.hour, m.fields.minute, m.fields.second, m.fields.micro⟩) hhour hminute hsecond
    (Reading.fraction?_point hmicro hclosed)
  rw [List.append_nil] at hclock
  unfold ofColumn? columnText
  rw [Reading.date_append hdate]
  simp only [Except.toOption, bind, Option.bind]
  rw [show Reading.mark? ' ' (Text.ofString " " ++ columnClock m.fields)
    = some (columnClock m.fields) from rfl]
  dsimp only
  unfold columnClock
  rw [hclock]
  exact ofFields?_fields m

/-- Readings of two moments on one day are in the order of the moments. -/
theorem columnClock_le {m n : Moment} (h : m.fields.date.toDays = n.fields.date.toDays) :
    Text.le (columnClock m.fields) (columnClock n.fields) = decide (m ≤ n) := by
  obtain ⟨_, hh, hm, hs, hu⟩ := m.fields_ranges
  obtain ⟨_, hh', hm', hs', hu'⟩ := n.fields_ranges
  have hcount := m.micros_fields
  have hcount' := n.micros_fields
  unfold Fields.micros microsPerSecond at hcount hcount'
  rw [← h] at hcount'
  have hlast := Text.le_numeral (show 0 < 6 by decide) hu hu' [] []
  rw [List.append_nil, List.append_nil] at hlast
  have horder : m ≤ n ↔ m.micros ≤ n.micros := Iff.rfl
  unfold columnClock Reading.clockTextWith
  simp only [List.append_assoc]
  rw [Text.le_numeral (by decide) (by omega) (by omega), Text.le_common,
    Text.le_numeral (by decide) (by omega) (by omega), Text.le_common,
    Text.le_numeral (by decide) (by omega) (by omega), Text.le_common, hlast]
  -- the first part that differs decides, since the parts behind it make up less than one unit
  by_cases hhour : m.fields.hour = n.fields.hour
  · rw [if_pos hhour]
    by_cases hminute : m.fields.minute = n.fields.minute
    · rw [if_pos hminute]
      by_cases hsecond : m.fields.second = n.fields.second
      · rw [if_pos hsecond]
        by_cases hmicro : m.fields.micro = n.fields.micro
        · rw [if_pos hmicro]
          exact (decide_eq_true (horder.mpr (by omega))).symm
        · rw [if_neg hmicro]
          exact decide_eq_decide.mpr (Iff.trans (by omega) horder.symm)
      · rw [if_neg hsecond]
        exact decide_eq_decide.mpr (Iff.trans (by omega) horder.symm)
    · rw [if_neg hminute]
      exact decide_eq_decide.mpr (Iff.trans (by omega) horder.symm)
  · rw [if_neg hhour]
    exact decide_eq_decide.mpr (Iff.trans (by omega) horder.symm)

/-- A moment of an earlier day is earlier. -/
theorem lt_of_toDays {m n : Moment} (h : m.fields.date.toDays < n.fields.date.toDays) :
    m.micros < n.micros := by
  obtain ⟨_, hh, hm, hs, hu⟩ := m.fields_ranges
  have hcount := m.micros_fields
  have hcount' := n.micros_fields
  unfold Fields.micros microsPerSecond at hcount hcount'
  omega

/-- A part of the date that differs decides between two moments, if it decides between the days. -/
theorem le_iff_of_part {m n : Moment} {a b : Nat} (hne : a ≠ b)
    (hlt : a < b → m.fields.date.toDays < n.fields.date.toDays)
    (hgt : b < a → n.fields.date.toDays < m.fields.date.toDays) : a ≤ b ↔ m ≤ n := by
  rcases Nat.lt_or_gt_of_ne hne with h | h
  · have hmn : m.micros < n.micros := lt_of_toDays (hlt h)
    exact iff_of_true (Nat.le_of_lt h) (Nat.le_of_lt hmn)
  · have hnm : n.micros < m.micros := lt_of_toDays (hgt h)
    exact iff_of_false (Nat.not_le_of_lt h) (Nat.not_le_of_lt hnm)

/-- **The order of the texts in a column is the order of the moments.** -/
theorem columnText_le_iff {m n : Moment} :
    Text.le m.columnText n.columnText = true ↔ m ≤ n := by
  obtain ⟨hdate, _⟩ := m.fields_ranges
  obtain ⟨hdate', _⟩ := n.fields_ranges
  obtain ⟨_, hyear, _, hmonth, _, hday⟩ := Reading.valid_iff.mp hdate
  obtain ⟨_, hyear', _, hmonth', _, hday'⟩ := Reading.valid_iff.mp hdate'
  have h31 := Reading.daysInMonth_le m.fields.date.year m.fields.date.month
  have h31' := Reading.daysInMonth_le n.fields.date.year n.fields.date.month
  unfold columnText Reading.dateText
  simp only [List.append_assoc]
  rw [Text.le_numeral (by decide) (by omega) (by omega), Text.le_common,
    Text.le_numeral (by decide) (by omega) (by omega), Text.le_common,
    Text.le_numeral (by decide) (by omega) (by omega), Text.le_common]
  -- year, month, day and clock each decide where all before them agree
  by_cases hy : m.fields.date.year = n.fields.date.year
  · rw [if_pos hy]
    by_cases hm : m.fields.date.month = n.fields.date.month
    · rw [if_pos hm]
      by_cases hd : m.fields.date.day = n.fields.date.day
      · have hsame : m.fields.date.toDays = n.fields.date.toDays := by
          rw [Date.toDays_eq, Date.toDays_eq, hy, hm, hd]
        rw [if_pos hd, columnClock_le hsame, decide_eq_true_iff]
      · rw [if_neg hd, decide_eq_true_iff]
        exact le_iff_of_part hd (Date.toDays_lt_of_day hdate hy hm)
          (Date.toDays_lt_of_day hdate' hy.symm hm.symm)
    · rw [if_neg hm, decide_eq_true_iff]
      exact le_iff_of_part hm (Date.toDays_lt_of_month hdate hdate' hy)
        (Date.toDays_lt_of_month hdate' hdate hy.symm)
  · rw [if_neg hy, decide_eq_true_iff]
    exact le_iff_of_part hy (Date.toDays_lt_of_year hdate) (Date.toDays_lt_of_year hdate')

end Moment

end SealedDrop
