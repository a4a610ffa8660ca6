/-
  SealedDrop.Proofs.Calendar.Reading
  ──────────────────────────────────
  **A TIME THAT IS WRITTEN IN A DOCUMENT IS READ BACK.**

  `dateTime?` takes apart from the front what `Stamp.wireText` puts together, so
  every part gets one lemma of the same shape: what is written for the part,
  with ANY text behind it, is read as the part, and that text is left.  Two
  parts end where the next one starts, the fraction and the clock reading; for
  them the text behind must not go on with a digit or a mark of their own
  (`Closed`).

  Offsets are written to the minute, so only whole minutes come back.

  Main results:
    • `twoDigits?_append`, `fourDigits?_append` — numerals of a fixed width,
    • `date_append`, `clock?_append`, `offset?_offset` — the three parts of a time,
    • `ofText_wireText` — a stamp in a document is read back.
-/
import SealedDrop.Calendar.Reading
import SealedDrop.Proofs.Calendar.Date
import SealedDrop.Proofs.Text.Digits

namespace SealedDrop.Reading

open Text (digits digitSign)

/-! ## §1. Numerals -/

/-- A digit is read off its sign. -/
theorem digit?_digitSign {d : Nat} (hd : d < 10) (t : Text) :
    digit? (digitSign d :: t) = some (d, t) := by
  show (digitSign d).digit?.map (fun d => (d, t)) = some (d, t)
  rw [Text.digit?_digitSign hd]
  rfl

/-- Two digits are read back, and the rest is left. -/
theorem twoDigits?_append {n : Nat} (hn : n < 100) (t : Text) :
    twoDigits? (Text.ofNatPadded 2 n ++ t) = some (n, t) := by
  rw [Text.ofNatPadded_eq (by decide) hn]
  show twoDigits? (digitSign (n / 10 % 10) :: digitSign (n % 10) :: t) = some (n, t)
  have htens : n / 10 % 10 = n / 10 := Nat.mod_eq_of_lt (by omega)
  have hsum : n / 10 * 10 + n % 10 = n := by omega
  unfold twoDigits?
  simp only [digit?_digitSign (Nat.mod_lt _ (show 0 < 10 by decide)), bind, Option.bind]
  show some (n / 10 % 10 * 10 + n % 10, t) = some (n, t)
  rw [htens, hsum]

/-- Four digits are read back, and the rest is left. -/
theorem fourDigits?_append {n : Nat} (hn : n < 10000) (t : Text) :
    fourDigits? (Text.ofNatPadded 4 n ++ t) = some (n, t) := by
  have hhigh : n / 100 < 100 := by omega
  have hlow : n % 100 < 100 := Nat.mod_lt n (by decide)
  have hsum : n / 100 * 100 + n % 100 = n := by omega
  -- four digits are two and two
  have hsplit : Text.ofNatPadded 4 n = Text.ofNatPadded 2 (n / 100) ++ Text.ofNatPadded 2 (n % 100) := by
    rw [Text.ofNatPadded_eq (by decide) hn, Text.ofNatPadded_eq (by decide) hhigh,
      Text.ofNatPadded_eq (by decide) hlow]
    show [digitSign (n / 10 / 10 / 10 % 10), digitSign (n / 10 / 10 % 10), digitSign (n / 10 % 10),
        digitSign (n % 10)]
      = [digitSign (n / 100 / 10 % 10), digitSign (n / 100 % 10), digitSign (n % 100 / 10 % 10),
        digitSign (n % 100 % 10)]
    rw [show n / 10 / 10 = n / 100 by omega, show n / 10 % 10 = n % 100 / 10 % 10 by omega,
      show n % 10 = n % 100 % 10 by omega]
  unfold fourDigits?
  rw [hsplit, List.append_assoc, twoDigits?_append hhigh]
  simp only [bind, Option.bind]
  rw [twoDigits?_append hlow]
  show some (n / 100 * 100 + n % 100, t) = some (n, t)
  rw [hsum]

/-- A run of digits has the value of the number that it was written for. -/
theorem digitsValue_digits {width n : Nat} (hn : n < 10 ^ width) :
    Text.digitsValue ((digits 10 width n).filterMap CodePoint.digit?) = n := by
  induction width generalizing n with
  | zero =>
    rw [Nat.pow_zero] at hn
    have hzero : n = 0 := by omega
    rw [hzero]
    rfl
  | succ width ih =>
    have hdiv : n / 10 < 10 ^ width := by
      rw [Nat.pow_succ] at hn
      omega
    have hsum : n / 10 * 10 + n % 10 = n := by omega
    -- the last digit is read last, so the value of the others is ten times heavier
    rw [digits, List.filterMap_append, Text.digitsValue, List.foldl_append]
    show List.foldl _ (Text.digitsValue ((digits 10 width (n / 10)).filterMap CodePoint.digit?)) _ = n
    rw [ih hdiv, List.filterMap_cons, Text.digit?_digitSign (Nat.mod_lt n (by decide))]
    exact hsum

/-- Every sign of a numeral counts as a digit. -/
theorem length_filterMap_digits (width n : Nat) :
    ((digits 10 width n).filterMap CodePoint.digit?).length = width := by
  induction width generalizing n with
  | zero => rfl
  | succ width ih =>
    rw [digits, List.filterMap_append, List.length_append, ih, List.filterMap_cons,
      Text.digit?_digitSign (Nat.mod_lt n (by decide))]
    rfl

/-! ## §2. Dates -/

/-- A text has at most as many signs as octets. -/
theorem length_le_octetCount (t : Text) : t.length ≤ octetCount t := by
  unfold octetCount
  induction t with
  | nil => exact Nat.le_refl 0
  | cons c t ih =>
    -- every sign takes an octet at least
    have hpos : 1 ≤ (Utf8.encodePoint c).length := by
      unfold Utf8.encodePoint
      dsimp only
      split
      · exact Nat.le_refl 1
      · split
        · show 1 ≤ 2
          omega
        · split
          · show 1 ≤ 3
            omega
          · show 1 ≤ 4
            omega
    rw [List.flatMap_cons, List.length_append, List.length_cons]
    omega

/-- The valid dates, field by field. -/
theorem valid_iff {d : Date} : d.valid = true ↔
    1 ≤ d.year ∧ d.year ≤ 9999 ∧ 1 ≤ d.month ∧ d.month ≤ 12 ∧ 1 ≤ d.day
      ∧ d.day ≤ Date.daysInMonth d.year d.month := by
  unfold Date.valid
  simp only [Bool.and_eq_true, decide_eq_true_eq, and_assoc]

theorem daysInMonth_le (year month : Nat) : Date.daysInMonth year month ≤ 31 := by
  unfold Date.daysInMonth
  split
  · exact Nat.zero_le 31
  · have hlength : ∀ leap, ∀ n ∈ Date.monthLengths leap, n ≤ 31 := by decide
    rw [List.getD_eq_getElem?_getD]
    cases hm : (Date.monthLengths (Date.isLeap year))[month - 1]? with
    | none => exact Nat.zero_le 31
    | some n => exact hlength _ n (List.mem_of_getElem? hm)

/-- The text of a date. -/
def dateText (d : Date) : Text :=
  Text.ofNatPadded 4 d.year ++ Text.ofString "-" ++ Text.ofNatPadded 2 d.month
    ++ Text.ofString "-" ++ Text.ofNatPadded 2 d.day

/-- A number that fits has the width it is padded to. -/
theorem length_ofNatPadded {width n : Nat} (hw : 0 < width) (hn : n < 10 ^ width) :
    (Text.ofNatPadded width n).length = width := by
  rw [Text.ofNatPadded_eq hw hn, Text.length_digits]

/-- **A date of the calendar is read back.** -/
theorem date_append {d : Date} (hd : d.valid = true) (t : Text) :
    date (dateText d ++ t) = .ok (d, t) := by
  obtain ⟨_, hyear, hm, hmonth, hday, hlast⟩ := valid_iff.mp hd
  have h31 := daysInMonth_le d.year d.month
  -- ten signs are at least ten octets
  have hlong : ¬ octetCount (dateText d ++ t) < 10 := by
    have hle := length_le_octetCount (dateText d ++ t)
    have hlength : (dateText d).length = 10 := by
      unfold dateText
      simp only [List.length_append]
      rw [length_ofNatPadded (by decide) (by omega), length_ofNatPadded (by decide) (by omega),
        length_ofNatPadded (by decide) (by omega)]
      rfl
    rw [List.length_append] at hle
    omega
  unfold date
  rw [if_neg hlong]
  unfold dateText
  simp only [List.append_assoc]
  rw [fourDigits?_append (by omega)]
  dsimp only
  rw [show mark? '-' (Text.ofString "-" ++ (Text.ofNatPadded 2 d.month
      ++ (Text.ofString "-" ++ (Text.ofNatPadded 2 d.day ++ t))))
    = some (Text.ofNatPadded 2 d.month ++ (Text.ofString "-" ++ (Text.ofNatPadded 2 d.day ++ t)))
    from rfl]
  dsimp only
  rw [twoDigits?_append (by omega)]
  dsimp only
  rw [show mark? '-' (Text.ofString "-" ++ (Text.ofNatPadded 2 d.day ++ t))
    = some (Text.ofNatPadded 2 d.day ++ t) from rfl]
  dsimp only
  rw [twoDigits?_append (by omega)]
  dsimp only
  rw [if_neg (by omega), if_neg (by omega)]

/-! ## §3. Clock readings -/

/-- A text that does not go on with a digit, or with a mark that a clock reading could go on with. -/
def Closed (t : Text) : Prop :=
  ∀ c r, t = c :: r → c.isDigit = false ∧ c ≠ CodePoint.ofChar ':' ∧ c ≠ CodePoint.ofChar '.'
    ∧ c ≠ CodePoint.ofChar ','

/-- The text of a fraction of a second; nothing for none. -/
def fractionText (micro : Nat) : Text :=
  if micro = 0 then [] else Text.ofString "." ++ Text.ofNatPadded 6 micro

/-- The digits of a numeral end where something else begins. -/
theorem takeWhile_digits (width n : Nat) {t : Text} (ht : Closed t) :
    (digits 10 width n ++ t).takeWhile CodePoint.isDigit = digits 10 width n
      ∧ (digits 10 width n ++ t).dropWhile CodePoint.isDigit = t := by
  have hall : ∀ c ∈ digits 10 width n, c.isDigit = true := fun c hc => Text.isDigit_of_mem_digits hc
  rw [List.takeWhile_append_of_pos hall, List.dropWhile_append_of_pos hall]
  cases t with
  | nil => exact ⟨List.append_nil _, rfl⟩
  | cons c r =>
    obtain ⟨hc, _⟩ := ht c r rfl
    rw [List.takeWhile_cons, List.dropWhile_cons, hc]
    exact ⟨List.append_nil _, rfl⟩

/-- Six places of a second are read back. -/
theorem fraction?_point {micro : Nat} (hm : micro < 1000000) {t : Text} (ht : Closed t) :
    fraction? (Text.ofString "." ++ Text.ofNatPadded 6 micro ++ t) = some (micro, t) := by
  rw [Text.ofNatPadded_eq (by decide) hm, List.append_assoc,
    show Text.ofString "." = [CodePoint.ofChar '.'] from rfl, List.singleton_append]
  unfold fraction?
  dsimp only
  obtain ⟨htake, hdrop⟩ := takeWhile_digits 6 micro ht
  have hlength := length_filterMap_digits 6 micro
  have hne : ((digits 10 6 micro).filterMap CodePoint.digit?).isEmpty = false := by
    rw [List.isEmpty_eq_false_iff_exists_mem]
    exact List.exists_mem_of_length_pos (by omega)
  rw [if_pos (.inl rfl), htake, hdrop]
  rw [if_neg (by rw [hne]; simp), fractionMicros, List.take_append_of_le_length (by omega),
    List.take_of_length_le (by omega), digitsValue_digits hm]

/-- **The fraction of a second is read back**, whatever its trailing zeros are. -/
theorem fraction?_append {micro : Nat} (hm : micro < 1000000) {t : Text} (ht : Closed t) :
    fraction? (fractionText micro ++ t) = some (micro, t) := by
  unfold fractionText
  split
  next hzero =>
    rw [List.nil_append, hzero]
    unfold fraction?
    split
    next c r =>
      obtain ⟨_, _, hpoint, hcomma⟩ := ht c r rfl
      rw [if_neg]
      rintro (h | h)
      · exact hpoint h
      · exact hcomma h
    next => rfl
  next => exact fraction?_point hm ht

/-- The text of a clock reading, with what stands for the fraction of a second. -/
def clockTextWith (c : Clock) (fraction : Text) : Text :=
  Text.ofNatPadded 2 c.hour ++ Text.ofString ":" ++ Text.ofNatPadded 2 c.minute
    ++ Text.ofString ":" ++ Text.ofNatPadded 2 c.second ++ fraction

/-- The text of a clock reading. -/
def clockText (c : Clock) : Text :=
  Text.ofNatPadded 2 c.hour ++ Text.ofString ":" ++ Text.ofNatPadded 2 c.minute
    ++ Text.ofString ":" ++ Text.ofNatPadded 2 c.second ++ fractionText c.micro

/-- **A clock reading is read back**, if its fraction is. -/
theorem clock?_of_fraction {c : Clock} (hh : c.hour < 24) (hm : c.minute < 60) (hs : c.second < 60)
    {fraction t : Text} (hf : fraction? (fraction ++ t) = some (c.micro, t)) :
    clock? (clockTextWith c fraction ++ t) = some (c, t) := by
  -- the seconds with their fraction are read by a function of their own
  have hseconds : seconds? (Text.ofString ":" ++ (Text.ofNatPadded 2 c.second
      ++ (fraction ++ t))) = some (c.second, c.micro, t) := by
    unfold seconds?
    rw [show mark? ':' (Text.ofString ":" ++ (Text.ofNatPadded 2 c.second ++ (fraction ++ t)))
      = some (Text.ofNatPadded 2 c.second ++ (fraction ++ t)) from rfl]
    simp only [bind, Option.bind]
    rw [twoDigits?_append (by omega)]
    dsimp only
    rw [if_neg (by omega), hf]
    rfl
  unfold clock? clockTextWith
  simp only [List.append_assoc]
  rw [twoDigits?_append (by omega)]
  simp only [bind, Option.bind]
  rw [show mark? ':' (Text.ofString ":" ++ (Text.ofNatPadded 2 c.minute ++ (Text.ofString ":"
      ++ (Text.ofNatPadded 2 c.second ++ (fraction ++ t)))))
    = some (Text.ofNatPadded 2 c.minute ++ (Text.ofString ":"
      ++ (Text.ofNatPadded 2 c.second ++ (fraction ++ t)))) from rfl]
  dsimp only
  rw [twoDigits?_append (by omega)]
  dsimp only
  rw [if_neg (by omega), hseconds]
  rfl

/-- A clock reading is read back, if nothing behind it could belong to it. -/
theorem clock?_append {c : Clock} (hh : c.hour < 24) (hm : c.minute < 60) (hs : c.second < 60)
    (hu : c.micro < 1000000) {t : Text} (ht : Closed t) :
    clock? (clockText c ++ t) = some (c, t) :=
  clock?_of_fraction hh hm hs (fraction?_append hu ht)

/-! ## §4. Offsets -/

/-- The text of an offset in a document. -/
def offsetText (offset : Option Int) : Text :=
  match offset with
  | none => []
  | some o =>
    if o = 0 then Text.ofString "Z"
    else
      let n := o.natAbs
      (if o < 0 then Text.ofString "-" else Text.ofString "+")
        ++ Text.ofNatPadded 2 (n / 3600) ++ Text.ofString ":" ++ Text.ofNatPadded 2 (n / 60 % 60)

/-- An offset of whole minutes, of less than a day. -/
def WholeMinutes (offset : Option Int) : Prop :=
  ∀ o, offset = some o → o % 60 = 0 ∧ o.natAbs < 86400

/-- An offset of whole minutes is read back with its sign. -/
theorem offset?_signed {sign : CodePoint} {factor : Int} {n : Nat}
    (hsign : sign = CodePoint.ofChar '+' ∧ factor = 1 ∨ sign = CodePoint.ofChar '-' ∧ factor = -1)
    (hn : n < 86400) (hwhole : n % 60 = 0) :
    offset? (sign :: (Text.ofNatPadded 2 (n / 3600) ++ (Text.ofString ":"
      ++ Text.ofNatPadded 2 (n / 60 % 60)))) = some (some (factor * n)) := by
  have hread : sign? (sign :: (Text.ofNatPadded 2 (n / 3600) ++ (Text.ofString ":"
      ++ Text.ofNatPadded 2 (n / 60 % 60))))
        = some (factor, Text.ofNatPadded 2 (n / 3600) ++ (Text.ofString ":"
          ++ Text.ofNatPadded 2 (n / 60 % 60)))
      ∧ ¬ (sign = CodePoint.ofChar 'Z' ∨ sign = CodePoint.ofChar 'z') := by
    rcases hsign with ⟨rfl, rfl⟩ | ⟨rfl, rfl⟩
    · exact ⟨rfl, by decide⟩
    · exact ⟨rfl, by decide⟩
  have hminutes := twoDigits?_append (n := n / 60 % 60) (by omega) []
  rw [List.append_nil] at hminutes
  -- no seconds are lost, since the offset has none
  have hsum : n / 3600 * 3600 + n / 60 % 60 * 60 = n := by omega
  unfold offset?
  dsimp only
  rw [if_neg hread.2, hread.1]
  simp only [bind, Option.bind]
  rw [twoDigits?_append (by omega)]
  dsimp only
  rw [show mark? ':' (Text.ofString ":" ++ Text.ofNatPadded 2 (n / 60 % 60))
    = some (Text.ofNatPadded 2 (n / 60 % 60)) from rfl]
  rw [Option.getD_some, hminutes]
  dsimp only
  rw [hsum, if_neg]
  · rfl
  · simp only [List.isEmpty_nil, Bool.not_true, Bool.false_eq_true, or_false]
    omega

/-- **An offset of whole minutes is read back.** -/
theorem offset?_offset {offset : Option Int} (h : WholeMinutes offset) :
    offset? (offsetText offset) = some offset := by
  cases offset with
  | none => rfl
  | some o =>
    obtain ⟨hwhole, hday⟩ := h o rfl
    unfold offsetText
    dsimp only
    split
    next hzero =>
      rw [hzero]
      rfl
    next hzero =>
      simp only [List.append_assoc]
      split
      -- the sign and the absolute value are written apart
      next hneg =>
        refine (offset?_signed (.inr ⟨rfl, rfl⟩) hday (by omega)).trans ?_
        rw [show (-1 : Int) * o.natAbs = o by omega]
      next hpos =>
        refine (offset?_signed (.inl ⟨rfl, rfl⟩) hday (by omega)).trans ?_
        rw [show (1 : Int) * o.natAbs = o by omega]

/-- No digit follows where the offset begins, so the fraction ends there. -/
theorem closed_offsetText (offset : Option Int) : Closed (offsetText offset) := by
  intro c r h
  -- whatever the offset, its text starts with a letter or a sign
  have hstart : c = CodePoint.ofChar 'Z' ∨ c = CodePoint.ofChar '-' ∨ c = CodePoint.ofChar '+' := by
    cases offset with
    | none => cases h
    | some o =>
      unfold offsetText at h
      dsimp only at h
      split at h
      · injection h with h
        exact .inl h.symm
      · split at h
        · injection h with h
          exact .inr (.inl h.symm)
        · injection h with h
          exact .inr (.inr h.symm)
  rcases hstart with rfl | rfl | rfl
  · decide
  · decide
  · decide

/-! ## §5. Stamps -/

/-- A moment is written as its date and its clock reading. -/
theorem moment_text (m : Moment) :
    m.text = dateText m.fields.date ++ (Text.ofString "T" ++ clockText ⟨m.fields.hour,
      m.fields.minute, m.fields.second, m.fields.micro⟩) := by
  unfold Moment.text dateText clockText fractionText
  dsimp only
  split
  next => simp only [List.append_assoc, List.append_nil]
  next => simp only [List.append_assoc]

theorem wireText_eq (s : Stamp) : s.wireText = s.wall.text ++ offsetText s.offset := by
  unfold Stamp.wireText offsetText
  cases s.offset with
  | none => rfl
  | some o => rfl

/-- **A time is read back from the text it is sent as**, if its offset has no seconds. -/
theorem dateTime?_wireText {s : Stamp} (h : WholeMinutes s.offset) :
    dateTime? s.wireText = some (.ok s) := by
  obtain ⟨hdate, hhour, hminute, hsecond, hmicro⟩ := s.wall.fields_ranges
  rw [wireText_eq, moment_text, List.append_assoc, List.append_assoc]
  unfold dateTime?
  rw [date_append hdate]
  simp only [Except.toOption, bind, Option.bind]
  rw [show Text.ofString "T" = [CodePoint.ofChar 'T'] from rfl, List.singleton_append]
  dsimp only
  rw [if_pos (.inl rfl), clock?_append hhour hminute hsecond hmicro (closed_offsetText s.offset)]
  dsimp only
  rw [offset?_offset h]
  show some (assemble s.wall.fields.date _ s.offset) = some (.ok s)
  unfold assemble
  rw [show Moment.ofFields? ⟨s.wall.fields.date, s.wall.fields.hour, s.wall.fields.minute,
    s.wall.fields.second, s.wall.fields.micro⟩ = some s.wall from Moment.ofFields?_fields s.wall]

/-- A stamp is written in ASCII. -/
theorem isAscii_wireText {s : Stamp} (h : WholeMinutes s.offset) : s.wireText.isAscii = true := by
  obtain ⟨hdate, hhour, hminute, hsecond, hmicro⟩ := s.wall.fields_ranges
  obtain ⟨_, hyear, _, hmonth, _, hday⟩ := valid_iff.mp hdate
  have h31 := daysInMonth_le s.wall.fields.date.year s.wall.fields.date.month
  -- the two parts that may be left out come first, the rest are padded numbers
  have hfraction : (fractionText s.wall.fields.micro).isAscii = true := by
    unfold fractionText
    split
    · rfl
    · exact Text.isAscii_append.mpr ⟨by decide, Text.isAscii_ofNatPadded (by decide) (by omega)⟩
  have hoffset : (offsetText s.offset).isAscii = true := by
    cases ho : s.offset with
    | none => rfl
    | some o =>
      obtain ⟨_, hlt⟩ := h o ho
      unfold offsetText
      dsimp only
      split
      · decide
      · have hsign : Text.isAscii (if o < 0 then Text.ofString "-" else Text.ofString "+") = true := by
          split
          · decide
          · decide
        simp only [Text.isAscii_append]
        exact ⟨⟨⟨hsign, Text.isAscii_ofNatPadded (by decide) (by omega)⟩, by decide⟩,
          Text.isAscii_ofNatPadded (by decide) (by omega)⟩
  rw [wireText_eq, moment_text]
  unfold dateText clockText
  simp only [Text.isAscii_append]
  refine ⟨⟨⟨⟨⟨⟨?_, by decide⟩, ?_⟩, by decide⟩, ?_⟩, by decide, ⟨⟨⟨⟨?_, by decide⟩, ?_⟩, by decide⟩, ?_⟩,
    hfraction⟩, hoffset⟩
  all_goals exact Text.isAscii_ofNatPadded (by decide) (by omega)

/-- **A stamp in a document is read back**, if its offset is one of whole minutes. -/
theorem ofText_wireText {s : Stamp} (h : WholeMinutes s.offset) : ofText s.wireText = .ok s := by
  unfold ofText
  rw [dateTime?_wireText h]

end SealedDrop.Reading
