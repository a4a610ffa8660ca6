/-
  SealedDrop.Proofs.Store.Purge
  ─────────────────────────────
  **A PURGE DROPS WHAT READS SHOW AS EXPIRED.**

  Expiry is decided twice.  A read loads a row, takes its times back from their
  columns and compares two moments.  A purge never loads anything: the database
  compares the text of the deadline with the text of the time of the purge.
  Both must draw the line at the same microsecond.

      Record        — a row as the database keeps it, its times being texts
      Record.shown  — what a read makes of it at a moment
      Record.isGone — the condition of a purge

  The two meet in `Row.isGone`: the order of the texts is that of the moments
  (`columnText_le_iff`), and a record is loaded as the row that it keeps
  (`load?_record`).

  Main results:
    • `shown_record` — a record is shown as the view of its row,
    • `isGone_record` — the condition on texts picks the rows that are expired,
    • `purge_agrees_with_reads` — what a purge drops, counts and keeps,
    • `purge_fails_beyond_calendar` — a clock that UTC cannot show purges nothing.
-/
import SealedDrop.Proofs.Calendar.Column
import SealedDrop.Proofs.Store.Finality

namespace SealedDrop.Store

/-! ## §1. Rows in the database -/

/-- A row as the database keeps it. -/
structure Record where
  id : Text
  owner : Text
  data : Option Text
  /-- The text of the time of creation, on a UTC clock. -/
  createdAt : Text
  /-- The text of the deadline, on a UTC clock. -/
  expiresAt : Text
  singleUse : Bool
  deriving DecidableEq, Repr

/-- What the database keeps of a row. -/
def Row.record (r : Row) : Record :=
  ⟨r.header.id, r.header.owner, r.data, r.header.createdAt.columnText,
    r.header.expiresAt.columnText, r.header.singleUse⟩

namespace Record

/-- A record as it is loaded. The columns say nothing about a clock. -/
def load? (c : Record) : Option Snapshot := do
  let created ← Moment.ofColumn? c.createdAt
  let expires ← Moment.ofColumn? c.expiresAt
  return ⟨c.id, c.owner, c.data, .naive created, .naive expires, c.singleUse⟩

/-- What a record is shown as at a moment. -/
def shown (c : Record) (m : Moment) : Option View :=
  c.load?.bind fun s => (s.project (.utc m)).toOption

/-- Whether a record is shown, and shown as expired. -/
def isShownExpired (m : Moment) (c : Record) : Bool := (c.shown m).any View.isExpired

/-- The condition of a purge: there is no envelope, or the text of the deadline stands before the
text of the time of the purge. -/
def isGone (bound : Text) (c : Record) : Bool := c.data.isNone || !Text.le bound c.expiresAt

end Record

theorem load?_record (r : Row) :
    r.record.load? = some ⟨r.header.id, r.header.owner, r.data, .naive r.header.createdAt,
      .naive r.header.expiresAt, r.header.singleUse⟩ := by
  unfold Record.load? Row.record
  simp only [Moment.ofColumn?_columnText, bind, Option.bind]
  rfl

/-- A time without an offset counts as UTC, so what was loaded is the row again. -/
theorem toRow_loaded (r : Row) :
    Snapshot.toRow ⟨r.header.id, r.header.owner, r.data, .naive r.header.createdAt,
      .naive r.header.expiresAt, r.header.singleUse⟩ = .ok r := rfl

/-- **A record is shown as the view of its row.** -/
theorem shown_record (r : Row) (m : Moment) : r.record.shown m = some (r.view m) := by
  have hnow : (Stamp.utc m).instant = m.micros := by
    unfold Stamp.instant Stamp.utc
    rw [Option.getD_some, Int.zero_mul, Int.sub_zero]
  unfold Record.shown
  rw [load?_record, Option.bind_some]
  unfold Snapshot.project Row.view
  rw [toRow_loaded, hnow]
  dsimp only
  rw [if_neg (show ¬ (Stamp.utc m).offset.isNone = true by simp [Stamp.utc])]
  cases r.data with
  | none => rfl
  | some d =>
    dsimp only
    -- the columns hold the deadline as text, which `load?_record` has read back
    by_cases hdue : r.header.expiresAt < m
    · have hmicros : (r.header.expiresAt.micros : Int) < m.micros := Int.ofNat_lt.mpr hdue
      rw [if_pos hdue, if_pos hmicros]
      rfl
    · have hmicros : ¬ (r.header.expiresAt.micros : Int) < m.micros := fun h =>
        hdue (Int.ofNat_lt.mp h)
      rw [if_neg hdue, if_neg hmicros]
      rfl

/-- Reads show a row as expired exactly when it is. -/
theorem isShownExpired_record (r : Row) (m : Moment) :
    r.record.isShownExpired m = r.isGone m := by
  unfold Record.isShownExpired
  rw [shown_record, Option.any_some]
  cases hgone : r.isGone m with
  | true =>
    rw [Row.view_of_isGone hgone]
    rfl
  | false =>
    obtain ⟨d, _, hv⟩ := Row.view_of_not_isGone hgone
    rw [hv]
    rfl

/-- **The condition on texts picks the rows that are expired.** -/
theorem isGone_record (r : Row) (m : Moment) : r.record.isGone m.columnText = r.isGone m := by
  have hdue : (!Text.le m.columnText r.header.expiresAt.columnText)
      = decide (r.header.expiresAt < m) := by
    rw [Bool.eq_iff_iff, Bool.not_eq_true', Bool.eq_false_iff, ne_eq,
      Moment.columnText_le_iff, decide_eq_true_iff]
    exact Nat.not_le
  unfold Record.isGone Row.record Row.isGone
  rw [hdue]

/-! ## §2. Purges -/

section Purges

variable {t : Table} {now : Stamp} {m : Moment}

theorem purge_of_utc (h : utc now = .ok m) :
    (purge t now).result = .ok (t.countWhere (Row.isGone m))
      ∧ (purge t now).table = t.dropWhere (Row.isGone m) := by
  rcases purge_cases t now with ⟨n, hn, hresult, htable⟩ | ⟨e, he, _⟩
  · rw [h] at hn
    injection hn with hn
    subst hn
    exact ⟨hresult, htable⟩
  · rw [h] at he
    cases he

/-- Nothing is left that one purge at this moment would drop. -/
theorem Table.countWhere_dropWhere (t : Table) (p : Row → Bool) :
    (t.dropWhere p).countWhere p = 0 :=
  Table.countWhere_eq_zero.mpr fun _ hr => (Table.mem_dropWhere.mp hr).2

/-- What is expired at a moment is expired later, so the later purge drops it anyway. -/
theorem Table.dropWhere_dropWhere {m n : Moment} (h : m ≤ n) (t : Table) :
    (t.dropWhere (Row.isGone m)).dropWhere (Row.isGone n) = t.dropWhere (Row.isGone n) := by
  unfold Table.dropWhere
  rw [List.filter_filter]
  apply List.filter_congr
  intro r _
  cases hm : r.isGone m with
  | true =>
    rw [Row.isGone_mono h hm]
    rfl
  | false => exact Bool.and_true _

theorem filter_record (t : Table) (p : Record → Bool) :
    (t.map Row.record).filter p = (t.filter fun r => p r.record).map Row.record := by
  rw [List.filter_map]
  rfl

/-- A read of a row that is not expired at the time gets its envelope. -/
theorem get_of_live (ht : t.WellKept) (hnow : utc now = .ok m) {r : Row} (hr : r ∈ t) {d : Text}
    (hv : r.view m = .live r.header d) : (get t r.header.id now).result = .ok (.live r.header d) := by
  have hholds : t.Holds r := ⟨hr, fun x hx hid => ht.keyed.eq hx hr hid⟩
  rw [get_of_holds hholds (ht.legible r hr) hnow, hv]

theorem Table.WellKept.dropWhere (ht : t.WellKept) (p : Row → Bool) : (t.dropWhere p).WellKept where
  keyed := ht.keyed.dropWhere p
  legible := fun r hr => ht.legible r (Table.mem_dropWhere.mp hr).1

end Purges

/-- What a purge of a table comes to, at a time that is a moment on a UTC clock. -/
structure Purges (t : Table) (now : Stamp) (m : Moment) (o : Outcome Nat) : Prop where
  /-- Every row is shown as something, so what is not shown as expired is shown live. -/
  shown : ∀ r ∈ t, ∃ v, r.record.shown m = some v
  /-- The rows that are shown as expired are dropped; the others are left as they are. -/
  table : o.table = t.filter fun r => !r.record.isShownExpired m
  /-- It is told how many were dropped. -/
  count : o.result = .ok (t.countP fun r => r.record.isShownExpired m)
  /-- The database picks them by comparing texts. -/
  texts : o.table.map Row.record = (t.map Row.record).filter fun c => !c.isGone m.columnText
  /-- A row with an envelope is left at its deadline, and still served. -/
  deadline : ∀ r ∈ t, ∀ d, r.data = some d → r.header.expiresAt = m →
    r ∈ o.table
      ∧ (t.WellKept → (get o.table r.header.id now).result = .ok (.live r.header d))
  /-- There is nothing left for a second purge. -/
  again : purge o.table now = ⟨.ok 0, o.table, [.info "Purged 0 expired shared secret(s)"]⟩
  /-- A later purge makes this one superfluous. -/
  later : ∀ now' m', utc now' = .ok m' → m ≤ m' →
    (purge o.table now').table = (purge t now').table

/-- **A purge drops exactly the rows that reads show as expired at its time**, and fails without
touching anything if UTC cannot show its time. -/
theorem purge_agrees_with_reads (t : Table) (now : Stamp) :
    (∀ m, utc now = .ok m → Purges t now m (purge t now))
      ∧ ∀ e, utc now = .error e → purge t now = .fail t e := by
  constructor
  · intro m hm
    obtain ⟨hcount, htable⟩ := purge_of_utc (t := t) hm
    -- what a purge deletes is what would be shown as expired
    have hpicks : (fun r : Row => r.record.isShownExpired m) = Row.isGone m :=
      funext fun r => isShownExpired_record r m
    have hkept : (purge t now).table = t.filter fun r => !r.record.isShownExpired m := by
      rw [htable]
      unfold Table.dropWhere
      simp only [isShownExpired_record]
    refine {
      shown := ?shown
      table := hkept
      count := ?count
      texts := ?texts
      deadline := ?deadline
      again := ?again
      later := ?later }
    case shown =>
      intro r _
      exact ⟨r.view m, shown_record r m⟩
    case count =>
      rw [hcount, hpicks]
      rfl
    case texts =>
      rw [htable, filter_record]
      simp only [isGone_record]
      rfl
    case deadline =>
      intro r hr d hd hdue
      have hnotPast : ¬ r.header.expiresAt < m := by
        rw [hdue]
        exact Nat.lt_irrefl m.micros
      have hv : r.view m = .live r.header d := Row.view_eq_live_iff.mpr ⟨rfl, hd, hnotPast⟩
      have hthere : r ∈ t.dropWhere (Row.isGone m) := by
        refine Table.mem_dropWhere.mpr ⟨hr, Row.isGone_eq_false_iff.mpr ⟨?_, hnotPast⟩⟩
        rw [hd]
        exact Option.some_ne_none d
      rw [htable]
      exact ⟨hthere, fun ht => get_of_live (ht.dropWhere _) hm hthere hv⟩
    case again =>
      rw [htable]
      unfold purge
      rw [hm]
      show Outcome.mk (.ok ((t.dropWhere (Row.isGone m)).countWhere (Row.isGone m)))
        ((t.dropWhere (Row.isGone m)).dropWhere (Row.isGone m))
        [.info ("Purged " ++ Text.ofNat ((t.dropWhere (Row.isGone m)).countWhere (Row.isGone m))
          ++ " expired shared secret(s)")] = _
      rw [Table.countWhere_dropWhere, Table.dropWhere_dropWhere (Nat.le_refl m.micros)]
      rfl
    case later =>
      intro now' m' hm' hle
      rw [htable, (purge_of_utc hm').2, (purge_of_utc hm').2, Table.dropWhere_dropWhere hle]
  · intro e he
    rcases purge_cases t now with ⟨m, hm, _⟩ | ⟨e', he', hfail⟩
    · rw [he] at hm
      cases hm
    · rw [he] at he'
      injection he' with he'
      rw [he', hfail]

/-- A row at its deadline, one past it, and one whose envelope is gone. -/
def threeRows : Table :=
  [⟨briefHeader, some "c2VhbGVk"⟩,
    ⟨{ briefHeader with id := Text.hex 32 2, expiresAt := (minute 0).wall }, some "b3BlbmVk"⟩,
    ⟨{ briefHeader with id := Text.hex 32 3 }, none⟩]

/-- The first minute of the calendar, on a clock half an hour ahead of UTC. -/
def aheadMinute : Stamp := ⟨(minute 31).wall, some 1800⟩

/-- At the deadline of the first row, a purge drops the other two, and the first is still served. -/
theorem purge_agrees_with_reads_deadline :
    utc aheadMinute = .ok (minute 1).wall ∧ threeRows.WellKept
      ∧ (purge threeRows aheadMinute).result = .ok 2
      ∧ (get (purge threeRows aheadMinute).table briefHeader.id aheadMinute).result
          = .ok (.live briefHeader "c2VhbGVk")
      ∧ utc beyondCalendar = .error .outOfCalendar
      ∧ purge threeRows beyondCalendar = .fail threeRows .outOfCalendar := by
  have hclock : utc aheadMinute = .ok (minute 1).wall := by decide
  have hkept : threeRows.WellKept := ⟨by decide, by decide⟩
  have hbeyond : utc beyondCalendar = .error .outOfCalendar := by decide
  obtain ⟨hpurges, hfails⟩ := And.intro ((purge_agrees_with_reads threeRows aheadMinute).1 _ hclock)
    ((purge_agrees_with_reads threeRows beyondCalendar).2 _ hbeyond)
  have hserved := (hpurges.deadline ⟨briefHeader, some "c2VhbGVk"⟩ List.mem_cons_self "c2VhbGVk" rfl
    rfl).2 hkept
  have hcount := hpurges.count
  rw [show (threeRows.countP fun r => r.record.isShownExpired (minute 1).wall) = 2 by
    decide +kernel] at hcount
  exact ⟨hclock, hkept, hcount, hserved, hbeyond, hfails⟩

/-- **At a time that UTC cannot show nothing is purged**: a row without an envelope is shown as
expired at every moment, but it is neither dropped nor counted. -/
theorem purge_fails_beyond_calendar :
    (∀ m, (Row.record ⟨briefHeader, none⟩).isShownExpired m = true)
      ∧ ¬ ((purge [⟨briefHeader, none⟩] beyondCalendar).table = []
          ∧ (purge [⟨briefHeader, none⟩] beyondCalendar).result = .ok 1) := by
  constructor
  · intro m
    rw [isShownExpired_record]
    rfl
  · rintro ⟨htable, _⟩
    have hleft : (purge [⟨briefHeader, none⟩] beyondCalendar).table = [⟨briefHeader, none⟩] := by
      decide
    rw [hleft] at htable
    cases htable

end SealedDrop.Store
