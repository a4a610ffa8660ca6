/-
  SealedDrop.Proofs.Store.Interleaving
  ────────────────────────────────────
  **READS THAT OVERLAP.**

  A read is two atomic steps, and anything may happen in between: other reads,
  creations, listings, expirations, purges.  A `World` is a table together with
  any number of readers, each of which has not started, holds the row it
  loaded, or has its answer.  An `Event` is one atomic step of anybody, and a
  run is a list of events.

      start — an empty table, nobody has started
      step  — one event
      run   — events in order

  What one event can do is said once, for the rows (`World.step_follows`) and
  for the readers (`World.step_reader`); invariants of runs are derived from
  these two.

  Main results:
    • `run_load_finish` — the two steps of a read in a row are `get`,
    • `World.step_follows` — rows are cleared, dropped, or new under a fresh id,
    • `World.step_reader` — a reader stays, has just loaded, or has just finished,
    • `World.sound_run` — whatever a world speaks of has an id that was issued.
-/
import Mathlib.Logic.Function.Basic
import SealedDrop.Proofs.Store.Operation

namespace SealedDrop.Store

/-! ## §1. Worlds and events -/

/-- How far a reader has come. -/
inductive Reader where
  /-- It has not started. -/
  | idle
  /-- Its clock shows no moment of the calendar: it fails before it loads anything. -/
  | clockless (id : Text) (now : Stamp)
  /-- It has loaded the row of an id and will decide by its own clock. -/
  | holding (id : Text) (row : Row) (now : Moment)
  /-- It has its answer. -/
  | answered (id : Text) (now : Moment) (result : Except Error View)

/-- A table and the readers at work on it. -/
structure World where
  /-- The table. -/
  table : Table
  /-- How many ids have been used up. -/
  issued : Nat
  /-- The readers. -/
  readers : Nat → Reader

/-- An atomic step of somebody. -/
inductive Event where
  /-- A creation. -/
  | create (q : Request) (now : Stamp)
  /-- A listing. -/
  | list (owner : Text) (now : Stamp)
  /-- An expiration. -/
  | expire (id : Text) (owner : Option Text)
  /-- A purge. -/
  | purge (now : Stamp)
  /-- The first step of a reader, with the reader's own clock. -/
  | load (k : Nat) (id : Text) (now : Stamp)
  /-- The second step of a reader. -/
  | finish (k : Nat)

/-- The id that a reader has asked for, if it has started. -/
def Reader.asked? : Reader → Option Text
  | .idle => none
  | .clockless id _ | .holding id _ _ | .answered id _ _ => some id

/-- The answer of a reader, if it has one. -/
def Reader.answer? : Reader → Option (Except Error View)
  | .clockless _ _ => some (.error .outOfCalendar)
  | .answered _ _ result => some result
  | _ => none

/-- What a reader is after its first step on a table. -/
def Reader.load (t : Table) (id : Text) (now : Stamp) : Reader :=
  match utc now with
  | .error _ => .clockless id now
  | .ok m =>
    match Store.load t id with
    | .error e => .answered id m (.error e)
    | .ok r => .holding id r m

namespace World

/-- An empty table, and nobody has started. -/
def start : World := ⟨[], 0, fun _ => .idle⟩

/-- The world with one reader set. -/
def setReader (w : World) (k : Nat) (r : Reader) : World :=
  { w with readers := Function.update w.readers k r }

/-- One atomic step. A reader loads only once, and finishes only what it holds. -/
def step (limit : Option Int) (freshId : Nat → Text) (w : World) : Event → World
  | .create q now =>
    let (o, used) := create limit w.table (freshId w.issued) q now
    { w with table := o.table, issued := if used then w.issued + 1 else w.issued }
  | .list owner now => { w with table := (list w.table owner now).table }
  | .expire id owner => { w with table := (expire w.table id owner).table }
  | .purge now => { w with table := (purge w.table now).table }
  | .load k id now =>
    match w.readers k with
    | .idle => w.setReader k (Reader.load w.table id now)
    | _ => w
  | .finish k =>
    match w.readers k with
    | .holding id row now =>
      let (v, t, _) := Store.finish w.table id row now
      { w with table := t }.setReader k (.answered id now (.ok v))
    | _ => w

/-- Events in order. -/
def run (limit : Option Int) (freshId : Nat → Text) (w : World) (es : List Event) : World :=
  es.foldl (step limit freshId) w

/-- The envelope of an id stands in the table. -/
def Present (w : World) (id : Text) : Prop := ∃ r ∈ w.table, r.header.id = id ∧ r.data ≠ none

end World

/-- The ids issued so far are distinct. -/
def DistinctIds (freshId : Nat → Text) (n : Nat) : Prop :=
  ∀ i < n, ∀ j < n, freshId i = freshId j → i = j

instance (freshId : Nat → Text) (n : Nat) : Decidable (DistinctIds freshId n) :=
  inferInstanceAs (Decidable (∀ i < n, ∀ j < n, freshId i = freshId j → i = j))

/-- Fewer ids are distinct as well. -/
theorem DistinctIds.mono {freshId : Nat → Text} {m n : Nat} (h : DistinctIds freshId n)
    (hmn : m ≤ n) : DistinctIds freshId m :=
  fun i hi j hj => h i (Nat.lt_of_lt_of_le hi hmn) j (Nat.lt_of_lt_of_le hj hmn)

section Laws

variable (limit : Option Int) (freshId : Nat → Text) (w : World)

/-! ## §2. Single steps -/

/-- A run of two parts is one run after the other. -/
theorem World.run_append (es es' : List Event) :
    w.run limit freshId (es ++ es') = (w.run limit freshId es).run limit freshId es' :=
  List.foldl_append

theorem World.setReader_self (k : Nat) (r : Reader) : (w.setReader k r).readers k = r := by
  unfold setReader
  exact Function.update_self k r w.readers

theorem World.setReader_other {k j : Nat} (h : j ≠ k) (r : Reader) :
    (w.setReader k r).readers j = w.readers j := by
  unfold setReader
  exact Function.update_of_ne h r w.readers

/-- A reader that has not started loads; any other load changes nothing. -/
theorem World.step_load (k : Nat) (id : Text) (now : Stamp) :
    (w.readers k = .idle
      ∧ w.step limit freshId (.load k id now) = w.setReader k (Reader.load w.table id now))
    ∨ w.step limit freshId (.load k id now) = w := by
  cases hk : w.readers k with
  | idle => exact .inl ⟨rfl, by simp only [World.step, hk]⟩
  | clockless _ _ => exact .inr (by simp only [World.step, hk])
  | holding _ _ _ => exact .inr (by simp only [World.step, hk])
  | answered _ _ _ => exact .inr (by simp only [World.step, hk])

/-- A reader that holds a row finishes; any other second step changes nothing. -/
theorem World.step_finish (k : Nat) :
    (∃ id row now, w.readers k = .holding id row now
      ∧ w.step limit freshId (.finish k)
          = { w with table := (Store.finish w.table id row now).2.1 }.setReader k
              (.answered id now (.ok (Store.finish w.table id row now).1)))
    ∨ w.step limit freshId (.finish k) = w := by
  cases hk : w.readers k with
  | idle => exact .inr (by simp only [World.step, hk])
  | clockless _ _ => exact .inr (by simp only [World.step, hk])
  | holding id row now => exact .inl ⟨id, row, now, rfl, by simp only [World.step, hk]⟩
  | answered _ _ _ => exact .inr (by simp only [World.step, hk])

/-- What a reader is after loading: it fails without a clock, finds no row, or holds the row. -/
theorem Reader.load_cases (t : Table) (id : Text) (now : Stamp) :
    (now.Outlying ∧ Reader.load t id now = .clockless id now)
    ∨ (∃ m, Reader.load t id now = .answered id m (.error (.notFound id)))
    ∨ (∃ m e, encodable [id] = .error e ∧ Reader.load t id now = .answered id m (.error e))
    ∨ ∃ m, ∃ r ∈ t, r.header.id = id ∧ Reader.load t id now = .holding id r m := by
  unfold Reader.load
  cases hu : utc now with
  | error e => exact .inl ⟨(utc_eq_error_iff.mp hu).2, rfl⟩
  | ok m =>
    dsimp only
    rcases Store.load_cases t id with ⟨r, hr, hid, hl⟩ | ⟨_, hl⟩ | ⟨e, he, hl⟩
    · rw [hl]
      exact .inr (.inr (.inr ⟨m, r, hr, hid, rfl⟩))
    · rw [hl]
      exact .inr (.inl ⟨m, rfl⟩)
    · rw [hl]
      exact .inr (.inr (.inl ⟨m, e, he, rfl⟩))

/-- **The two steps of a read in a row are a whole read**: the same answer and the same table. -/
theorem run_load_finish (k : Nat) (id : Text) (now : Stamp) (hk : w.readers k = .idle) :
    let w' := w.run limit freshId [.load k id now, .finish k]
    w'.table = (get w.table id now).table
      ∧ (w'.readers k).answer? = some (get w.table id now).result := by
  have hload : w.run limit freshId [.load k id now, .finish k]
      = (w.setReader k (Reader.load w.table id now)).step limit freshId (.finish k) := by
    show (w.step limit freshId (.load k id now)).step limit freshId (.finish k) = _
    simp only [World.step, hk]
  rw [hload]
  simp only [World.step, World.setReader_self]
  unfold Reader.load get
  cases hu : utc now with
  | error e =>
    -- the calendar has one way to be left
    obtain ⟨rfl, _⟩ := utc_eq_error_iff.mp hu
    exact ⟨rfl, congrArg Reader.answer? (World.setReader_self _ k _)⟩
  | ok m =>
    dsimp only
    cases hl : load w.table id with
    | error e => exact ⟨rfl, congrArg Reader.answer? (World.setReader_self _ k _)⟩
    | ok r => exact ⟨rfl, congrArg Reader.answer? (World.setReader_self _ k _)⟩

/-! ## §3. What an event does to the rows -/

/-- The rows of a world follow those of an earlier one: each stems from an earlier row, equal ones
from equal ones, or is new under a fresh id. -/
def World.Follows (w w' : World) : Prop :=
  ∃ f : Row → Row, (∀ r, (f r).StemsFrom r) ∧ ∀ r' ∈ w'.table,
    (∃ r ∈ w.table, r' = f r) ∨ (r'.header.id = freshId w.issued ∧ w'.issued = w.issued + 1)

/-- An event that leaves the table is followed by the same rows. -/
theorem World.follows_of_eq {w' : World} (h : w'.table = w.table) : w.Follows freshId w' := by
  unfold Follows
  rw [h]
  exact ⟨id, Row.StemsFrom.refl, fun r' hr' => .inl ⟨r', hr', rfl⟩⟩

/-- So is one that clears rows. -/
theorem World.follows_of_clear {w' : World} {p : Row → Bool} (h : w'.table = w.table.clearWhere p) :
    w.Follows freshId w' := by
  unfold Follows
  rw [h]
  exact ⟨Row.clearIf p, Row.clearIf_stems p, fun r' hr' => .inl (Table.of_mem_clearWhere hr')⟩

/-- **No event changes a row but by clearing it, and none adds one but under a fresh id.** -/
theorem World.step_follows (e : Event) : w.Follows freshId (w.step limit freshId e) := by
  cases e with
  | create q now =>
    rcases create_cases limit w.table (freshId w.issued) q now with
      ⟨created, expires, _, _, _, hu, ho⟩ | ⟨e, ho⟩
    · refine ⟨id, Row.StemsFrom.refl, ?_⟩
      intro r' hr'
      simp only [World.step, ho] at hr'
      rcases Table.mem_insert.mp hr' with hr | rfl
      · exact .inl ⟨r', hr, rfl⟩
      · exact .inr ⟨rfl, by simp only [World.step, hu, if_true]⟩
    · exact World.follows_of_eq freshId w (congrArg (fun o => o.table) ho)
  | list owner now => exact World.follows_of_eq freshId w (list_table w.table owner now)
  | expire i owner =>
    rcases expire_cases w.table i owner with ⟨_, _, ht⟩ | ⟨e, _, ht⟩
    · exact World.follows_of_clear freshId w ht
    · exact World.follows_of_eq freshId w (congrArg Outcome.table ht)
  | purge now =>
    rcases purge_cases w.table now with ⟨m, _, _, ht⟩ | ⟨e, _, ht⟩
    · refine ⟨id, Row.StemsFrom.refl, ?_⟩
      intro r' hr'
      change r' ∈ (purge w.table now).table at hr'
      rw [ht] at hr'
      exact .inl ⟨r', (Table.mem_dropWhere.mp hr').1, rfl⟩
    · exact World.follows_of_eq freshId w (congrArg Outcome.table ht)
  | load k i now =>
    rcases World.step_load limit freshId w k i now with ⟨_, h⟩ | h
    · rw [h]
      exact World.follows_of_eq freshId w rfl
    · exact World.follows_of_eq freshId w (congrArg World.table h)
  -- a reader that finishes clears rows at most, whatever happened since it loaded
  | finish k =>
    rcases World.step_finish limit freshId w k with ⟨i, row, now, _, h⟩ | h
    · rcases finish_clears w.table i row now with ht | ⟨p, _, _, ht⟩
      · exact World.follows_of_eq freshId w ((congrArg World.table h).trans ht)
      · exact World.follows_of_clear freshId w ((congrArg World.table h).trans ht)
    · exact World.follows_of_eq freshId w (congrArg World.table h)

/-- Ids are only used up. -/
theorem World.issued_le_step (e : Event) : w.issued ≤ (w.step limit freshId e).issued := by
  cases e with
  | create q now =>
    show w.issued ≤ if (create limit w.table (freshId w.issued) q now).2 then w.issued + 1
      else w.issued
    split <;> omega
  | list owner now => exact Nat.le_refl _
  | expire i owner => exact Nat.le_refl _
  | purge now => exact Nat.le_refl _
  | load k i now =>
    rcases World.step_load limit freshId w k i now with ⟨_, h⟩ | h
    · exact Nat.le_of_eq (congrArg World.issued h).symm
    · exact Nat.le_of_eq (congrArg World.issued h).symm
  | finish k =>
    rcases World.step_finish limit freshId w k with
      ⟨i, row, now, _, h⟩ | h
    · exact Nat.le_of_eq (congrArg World.issued h).symm
    · exact Nat.le_of_eq (congrArg World.issued h).symm

/-- No event takes an issued id back. -/
theorem World.issued_le_run (es : List Event) : w.issued ≤ (w.run limit freshId es).issued := by
  induction es generalizing w with
  | nil => exact Nat.le_refl _
  | cons e es ih => exact Nat.le_trans (World.issued_le_step limit freshId w e) (ih _)

/-! ## §4. What an event does to a reader -/

/-- What a reader may be after an event that leads from a world `w` to a world `w'`. -/
inductive Reader.Next (w : World) (e : Event) (w' : World) (k : Nat) : Reader → Prop where
  /-- What it was. -/
  | same {r : Reader} (h : w.readers k = r) : Next w e w' k r
  /-- It failed for want of a clock. -/
  | clockless {id : Text} {now : Stamp} (h : now.Outlying) : Next w e w' k (.clockless id now)
  /-- It found no row. -/
  | missing {id : Text} {now : Moment} : Next w e w' k (.answered id now (.error (.notFound id)))
  /-- Its id has no UTF-8 form. -/
  | unencodable {id : Text} {now : Moment} {x : Error} (h : encodable [id] = .error x) :
      Next w e w' k (.answered id now (.error x))
  /-- It holds a row as it stands in the table. -/
  | loaded {r : Row} {now : Moment} (hr : r ∈ w.table) :
      Next w e w' k (.holding r.header.id r now)
  /-- It finished. -/
  | finished {id : Text} {row : Row} {now : Moment} (he : e = .finish k)
      (h : w.readers k = .holding id row now) (ht : w'.table = (finish w.table id row now).2.1) :
      Next w e w' k (.answered id now (.ok (finish w.table id row now).1))

/-- **After an event a reader is what it was, or it has just loaded, or it has just finished.** -/
theorem World.step_reader (e : Event) (k : Nat) :
    Reader.Next w e (w.step limit freshId e) k ((w.step limit freshId e).readers k) := by
  cases e with
  | create q now => exact .same rfl
  | list owner now => exact .same rfl
  | expire i owner => exact .same rfl
  | purge now => exact .same rfl
  | load j i now =>
    rcases World.step_load limit freshId w j i now with ⟨_, h⟩ | h
    · rw [h]
      by_cases hkj : k = j
      · subst hkj
        rw [World.setReader_self]
        rcases Reader.load_cases w.table i now with
          ⟨hout, hl⟩ | ⟨m, hl⟩ | ⟨m, e, he, hl⟩ | ⟨m, r, hr, rfl, hl⟩
        · exact hl ▸ .clockless hout
        · exact hl ▸ .missing
        · exact hl ▸ .unencodable he
        · exact hl ▸ .loaded hr
      -- another reader is at work
      · exact .same (World.setReader_other _ hkj _).symm
    · rw [h]
      exact .same rfl
  | finish j =>
    rcases World.step_finish limit freshId w j with
      ⟨i, row, now, hj, h⟩ | h
    · rw [h]
      by_cases hkj : k = j
      · subst hkj
        rw [World.setReader_self]
        exact .finished rfl hj rfl
      · exact .same (World.setReader_other _ hkj _).symm
    · rw [h]
      exact .same rfl

section Inversion

variable {limit freshId w}
variable {e : Event} {k : Nat} {id : Text} {now : Moment}

/-- A row that a reader holds it held before, or has just found in the table. -/
theorem World.reader_holding {row : Row}
    (hk : (w.step limit freshId e).readers k = .holding id row now) :
    w.readers k = .holding id row now ∨ (row ∈ w.table ∧ row.header.id = id) := by
  have hnext := World.step_reader limit freshId w e k
  rw [hk] at hnext
  cases hnext with
  | same h => exact .inl h
  | loaded hr => exact .inr ⟨hr, rfl⟩

/-- An answer was given before, or a load has just failed, or a reader has just finished. -/
theorem World.reader_answered {result : Except Error View}
    (hk : (w.step limit freshId e).readers k = .answered id now result) :
    w.readers k = .answered id now result
    ∨ result = .error (.notFound id)
    ∨ (∃ x, encodable [id] = .error x ∧ result = .error x)
    ∨ ∃ row, e = .finish k ∧ w.readers k = .holding id row now
        ∧ result = .ok (Store.finish w.table id row now).1
        ∧ (w.step limit freshId e).table = (Store.finish w.table id row now).2.1 := by
  have hnext := World.step_reader limit freshId w e k
  rw [hk] at hnext
  cases hnext with
  | same h => exact .inl h
  | missing => exact .inr (.inl rfl)
  | unencodable h => exact .inr (.inr (.inl ⟨_, h, rfl⟩))
  | finished he h ht => exact .inr (.inr (.inr ⟨_, he, h, rfl, ht⟩))

end Inversion

/-! ## §5. The invariant of all worlds -/

variable {limit freshId w}

/-- Whatever a row, a held row or a view speaks of has an id that was issued. -/
structure World.Sound (freshId : Nat → Text) (w : World) : Prop where
  /-- Rows have ids that were issued. -/
  rows : ∀ r ∈ w.table, ∃ j < w.issued, r.header.id = freshId j
  /-- So have the rows that readers hold. -/
  held : ∀ k id row now, w.readers k = .holding id row now → ∃ j < w.issued, id = freshId j
  /-- So have the secrets that readers got a view of. -/
  viewed : ∀ k id now v, w.readers k = .answered id now (.ok v) → ∃ j < w.issued, id = freshId j
  /-- A reader fails because its id has no row, or no UTF-8 form. -/
  failed : ∀ k id now e, w.readers k = .answered id now (.error e) →
    e = .notFound id ∨ encodable [id] = .error e
  /-- A reader without a clock has a time outside the calendar. -/
  clockless : ∀ k id now, w.readers k = .clockless id now → now.Outlying

/-- A store that has seen nothing is sound. -/
theorem World.sound_start : World.start.Sound freshId where
  rows r hr := absurd hr List.not_mem_nil
  held k id row now h := by cases h
  viewed k id now v h := by cases h
  failed k id now e h := by cases h
  clockless k id now h := by cases h

/-- **Every event keeps the world sound.** -/
theorem World.Sound.step (hw : w.Sound freshId) (e : Event) :
    (w.step limit freshId e).Sound freshId := by
  have hle : w.issued ≤ (w.step limit freshId e).issued := World.issued_le_step limit freshId w e
  have hup : ∀ {id : Text}, (∃ j < w.issued, id = freshId j) →
      ∃ j < (w.step limit freshId e).issued, id = freshId j := by
    rintro id ⟨j, hj, hid⟩
    exact ⟨j, by omega, hid⟩
  refine ⟨?_, ?_, ?_, ?_, ?_⟩
  · intro r' hr'
    -- a row stems from an earlier one, or took the next id
    obtain ⟨f, hf, hrows⟩ := World.step_follows limit freshId w e
    rcases hrows r' hr' with ⟨r, hr, rfl⟩ | ⟨hid, hissued⟩
    · rw [(hf r).1]
      exact hup (hw.rows r hr)
    · exact ⟨w.issued, by omega, hid⟩
  · intro k id row now hk
    rcases World.reader_holding hk with h | ⟨hr, rfl⟩
    · exact hup (hw.held k id row now h)
    · exact hup (hw.rows row hr)
  · intro k id now v hk
    rcases World.reader_answered hk with h | h | ⟨x, _, h⟩ | ⟨row, _, h, _, _⟩
    · exact hup (hw.viewed k id now v h)
    · exact absurd h (by simp)
    · exact absurd h (by simp)
    · exact hup (hw.held k id row now h)
  · intro k id now e' hk
    rcases World.reader_answered hk with h | h | ⟨x, he, h⟩ | ⟨row, _, _, h, _⟩
    · exact hw.failed k id now e' h
    · injection h with h
      exact .inl h
    · injection h with h
      subst h
      exact .inr he
    · exact absurd h (by simp)
  · intro k id now hk
    have hnext := World.step_reader limit freshId w e k
    rw [hk] at hnext
    cases hnext with
    | same h => exact hw.clockless k id now h
    | clockless h => exact h

variable (limit freshId) in
/-- So every run does. -/
theorem World.sound_run (es : List Event) : (World.start.run limit freshId es).Sound freshId := by
  -- the invariant is kept from any world, so the induction may leave the start
  have : ∀ (es : List Event) (w : World), w.Sound freshId → (w.run limit freshId es).Sound freshId := by
    intro es
    induction es with
    | nil => exact fun w hw => hw
    | cons e es ih => exact fun w hw => ih _ (hw.step e)
  exact this es World.start World.sound_start

end Laws

end SealedDrop.Store
