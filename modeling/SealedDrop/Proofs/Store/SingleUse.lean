/-
  SealedDrop.Proofs.Store.SingleUse
  ─────────────────────────────────
  **A SINGLE-USE SECRET IS READ ONCE AND NEVER LOST SILENTLY.**

  Readers hold rows that may be stale by the time they decide.  The invariant
  `Tracks` follows one single-use secret through any run of events: what its
  row, the rows that readers hold of it, and the answers they got can be, and
  that a reader who got the envelope has left none for anybody else.

  `Ends` lists the events that may end a secret: the reader that gets the
  envelope, a reader whose clock is past the deadline, an expiration of that
  id, and a purge past the deadline.  No other event does (`Tracks.ends_step`).

  A reader whose clock shows no moment of the calendar fails before it loads
  anything.  That is an answer too (`Reader.answer?`), and the only one that does
  not tell whether the secret is still there.

  Main results:
    • `Tracks.of_create` — the creation of a secret starts the invariant,
    • `Tracks.step`, `Tracks.run` — every event and every run keeps it,
    • `Tracks.answer_cases`, `Tracks.eq_of_live` — what readers are told, and that
      one of them at most is told the secret,
    • `Tracks.ends_run` — after a run the envelope is there, or its end is one of
      the events of the run,
    • `single_use_read_once` — all of this for any creation in any run,
    • `single_use_unread_beyond_calendar` — but a reader without a clock is told
      nothing about the secret.
-/
import SealedDrop.Proofs.Store.Interleaving

namespace SealedDrop.Store

/-! ## §1. The invariant -/

/-- A reader of an id has an answer, in whatever way it came to it. -/
def World.Answers (w : World) (k : Nat) (id : Text) (result : Except Error View) : Prop :=
  (w.readers k).asked? = some id ∧ (w.readers k).answer? = some result

/-- **A reader has its answer because it finished, or for want of a clock.** -/
theorem World.answers_iff {w : World} {k : Nat} {id : Text} {result : Except Error View} :
    w.Answers k id result ↔
      (∃ now, w.readers k = .answered id now result)
      ∨ (result = .error .outOfCalendar ∧ ∃ now, w.readers k = .clockless id now) := by
  unfold Answers Reader.asked? Reader.answer?
  cases w.readers k with
  | idle => simp
  | clockless i now => simp [eq_comm, and_comm]
  | holding i row now => simp
  | answered i now result' => simp

/-- A view is the answer of a reader that finished. -/
theorem World.answers_ok_iff {w : World} {k : Nat} {id : Text} {view : View} :
    w.Answers k id (.ok view) ↔ ∃ now, w.readers k = .answered id now (.ok view) := by
  rw [answers_iff]
  simp

/-- No row of an id still has its envelope. -/
def World.Cleared (id : Text) (w : World) : Prop := ∀ r ∈ w.table, r.header.id = id → r.data = none

/-- What a world says about the secret with a header and an envelope. -/
structure Tracks (freshId : Nat → Text) (h : Header) (d : Text) (w : World) : Prop where
  /-- Its id was issued. -/
  named : ∃ j < w.issued, h.id = freshId j
  /-- Its id can be looked up. -/
  readable : encodable [h.id] = .ok ()
  /-- Its row has its header, and its envelope or none. -/
  rows : ∀ r ∈ w.table, r.header.id = h.id → r.header = h ∧ (r.data = none ∨ r.data = some d)
  /-- There is only one. -/
  single : ∀ r ∈ w.table, ∀ r' ∈ w.table, r.header.id = h.id → r'.header.id = h.id → r = r'
  /-- So has a row of it that a reader holds; if the reader found it cleared, it still is. -/
  held : ∀ k row now, w.readers k = .holding h.id row now →
    row.header = h ∧ (row.data = some d ∨ row.data = none ∧ w.Cleared h.id)
  /-- A reader of it got its live view, its expired view, or none. -/
  answers : ∀ k now result, w.readers k = .answered h.id now result →
    result = .ok (.live h d) ∨ result = .ok (.expired h) ∨ result = .error (.notFound h.id)
  /-- The reader that got the live view left nothing, and is the only one. -/
  winner : ∀ k now, w.readers k = .answered h.id now (.ok (.live h d)) →
    w.Cleared h.id ∧ ∀ j m, w.readers j = .answered h.id m (.ok (.live h d)) → j = k

section Laws

variable {limit : Option Int} {freshId : Nat → Text} {h : Header} {d : Text} {w : World}

/-! ## §2. The invariant is kept -/

/-- While the secret is tracked, its rows follow its rows. -/
theorem Tracks.follows (ht : Tracks freshId h d w) (e : Event)
    (hd : DistinctIds freshId (w.step limit freshId e).issued) :
    ∃ f : Row → Row, (∀ r, (f r).StemsFrom r) ∧ ∀ r' ∈ (w.step limit freshId e).table,
      r'.header.id = h.id → ∃ r ∈ w.table, r.header.id = h.id ∧ r' = f r := by
  obtain ⟨f, hf, hrows⟩ := World.step_follows limit freshId w e
  refine ⟨f, hf, ?_⟩
  intro r' hr' hid
  rcases hrows r' hr' with ⟨r, hr, rfl⟩ | ⟨hfresh, hissued⟩
  · exact ⟨r, hr, by rw [← hid, (hf r).1], rfl⟩
  · -- a new row has an id that the secret does not have
    obtain ⟨j, hj, hjd⟩ := ht.named
    have := hd j (by omega) w.issued (by omega) (hjd.symm.trans (hid.symm.trans hfresh))
    omega

/-- An envelope that is gone stays gone. -/
theorem Tracks.cleared_step (ht : Tracks freshId h d w) (e : Event)
    (hd : DistinctIds freshId (w.step limit freshId e).issued) (hc : w.Cleared h.id) :
    (w.step limit freshId e).Cleared h.id := by
  obtain ⟨f, hf, hrows⟩ := ht.follows e hd
  intro r' hr' hid
  obtain ⟨r, hr, hrid, rfl⟩ := hrows r' hr' hid
  rcases (hf r).2 with hdata | hdata
  · rw [hdata, hc r hr hrid]
  · exact hdata

/-- What a reader decides on a row of the secret that it holds: it gets the envelope and leaves
none, or it gets the expired view. -/
theorem Tracks.decides (ht : Tracks freshId h d w) (hs : h.singleUse = true) {k : Nat} {row : Row}
    {now : Moment} (hk : w.readers k = .holding h.id row now) :
    ((finish w.table h.id row now).1 = .live h d ∧ ¬ w.Cleared h.id
        ∧ (finish w.table h.id row now).2.1
            = w.table.clearWhere (fun r => r.hasId h.id && r.data.isSome))
    ∨ ((finish w.table h.id row now).1 = .expired h ∧ (w.Cleared h.id ∨ h.expiresAt < now)) := by
  obtain ⟨hheader, hdata⟩ := ht.held k row now hk
  cases hv : row.view now with
  | expired h' =>
    obtain ⟨hh, hwhy⟩ := Row.view_eq_expired_iff.mp hv
    have hh' : h' = h := hh.symm.trans hheader
    subst hh'
    rw [finish_of_expired hv]
    refine .inr ⟨rfl, ?_⟩
    rcases hdata with hdata | ⟨_, hc⟩
    · rcases hwhy with hnone | hlate
      · rw [hdata] at hnone
        exact absurd hnone (by simp)
      · exact .inr hlate
    · exact .inl hc
  | live h' d' =>
    obtain ⟨hh, hd', _⟩ := Row.view_eq_live_iff.mp hv
    have hh' : h' = h := hh.symm.trans hheader
    subst hh'
    have hdd : d' = d := by
      rcases hdata with hdata | ⟨hnone, _⟩
      · rw [hdata] at hd'
        injection hd' with hd'
        exact hd'.symm
      · rw [hnone] at hd'
        exact absurd hd' (by simp)
    subst hdd
    -- a live view only counts if the clearing finds the envelope
    by_cases hc : w.Cleared h'.id
    · exact .inr ⟨(finish_of_gone hv hs hc).1, .inl hc⟩
    · exact .inl ⟨(finish_of_present hv hs hc).1, hc, (finish_of_present hv hs hc).2⟩

/-- A reader that has the envelope had it before, or has just found it in the table and cleared it. -/
theorem Tracks.wins (ht : Tracks freshId h d w) (hs : h.singleUse = true) {e : Event} {k : Nat}
    {now : Moment}
    (hk : (w.step limit freshId e).readers k = .answered h.id now (.ok (.live h d))) :
    w.readers k = .answered h.id now (.ok (.live h d))
    ∨ (e = .finish k ∧ ¬ w.Cleared h.id ∧ (w.step limit freshId e).Cleared h.id) := by
  rcases World.reader_answered hk with h' | h' | ⟨x, _, h'⟩ | ⟨row, he, hk', h', htable⟩
  · exact .inl h'
  · exact absurd h' (by simp)
  · exact absurd h' (by simp)
  · injection h' with h'
    rcases ht.decides hs hk' with ⟨_, hpresent, hclear⟩ | ⟨hv, _⟩
    · refine .inr ⟨he, hpresent, ?_⟩
      intro r' hr' hid
      rw [htable, hclear] at hr'
      exact Table.cleared_clearWhere hr' hid
    · rw [hv] at h'
      exact absurd h' (by simp)

/-- What a reader holds of the secret comes from its row. -/
theorem Tracks.held_step (ht : Tracks freshId h d w) (e : Event)
    (hd : DistinctIds freshId (w.step limit freshId e).issued) {k : Nat} {row : Row} {now : Moment}
    (hk : (w.step limit freshId e).readers k = .holding h.id row now) :
    row.header = h
      ∧ (row.data = some d ∨ row.data = none ∧ (w.step limit freshId e).Cleared h.id) := by
  have hcleared : w.Cleared h.id → (w.step limit freshId e).Cleared h.id := ht.cleared_step e hd
  rcases World.reader_holding hk with hk' | ⟨hr, hid⟩
  · obtain ⟨hheader, hdata⟩ := ht.held k row now hk'
    exact ⟨hheader, hdata.imp_right fun ⟨hnone, hc⟩ => ⟨hnone, hcleared hc⟩⟩
  · obtain ⟨hheader, hdata⟩ := ht.rows row hr hid
    refine ⟨hheader, ?_⟩
    rcases hdata with hnone | hdata
    · -- the one row of the secret was found cleared, so no row of it has its envelope
      refine .inr ⟨hnone, hcleared ?_⟩
      intro r hr' hrid
      rw [ht.single r hr' row hr hrid hid]
      exact hnone
    · exact .inl hdata

/-- Whoever has the envelope is the only one, and has left none. -/
theorem Tracks.winner_step (ht : Tracks freshId h d w) (hs : h.singleUse = true) (e : Event)
    (hd : DistinctIds freshId (w.step limit freshId e).issued) {k : Nat} {now : Moment}
    (hk : (w.step limit freshId e).readers k = .answered h.id now (.ok (.live h d))) :
    (w.step limit freshId e).Cleared h.id
      ∧ ∀ j m, (w.step limit freshId e).readers j = .answered h.id m (.ok (.live h d)) → j = k := by
  -- a reader that has just got the envelope found it in the table
  rcases ht.wins hs hk with hk' | ⟨rfl, hpresent, hgone⟩
  · obtain ⟨hc, honly⟩ := ht.winner k now hk'
    refine ⟨ht.cleared_step e hd hc, ?_⟩
    intro j m hj
    rcases ht.wins hs hj with hj' | ⟨_, hpresent, _⟩
    · exact honly j m hj'
    · exact absurd hc hpresent
  · refine ⟨hgone, ?_⟩
    intro j m hj
    rcases ht.wins hs hj with hj' | ⟨hjk, _, _⟩
    · exact absurd (ht.winner j m hj').1 hpresent
    · injection hjk with hjk
      exact hjk.symm

/-- **Every event keeps the invariant.** -/
theorem Tracks.step (ht : Tracks freshId h d w) (hs : h.singleUse = true) (e : Event)
    (hd : DistinctIds freshId (w.step limit freshId e).issued) :
    Tracks freshId h d (w.step limit freshId e) := by
  -- every row of the id comes from one before, changed by `f`
  obtain ⟨f, hf, hrows⟩ := ht.follows e hd
  refine ⟨?_, ht.readable, ?_, ?_, ?_, ?_, ?_⟩
  · obtain ⟨j, hj, hid⟩ := ht.named
    exact ⟨j, Nat.lt_of_lt_of_le hj (World.issued_le_step limit freshId w e), hid⟩
  · intro r' hr' hid
    obtain ⟨r, hr, hrid, rfl⟩ := hrows r' hr' hid
    obtain ⟨hrh, hrd⟩ := ht.rows r hr hrid
    refine ⟨(hf r).1.trans hrh, ?_⟩
    rcases (hf r).2 with hdata | hdata
    · rw [hdata]
      exact hrd
    · exact .inl hdata
  · intro r' hr' x' hx' hid hid'
    obtain ⟨r, hr, hrid, rfl⟩ := hrows r' hr' hid
    obtain ⟨x, hx, hxid, rfl⟩ := hrows x' hx' hid'
    rw [ht.single r hr x hx hrid hxid]
  · exact fun _ _ _ hk => ht.held_step e hd hk
  · intro k now result hk
    rcases World.reader_answered hk with h' | h' | ⟨x, he, _⟩ | ⟨row, _, hk', h', _⟩
    · exact ht.answers k now result h'
    · exact .inr (.inr h')
    · rw [ht.readable] at he
      exact absurd he (by simp)
    · rw [h']
      rcases ht.decides hs hk' with ⟨hv, _⟩ | ⟨hv, _⟩
      · exact .inl (congrArg Except.ok hv)
      · exact .inr (.inl (congrArg Except.ok hv))
  · exact fun _ _ hk => ht.winner_step hs e hd hk

/-- Every run keeps the invariant. -/
theorem Tracks.run (ht : Tracks freshId h d w) (hs : h.singleUse = true) (es : List Event)
    (hd : DistinctIds freshId (w.run limit freshId es).issued) :
    Tracks freshId h d (w.run limit freshId es) := by
  induction es generalizing w with
  | nil => exact ht
  | cons e es ih =>
    have hle : (w.step limit freshId e).issued ≤ (w.run limit freshId (e :: es)).issued :=
      World.issued_le_run limit freshId (w.step limit freshId e) es
    exact ih (ht.step hs e (hd.mono hle)) hd

/-- **What a reader of the secret can be told**: its view, live or expired, that there is none, or
that its clock lies outside the calendar. -/
theorem Tracks.answer_cases (ht : Tracks freshId h d w) {k : Nat} {result : Except Error View}
    (hk : w.Answers k h.id result) :
    result = .ok (.live h d) ∨ result = .ok (.expired h)
      ∨ result = .error (.notFound h.id) ∨ result = .error .outOfCalendar := by
  rcases World.answers_iff.mp hk with ⟨now, hfinished⟩ | ⟨hresult, _⟩
  · rcases ht.answers k now result hfinished with hlive | hexpired | hmissing
    · exact .inl hlive
    · exact .inr (.inl hexpired)
    · exact .inr (.inr (.inl hmissing))
  · exact .inr (.inr (.inr hresult))

/-- Only a reader whose clock lies outside the calendar is told so. -/
theorem Tracks.answers_outOfCalendar_iff (ht : Tracks freshId h d w) (hw : w.Sound freshId)
    (k : Nat) :
    w.Answers k h.id (.error .outOfCalendar) ↔
      ∃ now, now.Outlying ∧ w.readers k = .clockless h.id now := by
  constructor
  · intro hk
    rcases World.answers_iff.mp hk with ⟨now, hfinished⟩ | ⟨_, now, hclockless⟩
    · -- a reader that finished had a clock
      rcases ht.answers k now _ hfinished with hlive | hexpired | hmissing
      · cases hlive
      · cases hexpired
      · cases hmissing
    · exact ⟨now, hw.clockless k _ now hclockless, hclockless⟩
  · rintro ⟨now, _, hclockless⟩
    exact World.answers_iff.mpr (.inr ⟨rfl, now, hclockless⟩)

/-- **One reader at most gets the live view.** -/
theorem Tracks.eq_of_live (ht : Tracks freshId h d w) {j k : Nat}
    (hj : w.Answers j h.id (.ok (.live h d))) (hk : w.Answers k h.id (.ok (.live h d))) : j = k := by
  obtain ⟨before, hbefore⟩ := World.answers_ok_iff.mp hj
  obtain ⟨now, hnow⟩ := World.answers_ok_iff.mp hk
  exact (ht.winner k now hnow).2 j before hbefore

/-! ## §3. The invariant starts -/

/-- **The creation of a secret starts the invariant**: nothing else has its id, which is fresh. -/
theorem Tracks.of_create (hw : w.Sound freshId) {q : Request} {now : Stamp}
    {created expires : Moment} (he : encodable [freshId w.issued, q.owner, q.data] = .ok ())
    (hu : (create limit w.table (freshId w.issued) q now).2 = true)
    (ho : (create limit w.table (freshId w.issued) q now).1.table
      = w.table.insert (q.row (freshId w.issued) created expires))
    (hd : DistinctIds freshId (w.step limit freshId (.create q now)).issued) :
    Tracks freshId (q.row (freshId w.issued) created expires).header q.data
      (w.step limit freshId (.create q now)) := by
  have htable : (w.step limit freshId (.create q now)).table
      = w.table.insert (q.row (freshId w.issued) created expires) := ho
  have hissued : (w.step limit freshId (.create q now)).issued = w.issued + 1 := by
    show (if (create limit w.table (freshId w.issued) q now).2 then w.issued + 1
      else w.issued) = w.issued + 1
    rw [hu]
    rfl
  have hreaders : (w.step limit freshId (.create q now)).readers = w.readers := rfl
  -- whatever was issued before has another id
  have hfresh : ∀ {id : Text}, (∃ j < w.issued, id = freshId j) → id ≠ freshId w.issued := by
    rintro id ⟨j, hj, rfl⟩ hid
    have := hd j (by omega) w.issued (by omega) hid
    omega
  have hnew : ∀ r ∈ w.table.insert (q.row (freshId w.issued) created expires),
      r.header.id = freshId w.issued → r = q.row (freshId w.issued) created expires := by
    intro r hr hid
    rcases Table.mem_insert.mp hr with hr | hr
    · exact absurd hid (hfresh (hw.rows r hr))
    · exact hr
  refine ⟨⟨w.issued, by omega, rfl⟩, encodable_head he, ?_, ?_, ?_, ?_, ?_⟩
  · intro r hr hid
    rw [htable] at hr
    rw [hnew r hr hid]
    exact ⟨rfl, .inr rfl⟩
  · intro r hr x hx hrid hxid
    rw [htable] at hr hx
    exact (hnew r hr hrid).trans (hnew x hx hxid).symm
  · intro k row m hk
    rw [hreaders] at hk
    exact absurd rfl (hfresh (hw.held k _ row m hk))
  · intro k m result hk
    rw [hreaders] at hk
    cases result with
    | ok v => exact absurd rfl (hfresh (hw.viewed k _ m v hk))
    | error e =>
      rcases hw.failed k _ m e hk with rfl | hbad
      · exact .inr (.inr rfl)
      · have hgood : encodable [(q.row (freshId w.issued) created expires).header.id] = .ok () :=
          encodable_head he
        rw [hgood] at hbad
        exact absurd hbad (by simp)
  · intro k m hk
    rw [hreaders] at hk
    exact absurd rfl (hfresh (hw.viewed k _ m _ hk))

/-! ## §4. What ends a secret -/

/-- The events that may end the secret with a header and an envelope, between a world `w` and the
world `w'` after the event. -/
inductive Ends (h : Header) (d : Text) (w w' : World) : Event → Prop where
  /-- A reader gets the envelope. -/
  | read {k : Nat} {row : Row} {now : Moment} (held : w.readers k = .holding h.id row now)
      (got : w'.readers k = .answered h.id now (.ok (.live h d))) : Ends h d w w' (.finish k)
  /-- A reader is late by its own clock, and gets the expired view. -/
  | late {k : Nat} {row : Row} {now : Moment} (held : w.readers k = .holding h.id row now)
      (past : h.expiresAt < now)
      (got : w'.readers k = .answered h.id now (.ok (.expired h))) : Ends h d w w' (.finish k)
  /-- Its id is expired, by its owner or by one who need not say who it is. -/
  | expire {owner : Option Text} (who : owner = none ∨ owner = some h.owner) :
      Ends h d w w' (.expire h.id owner)
  /-- A purge comes past the deadline. -/
  | purge {now : Stamp} {m : Moment} (clock : utc now = .ok m) (past : h.expiresAt < m) :
      Ends h d w w' (.purge now)

theorem World.present_of_mem {w' : World} {id : Text} {r : Row} (hr : r ∈ w'.table)
    (hid : r.header.id = id) (hdata : r.data ≠ none) : w'.Present id := ⟨r, hr, hid, hdata⟩

/-- A row that a write does not clear keeps the secret present. -/
theorem World.present_of_clear {w' : World} {t : Table} {p : Row → Bool} {r : Row}
    (ht : w'.table = t.clearWhere p) (hr : r ∈ t) (hdata : r.data ≠ none) (hp : p r = false) :
    w'.Present r.header.id :=
  World.present_of_mem (ht ▸ Table.mem_clearWhere.mpr (.inl ⟨hr, hp⟩)) rfl hdata

/-- A reader that ends the secret gets its envelope, or is late. -/
theorem Tracks.ends_finish (ht : Tracks freshId h d w) (hs : h.singleUse = true) {k : Nat}
    (hp : w.Present h.id) (hgone : ¬ (w.step limit freshId (.finish k)).Present h.id) :
    Ends h d w (w.step limit freshId (.finish k)) (.finish k) := by
  obtain ⟨r, hr, hid, hdata⟩ := hp
  rcases World.step_finish limit freshId w k with ⟨i, row, now, hk, hstep⟩ | hstep
  · have htable : (w.step limit freshId (.finish k)).table = (finish w.table i row now).2.1 :=
      congrArg World.table hstep
    have hanswer : (w.step limit freshId (.finish k)).readers k
        = .answered i now (.ok (finish w.table i row now).1) := by
      rw [hstep]
      exact World.setReader_self _ k _
    by_cases hi : i = h.id
    · subst hi
      rcases ht.decides hs hk with ⟨hlive, _, _⟩ | ⟨hexpired, hwhy⟩
      · exact .read hk (hanswer.trans (by rw [hlive]))
      · -- the envelope is still there, so the reader is late
        rcases hwhy with hc | hlate
        · exact absurd (hc r hr hid) hdata
        · exact .late hk hlate (hanswer.trans (by rw [hexpired]))
    · -- a reader of another id leaves the row alone
      rcases finish_clears w.table i row now with hkeep | ⟨p, hpicks, _, hclear⟩
      · exact absurd (World.present_of_mem (htable.trans hkeep ▸ hr) hid hdata) hgone
      · have hpick : p r = false := by
          rw [← Bool.not_eq_true]
          intro hpr
          exact hi ((hpicks r hpr).symm.trans hid)
        exact absurd (hid ▸ World.present_of_clear (htable.trans hclear) hr hdata hpick) hgone
  · exact absurd (World.present_of_mem (congrArg World.table hstep ▸ hr) hid hdata) hgone

/-- **Only the listed events end a secret.** -/
theorem Tracks.ends_step (ht : Tracks freshId h d w) (hs : h.singleUse = true) {e : Event}
    (hp : w.Present h.id) (hgone : ¬ (w.step limit freshId e).Present h.id) :
    Ends h d w (w.step limit freshId e) e := by
  obtain ⟨r, hr, hid, hdata⟩ := hp
  have hheader : r.header = h := (ht.rows r hr hid).1
  -- an event that leaves the table alone ends nothing
  have hsame : (w.step limit freshId e).table = w.table → Ends h d w (w.step limit freshId e) e := by
    intro htable
    exact absurd (World.present_of_mem (htable ▸ hr) hid hdata) hgone
  cases e with
  | create q now =>
    rcases create_cases limit w.table (freshId w.issued) q now with ⟨_, _, _, _, _, _, ho⟩ | ⟨_, ho⟩
    · have htable : (w.step limit freshId (.create q now)).table = _ := congrArg Outcome.table ho
      exact absurd (World.present_of_mem (htable ▸ Table.mem_insert.mpr (.inl hr)) hid hdata) hgone
    · exact hsame (congrArg Outcome.table ho)
  | list owner now => exact hsame (list_table w.table owner now)
  | expire i owner =>
    rcases expire_cases w.table i owner with ⟨_, _, htable⟩ | ⟨_, _, ho⟩
    · cases hpick : r.isOf i owner with
      | true =>
        obtain ⟨rfl, who⟩ := Row.isOf_iff.mp hpick
        rw [hheader] at who ⊢
        exact .expire who
      | false => exact absurd (hid ▸ World.present_of_clear htable hr hdata hpick) hgone
    · exact hsame (congrArg Outcome.table ho)
  | purge now =>
    rcases purge_cases w.table now with ⟨m, hm, _, htable⟩ | ⟨_, _, ho⟩
    · by_cases hpast : h.expiresAt < m
      · exact .purge hm hpast
      · have hpick : r.isGone m = false := Row.isGone_eq_false_iff.mpr ⟨hdata, hheader ▸ hpast⟩
        have hr' : r ∈ (w.step limit freshId (.purge now)).table := by
          show r ∈ (Store.purge w.table now).table
          rw [htable]
          exact Table.mem_dropWhere.mpr ⟨hr, hpick⟩
        exact absurd (World.present_of_mem hr' hid hdata) hgone
    · exact hsame (congrArg Outcome.table ho)
  | load k i now =>
    rcases World.step_load limit freshId w k i now with ⟨_, hstep⟩ | hstep
    · exact hsame (by rw [hstep, World.setReader])
    · exact hsame (congrArg World.table hstep)
  | finish k => exact ht.ends_finish hs ⟨r, hr, hid, hdata⟩ hgone

/-- **A secret is never lost silently**: after a run its envelope is there, or one event of the run
ended it. -/
theorem Tracks.ends_run (ht : Tracks freshId h d w) (hs : h.singleUse = true) (es : List Event)
    (hd : DistinctIds freshId (w.run limit freshId es).issued) (hp : w.Present h.id) :
    (w.run limit freshId es).Present h.id
    ∨ ∃ earlier e later, es = earlier ++ e :: later
        ∧ Ends h d (w.run limit freshId earlier) (w.run limit freshId (earlier ++ [e])) e := by
  induction es generalizing w with
  | nil => exact .inl hp
  | cons e es ih =>
    have hle : (w.step limit freshId e).issued ≤ (w.run limit freshId (e :: es)).issued :=
      World.issued_le_run limit freshId (w.step limit freshId e) es
    -- either the first event ends the secret, or a later one does
    by_cases hnext : (w.step limit freshId e).Present h.id
    · rcases ih (ht.step hs e (hd.mono hle)) hd hnext with hp' | ⟨earlier, x, later, rfl, hx⟩
      · exact .inl hp'
      · exact .inr ⟨e :: earlier, x, later, rfl, hx⟩
    · exact .inr ⟨[], e, es, rfl, ht.ends_step hs hp hnext⟩

end Laws

/-! ## §5. Any creation in any run -/

/-- **A single-use secret is read at most once, and never lost silently.**  Take any creation in any
run of events, and any run after it.  A reader of the secret is answered with its live view and the
envelope as it was given, with its expired view, or that there is none; one whose clock lies outside
the calendar, and nobody else, is answered that there is no such time.  At most one reader gets the
live view; an event that ends the secret is one that `Ends` lists; and as long as there was none, the
envelope is there. -/
theorem single_use_read_once (limit : Option Int) (freshId : Nat → Text) (before after : List Event)
    (q : Request) (now : Stamp) (id : Text) (hq : q.singleUse = true)
    (hcreated : (create limit (World.start.run limit freshId before).table
      (freshId (World.start.run limit freshId before).issued) q now).1.result = .ok id)
    (hd : DistinctIds freshId
      (World.start.run limit freshId (before ++ .create q now :: after)).issued) :
    let world (es : List Event) := World.start.run limit freshId (before ++ .create q now :: es)
    ∃ h : Header, h.id = id ∧ h.owner = q.owner ∧ h.singleUse = true
      ∧ utc now = .ok h.createdAt ∧ utc q.expiresAt = .ok h.expiresAt
      ∧ (∀ k result, (world after).Answers k id result →
          result = .ok (.live h q.data) ∨ result = .ok (.expired h)
            ∨ result = .error (.notFound id) ∨ result = .error .outOfCalendar)
      ∧ (∀ k, (world after).Answers k id (.error .outOfCalendar) ↔
          ∃ m, m.Outlying ∧ (world after).readers k = .clockless id m)
      ∧ (∀ j k, (world after).Answers j id (.ok (.live h q.data)) →
          (world after).Answers k id (.ok (.live h q.data)) → j = k)
      ∧ (∀ earlier e later, after = earlier ++ e :: later → (world earlier).Present id →
          ¬ (world (earlier ++ [e])).Present id →
          Ends h q.data (world earlier) (world (earlier ++ [e])) e)
      ∧ ((world after).Present id
          ∨ ∃ earlier e later, after = earlier ++ e :: later
              ∧ Ends h q.data (world earlier) (world (earlier ++ [e])) e) := by
  intro world
  obtain ⟨w, hw⟩ : ∃ w, w = World.start.run limit freshId before := ⟨_, rfl⟩
  rw [← hw] at hcreated
  have hworld : ∀ es, world es = (w.step limit freshId (.create q now)).run limit freshId es := by
    intro es
    show World.start.run limit freshId (before ++ .create q now :: es) = _
    rw [World.run_append, ← hw]
    rfl
  have hend : (World.start.run limit freshId (before ++ .create q now :: after)).issued
      = (world after).issued := rfl
  rw [hend, hworld] at hd
  rcases create_cases limit w.table (freshId w.issued) q now with
    ⟨created, expires, hvalid, he, _, hu, ho⟩ | ⟨x, ho⟩
  · obtain ⟨hnow, hexpires, _⟩ := validate_eq_ok_iff.mp hvalid
    rw [ho] at hcreated
    injection hcreated with hid
    have hsound : w.Sound freshId := hw ▸ World.sound_run limit freshId before
    have hstart : Tracks freshId (q.row (freshId w.issued) created expires).header q.data
        (w.step limit freshId (.create q now)) :=
      Tracks.of_create hsound he hu (congrArg Outcome.table ho)
        (hd.mono (World.issued_le_run limit freshId _ after))
    have hpresent : (w.step limit freshId (.create q now)).Present (freshId w.issued) := by
      refine ⟨q.row (freshId w.issued) created expires, ?_, rfl, by simp [Request.row]⟩
      show _ ∈ (create limit w.table (freshId w.issued) q now).1.table
      rw [ho]
      exact Table.mem_insert.mpr (.inr rfl)
    subst hid
    -- the invariant starts behind the creation, and is carried to the end of the run
    have hends := hstart.ends_run hq after hd hpresent
    have htracks := hstart.run hq after hd
    have hafter : (world after).Sound freshId :=
      World.sound_run limit freshId (before ++ .create q now :: after)
    rw [← hworld] at htracks
    refine ⟨(q.row (freshId w.issued) created expires).header, rfl, rfl, hq, hnow, hexpires,
      ?answers, ?clockless, ?once, ?step, ?run⟩
    case answers => exact fun k result hk => htracks.answer_cases hk
    case clockless => exact fun k => htracks.answers_outOfCalendar_iff hafter k
    case once => exact fun j k hj hk => htracks.eq_of_live hj hk
    case step =>
      rintro earlier e later rfl hp hgone
      have hd' : DistinctIds freshId
          ((w.step limit freshId (.create q now)).run limit freshId earlier).issued := by
        refine hd.mono ?_
        rw [World.run_append]
        exact World.issued_le_run limit freshId _ _
      have hstep : world (earlier ++ [e]) = (world earlier).step limit freshId e := by
        rw [hworld, hworld, World.run_append]
        rfl
      rw [hstep] at hgone ⊢
      rw [hworld] at hp hgone ⊢
      exact (hstart.run hq earlier hd').ends_step hq hp hgone
    case run =>
      simp only [hworld]
      exact hends
  · rw [ho] at hcreated
    exact absurd hcreated (by simp [Outcome.fail])

/-- Ids in order, as the identifiers of a store that counts. -/
def countedId (n : Nat) : Text := Text.ofString "00000000-0000-4000-8000-" ++ Text.hex 12 (n + 1)

/-- A single-use secret that can be read for a minute. -/
def minuteRequest : Request :=
  ⟨"alice", "c2VhbGVk", ⟨⟨60 * microsPerSecond, by decide⟩, none⟩, true⟩

/-- What the store makes of it. -/
def minuteHeader : Header :=
  (minuteRequest.row (countedId 0) .first minuteRequest.expiresAt.wall).header

/-- Two readers that both load the row before either decides, and one without a clock. -/
def racingReads : List Event :=
  [.load 0 (countedId 0) ⟨.first, none⟩, .load 1 (countedId 0) ⟨.first, none⟩,
   .load 2 (countedId 0) beyondCalendar, .finish 1, .finish 0]

/-- Of two readers at once the one that decides first gets the envelope, and nobody else does. -/
theorem single_use_read_once_racing :
    DistinctIds countedId 1 ∧
    let w := World.start.run none countedId (.create minuteRequest ⟨.first, none⟩ :: racingReads)
    w.Answers 1 (countedId 0) (.ok (.live minuteHeader minuteRequest.data))
      ∧ w.Answers 0 (countedId 0) (.ok (.expired minuteHeader))
      ∧ w.Answers 2 (countedId 0) (.error .outOfCalendar)
      ∧ ∀ k, w.Answers k (countedId 0) (.ok (.live minuteHeader minuteRequest.data)) → k = 1 := by
  refine ⟨by decide, ?_⟩
  intro w
  obtain ⟨h, hid, _, _, _, _, hanswers, _, honly, _⟩ := single_use_read_once none countedId []
    racingReads minuteRequest ⟨.first, none⟩ (countedId 0) rfl rfl (by decide)
  have hfirst : w.Answers 1 (countedId 0) (.ok (.live minuteHeader minuteRequest.data)) := ⟨rfl, rfl⟩
  obtain rfl : h = minuteHeader := by
    rcases hanswers 1 _ hfirst with hlive | hexpired | hmissing | hclockless
    · injection hlive with hlive
      injection hlive with hheader
      exact hheader.symm
    · injection hexpired with hexpired
      cases hexpired
    · cases hmissing
    · cases hclockless
  exact ⟨hfirst, ⟨rfl, rfl⟩, ⟨rfl, rfl⟩, fun k hk => honly k 1 hk hfirst⟩

/-- **A reader without a clock is told nothing about the secret**: neither view of it, nor that there
is none. -/
theorem single_use_unread_beyond_calendar :
    DistinctIds countedId 1 ∧
    ¬ ∀ (es : List Event) (k : Nat) (result : Except Error View),
      (World.start.run none countedId (.create minuteRequest ⟨.first, none⟩ :: es)).Answers
        k (countedId 0) result →
      result = .ok (.live minuteHeader minuteRequest.data) ∨ result = .ok (.expired minuteHeader)
        ∨ result = .error (.notFound (countedId 0)) := by
  refine ⟨by decide, fun h => ?_⟩
  -- the two steps of the reader in a row are a read by id, which fails
  have hread := (run_load_finish none countedId
    (World.start.run none countedId [.create minuteRequest ⟨.first, none⟩]) 0 (countedId 0)
    beyondCalendar rfl).2
  rcases h [.load 0 (countedId 0) beyondCalendar, .finish 0] 0 _ ⟨rfl, hread⟩ with
    hlive | hexpired | hmissing
  · cases hlive
  · cases hexpired
  · cases hmissing

end SealedDrop.Store
