/-
  SealedDrop.Proofs.Store.Evolution
  ─────────────────────────────────
  **HOW THE TABLE AND ITS ROWS EVOLVE.**

  A run starts from the empty table.  Two things about it come from outside:
  no id is drawn twice, and a late read ends on what was once in the table,
  taken earlier in the run.  `Ran` says just this, call by call; everything
  else about the tables of a run follows.

      Ran       — a run that can happen
      Row.Valid — what a creation makes sure of, and no call undoes
      Chronicle — all that is true of the tables of a run

  The argument about a row is always the same.  Its id was drawn by its
  creation, so no later call draws it (`Ran.not_drawn_later`), and a row of that
  id in a later table can only stem from it (`Ran.stems`).

  Main results:
    • `created_of_mem`, `valid_of_mem` — where rows come from, and what they are,
    • `Ran.stems`, `Ran.stays_absent` — what becomes of a row, and of its id,
    • `Ran.lasting` — a read of a live multi-use secret changes nothing,
    • `ran_chronicle` — the whole of it.
-/
import SealedDrop.Proofs.Store.Run

namespace SealedDrop.Store

/-! ## §1. Runs that can happen -/

/-- A run that can happen, from the empty table. -/
inductive Ran (limit : Option Int) : List Call → Prop where
  | nil : Ran limit []
  /-- One call more: the id that it draws was not drawn before, and a late read ends on a row of its
  id that was once in the table. -/
  | snoc {calls : List Call} {c : Call} (run : Ran limit calls)
      (fresh : ∀ id, c.operation.freshId? = some id → id ∉ drawnIds calls)
      (seen : ∀ id loaded, c.operation = .finish id loaded →
        ∃ past, past <+: calls ∧ ∃ r ∈ Table.after limit [] past,
          r.header.id = id ∧ loaded.toRow = .ok r) :
      Ran limit (calls ++ [c])

section Runs

variable {limit : Option Int} {calls before later : List Call}

/-- A run that can happen can stop anywhere. -/
theorem Ran.of_isPrefix (h : Ran limit calls) (hbefore : before <+: calls) : Ran limit before := by
  induction h with
  | nil =>
    rw [List.prefix_nil.mp hbefore]
    exact .nil
  | snoc run fresh seen ih =>
    rcases List.prefix_concat_iff.mp hbefore with rfl | hshorter
    · exact .snoc run fresh seen
    · exact ih hshorter

theorem Ran.nodup_drawnIds (h : Ran limit calls) : (drawnIds calls).Nodup := by
  induction h with
  | nil => exact List.nodup_nil
  | @snoc calls c run fresh seen ih =>
    rw [drawnIds_append]
    -- the last call draws one id at most, and none that was drawn before
    refine List.nodup_append.mpr ⟨ih, ?_, ?_⟩
    · unfold drawnIds
      cases hc : c.operation.freshId? with
      | none => simp [hc]
      | some id => simp [hc]
    · intro id hid id' hid' heq
      obtain ⟨c', hc', hdrawn⟩ := mem_drawnIds.mp hid'
      rw [List.mem_singleton] at hc'
      subst hc' heq
      exact fresh id hdrawn hid

/-- What the last read of a run loaded earlier was once in the table. -/
theorem Ran.seen_last {c : Call} (h : Ran limit (calls ++ [c])) {id : Text} {loaded : Snapshot}
    (hc : c.operation = .finish id loaded) :
    ∃ past, past <+: calls ∧ ∃ r ∈ Table.after limit [] past,
      r.header.id = id ∧ loaded.toRow = .ok r := by
  generalize hall : calls ++ [c] = all at h
  cases h with
  | nil => exact absurd hall (List.append_ne_nil_of_right_ne_nil _ (List.cons_ne_nil c []))
  | snoc run fresh seen =>
    -- the call that was added last is the last one of the list
    obtain ⟨rfl, hlast⟩ := List.append_inj' hall rfl
    injection hlast with hlast
    subst hlast
    exact seen id loaded hc

theorem mem_drawnIds_of_mem {r : Row} (hr : r ∈ Table.after limit [] calls) :
    r.header.id ∈ drawnIds calls := by
  rcases origin_after limit [] calls hr with
    ⟨_, hnone, _⟩ | ⟨past, c, later, q, _, _, rfl, hc, _⟩
  · exact absurd hnone List.not_mem_nil
  · refine mem_drawnIds.mpr ⟨c, List.mem_append_right _ List.mem_cons_self, ?_⟩
    rw [hc]
    rfl

/-- **The id of a row is not drawn again.** -/
theorem Ran.not_drawn_later (h : Ran limit (before ++ later)) {r : Row}
    (hr : r ∈ Table.after limit [] before) : r.header.id ∉ drawnIds later := by
  have hnodup := h.nodup_drawnIds
  rw [drawnIds_append] at hnodup
  obtain ⟨_, _, hdisjoint⟩ := List.nodup_append.mp hnodup
  intro hagain
  exact hdisjoint _ (mem_drawnIds_of_mem hr) _ hagain rfl

end Runs

/-! ## §2. Rows -/

/-- What a creation makes sure of: the deadline lies behind the time of creation, and an envelope is
neither empty nor too long. -/
structure Row.Valid (limit : Option Int) (r : Row) : Prop where
  /-- The deadline is later than the creation. -/
  ahead : r.header.createdAt < r.header.expiresAt
  /-- An envelope is not empty. -/
  nonempty : r.data ≠ some []
  /-- An envelope is within the limit. -/
  bounded : ∀ d n, r.data = some d → limit = some n → (d.length : Int) ≤ n

section Rows

variable {limit : Option Int} {calls before later : List Call}

theorem valid_of_validate {q : Request} {now : Stamp} {created expires : Moment}
    (h : validate limit q now = .ok (created, expires)) (id : Text) :
    (q.row id created expires).Valid limit := by
  obtain ⟨_, _, hempty, hbound, hahead⟩ := validate_eq_ok_iff.mp h
  refine ⟨Nat.lt_of_not_le hahead, ?_, ?_⟩
  · intro hdata
    injection hdata with hdata
    rw [hdata] at hempty
    cases hempty
  · intro d n hdata hlimit
    injection hdata with hdata
    rw [← hdata]
    exact hbound n hlimit

theorem Row.StemsFrom.valid {r r' : Row} (h : r'.StemsFrom r) (hr : r.Valid limit) :
    r'.Valid limit := by
  obtain ⟨hheader, hsame | hnone⟩ := h
  · refine ⟨?_, ?_, ?_⟩
    · rw [hheader]
      exact hr.ahead
    · rw [hsame]
      exact hr.nonempty
    · rw [hsame]
      exact hr.bounded
  · refine ⟨?_, ?_, ?_⟩
    · rw [hheader]
      exact hr.ahead
    · rw [hnone]
      intro hdata
      cases hdata
    · intro d n hdata
      rw [hnone] at hdata
      cases hdata

/-- **A row was made by a creation in the run, and has lost its envelope since at most.** -/
theorem created_of_mem {r : Row} (hr : r ∈ Table.after limit [] calls) :
    ∃ past c q created expires, past ++ [c] <+: calls ∧ c.operation = .create r.header.id q
      ∧ validate limit q c.now = .ok (created, expires)
      ∧ q.row r.header.id created expires ∈ Table.after limit [] (past ++ [c])
      ∧ r.StemsFrom (q.row r.header.id created expires) := by
  rcases origin_after limit [] calls hr with
    ⟨_, hnone, _⟩ | ⟨past, c, later, q, created, expires, rfl, hc, hvalid, _, hrow, hstems⟩
  · exact absurd hnone List.not_mem_nil
  · refine ⟨past, c, q, created, expires, ?_, hc, hvalid, hrow, hstems⟩
    exact ⟨later, by rw [List.append_assoc, List.singleton_append]⟩

theorem valid_of_mem {r : Row} (hr : r ∈ Table.after limit [] calls) : r.Valid limit := by
  obtain ⟨_, _, _, _, _, _, _, hvalid, _, hstems⟩ := created_of_mem hr
  exact hstems.valid (valid_of_validate hvalid r.header.id)

/-- **A row of the same id in a later table is the row**, its envelope cleared at most. -/
theorem Ran.stems (h : Ran limit (before ++ later)) {r r' : Row}
    (hr : r ∈ Table.after limit [] before) (hr' : r' ∈ Table.after limit [] (before ++ later))
    (hid : r'.header.id = r.header.id) : r'.StemsFrom r := by
  rw [Table.after_append] at hr'
  obtain ⟨r₀, hr₀, hr₀id, hstems⟩ := stems_after limit _ (h.not_drawn_later hr) hr' hid
  have hkeyed := keyed_after limit [] Table.keyed_nil before
  exact hkeyed.eq hr₀ hr hr₀id ▸ hstems

/-- **An id that had a row and has none any more does not get one again.** -/
theorem Ran.stays_absent {mid : List Call} (h : Ran limit (before ++ mid ++ later)) {r : Row}
    (hr : r ∈ Table.after limit [] before)
    (habsent : ∀ x ∈ Table.after limit [] (before ++ mid), x.header.id ≠ r.header.id) :
    ∀ x ∈ Table.after limit [] (before ++ mid ++ later), x.header.id ≠ r.header.id := by
  intro x hx hxid
  -- the id was drawn before it was gone, so it is not drawn later
  have hlater : r.header.id ∉ drawnIds later := by
    intro hdrawn
    have hrest : r.header.id ∉ drawnIds (mid ++ later) := by
      rw [List.append_assoc] at h
      exact h.not_drawn_later hr
    rw [drawnIds_append] at hrest
    exact hrest (List.mem_append_right _ hdrawn)
  rw [Table.after_append] at hx
  obtain ⟨x₀, hx₀, hx₀id, _⟩ := stems_after limit _ hlater hx hxid
  exact habsent x₀ hx₀ hx₀id

end Rows

/-! ## §3. Reads of what lasts -/

section Lasting

variable {limit : Option Int} {calls : List Call} {c : Call}

/-- **A read of a live multi-use secret changes nothing**, also one that loaded its row earlier. -/
theorem Ran.lasting (h : Ran limit (calls ++ [c])) {id : Text} {m : Moment} {r : Row}
    (hc : c.operation.readId? = some id) (hm : utc c.now = .ok m)
    (hr : r ∈ Table.after limit [] calls) (hid : r.header.id = id) (hlive : r.isGone m = false)
    (hmulti : r.header.singleUse = false) :
    Table.after limit [] (calls ++ [c]) = Table.after limit [] calls := by
  rw [Table.after_concat]
  obtain ⟨now, operation⟩ := c
  cases operation with
  | get id' =>
    injection hc with hc
    subst hc
    show (get _ id' now).table = _
    rcases get_cases (Table.after limit [] calls) id' now with
      ⟨e, _, hg⟩ | ⟨n, hn, ⟨r₀, hr₀, hr₀id, _, hg⟩ | ⟨_, hg⟩ | ⟨e, _, hg⟩⟩
    · rw [hg]
      rfl
    · -- the row that is loaded is the live one
      have hsame : r₀ = r :=
        (keyed_after limit [] Table.keyed_nil calls).eq hr₀ hr (hr₀id.trans hid.symm)
      have hnow : m = n := Except.ok.inj (hm.symm.trans hn)
      subst hsame hnow
      rw [hg]
      exact finished_of_lasting hlive hmulti
    · rw [hg]
      rfl
    · rw [hg]
      rfl
  | finish id' loaded =>
    injection hc with hc
    subst hc
    show (getStale _ id' loaded now).table = _
    rcases getStale_cases (Table.after limit [] calls) id' loaded now with
      ⟨e, hg⟩ | ⟨n, r₀, hn, hr₀, hg⟩
    · rw [hg]
      rfl
    · have hnow : m = n := Except.ok.inj (hm.symm.trans hn)
      obtain ⟨past, ⟨rest, rfl⟩, r₁, hr₁, hr₁id, hr₁row⟩ := h.seen_last rfl
      have hloaded : r₁ = r₀ := Except.ok.inj (hr₁row.symm.trans hr₀)
      subst hnow hloaded
      -- the row stems from what was loaded, so that was as live as the row is
      have hran : Ran limit (past ++ rest) := h.of_isPrefix (List.prefix_append _ _)
      have hstems : r.StemsFrom r₁ := hran.stems hr₁ hr (hid.trans hr₁id.symm)
      have hloadedLive : r₁.isGone m = false := by
        refine Bool.eq_false_iff.mpr ?_
        intro hgone
        rw [hstems.isGone hgone] at hlive
        cases hlive
      have hloadedMulti : r₁.header.singleUse = false := hstems.1 ▸ hmulti
      rw [hg]
      exact finished_of_lasting hloadedLive hloadedMulti
  | create _ _ => cases hc
  | list _ => cases hc
  | expire _ _ => cases hc
  | purge => cases hc

end Lasting

/-! ## §4. The whole of it -/

/-- All that is true of the tables of a run. -/
structure Chronicle (limit : Option Int) (calls : List Call) : Prop where
  /-- Ids are a key of every table. -/
  keyed : ∀ before, before <+: calls → (Table.after limit [] before).Keyed
  /-- Every row has its deadline behind its creation, and an envelope within the limit or none. -/
  valid : ∀ before, before <+: calls → ∀ r ∈ Table.after limit [] before, r.Valid limit
  /-- Every row is what a creation made of it, but for an envelope that it has lost. -/
  created : ∀ before, before <+: calls → ∀ r ∈ Table.after limit [] before,
    ∃ past c q created expires, past ++ [c] <+: before ∧ c.operation = .create r.header.id q
      ∧ validate limit q c.now = .ok (created, expires)
      ∧ q.row r.header.id created expires ∈ Table.after limit [] (past ++ [c])
      ∧ r.StemsFrom (q.row r.header.id created expires)
  /-- From one table to a later one, a row keeps its fixed part, and its envelope or loses it. -/
  evolved : ∀ before later, before ++ later <+: calls → ∀ r ∈ Table.after limit [] before,
    ∀ r' ∈ Table.after limit [] (before ++ later), r'.header.id = r.header.id → r'.StemsFrom r
  /-- An id that had a row and has none any more does not get one again. -/
  absent : ∀ before mid later, before ++ mid ++ later <+: calls →
    ∀ r ∈ Table.after limit [] before,
      (∀ x ∈ Table.after limit [] (before ++ mid), x.header.id ≠ r.header.id) →
      ∀ x ∈ Table.after limit [] (before ++ mid ++ later), x.header.id ≠ r.header.id
  /-- A read or an expiration leaves the rows of other ids as they are. -/
  others : ∀ before c, before ++ [c] <+: calls → ∀ id, c.operation.target? = some id →
    (Table.after limit [] (before ++ [c])).filter (fun r => !r.hasId id)
      = (Table.after limit [] before).filter fun r => !r.hasId id
  /-- A read of a live multi-use secret changes nothing. -/
  lasting : ∀ before c, before ++ [c] <+: calls → ∀ id m, c.operation.readId? = some id →
    utc c.now = .ok m → ∀ r ∈ Table.after limit [] before, r.header.id = id →
      r.isGone m = false → r.header.singleUse = false →
      Table.after limit [] (before ++ [c]) = Table.after limit [] before
  /-- No call but a purge makes a row disappear. -/
  kept : ∀ before c, before ++ [c] <+: calls → c.operation ≠ .purge →
    ∀ r ∈ Table.after limit [] before,
      ∃ r' ∈ Table.after limit [] (before ++ [c]), r'.StemsFrom r

/-- **Every run that can happen has this chronicle.** -/
theorem ran_chronicle (limit : Option Int) (calls : List Call) (h : Ran limit calls) :
    Chronicle limit calls where
  keyed := fun before _ => keyed_after limit [] Table.keyed_nil before
  valid := fun _ _ _ hr => valid_of_mem hr
  created := fun _ _ _ hr => created_of_mem hr
  evolved := fun _ _ hpart _ hr _ hr' hid => (h.of_isPrefix hpart).stems hr hr' hid
  absent := fun _ _ _ hpart _ hr habsent => (h.of_isPrefix hpart).stays_absent hr habsent
  others := by
    intro before c _ id hid
    rw [Table.after_concat]
    exact (c.change limit _).others hid
  lasting := fun _ _ hpart _ _ hc hm _ hr hid hlive hmulti =>
    (h.of_isPrefix hpart).lasting hc hm hr hid hlive hmulti
  kept := by
    intro before c _ hc r hr
    rw [Table.after_concat]
    exact (c.change limit _).kept hc hr

/-- The creation of a secret that can be read for a minute. -/
def lastingCreation : Call :=
  ⟨minute 0, .create (Text.hex 32 1) ⟨"alice", "c2VhbGVk", minute 1, false⟩⟩

/-- A reader that has loaded the secret ends its read at the deadline. -/
def lateRead : Call :=
  ⟨minute 1, .finish (Text.hex 32 1)
    ⟨Text.hex 32 1, "alice", some "c2VhbGVk", minute 0, minute 1, false⟩⟩

/-- The secret outlasts its late reader, and is purged a minute later. -/
theorem ran_chronicle_late :
    Ran none [lastingCreation, lateRead, ⟨minute 2, .purge⟩]
      ∧ Chronicle none [lastingCreation, lateRead, ⟨minute 2, .purge⟩]
      ∧ (Table.after none [] [lastingCreation, lateRead]).length = 1
      ∧ Table.after none [] [lastingCreation, lateRead, ⟨minute 2, .purge⟩] = [] := by
  have hcreated : Ran none ([] ++ [lastingCreation]) := by
    refine .snoc .nil (fun _ _ => List.not_mem_nil) ?_
    intro id loaded hc
    cases hc
  have hread : Ran none ([lastingCreation] ++ [lateRead]) := by
    refine .snoc hcreated ?_ ?_
    · intro id hid
      cases hid
    · intro id loaded hc
      injection hc with hid hloaded
      subst hid hloaded
      -- the row is as the creation made it
      exact ⟨[lastingCreation], List.prefix_rfl,
        ⟨⟨Text.hex 32 1, "alice", (minute 0).wall, (minute 1).wall, false⟩, some "c2VhbGVk"⟩,
        by decide, rfl, by decide⟩
  have hpurged : Ran none ([lastingCreation, lateRead] ++ [⟨minute 2, .purge⟩]) := by
    refine .snoc hread ?_ ?_
    · intro id hid
      cases hid
    · intro id loaded hc
      cases hc
  exact ⟨hpurged, ran_chronicle none _ hpurged, by decide, by decide⟩

end SealedDrop.Store
