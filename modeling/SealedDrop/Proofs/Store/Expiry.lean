/-
  SealedDrop.Proofs.Store.Expiry
  ──────────────────────────────
  **LAZY EXPIRY CANNOT BE TOLD FROM EAGER EXPIRY.**

  The store leaves an envelope in a row past its deadline until someone reads
  the row.  An eager store would clear every such row before each call.  The
  tables of the two drift apart, but only in envelopes that no call can see any
  more: sweeping the lazy table gives the eager one.

      Table.sweep — every envelope past its deadline cleared
      reports     — what a store says, call by call: results and all that
                    `Call.log` writes down

  A call on a swept table comes to the same result, says the same, and leaves
  the swept table of what it would have left (`Call.outcome_sweep`).  One lemma
  for each operation; the rest is an induction on the run, which needs that
  times do not decrease: what was swept away at one time is swept away at every
  later one (`Table.sweep_sweep`).

  Main results:
    • `Call.outcome_sweep`, `Call.log_sweep` — a call commutes with sweeping at
      its time, and writes down the same,
    • `eager_reports_lazy` — both stores report the same.
-/
import SealedDrop.Proofs.Store.Run

namespace SealedDrop.Store

open Journal (Entry)

/-! ## §1. Sweeping -/

/-- Whether the deadline of a row has passed; the time may lie outside the calendar. -/
def Row.isPast (now : Stamp) (r : Row) : Bool := (r.header.expiresAt.micros : Int) < now.instant

/-- The table with every envelope past its deadline cleared. -/
def Table.sweep (t : Table) (now : Stamp) : Table := t.clearWhere (Row.isPast now)

def Outcome.sweep {α : Type} (o : Outcome α) (now : Stamp) : Outcome α :=
  ⟨o.result, o.table.sweep now, o.entries⟩

/-- The store's clock and the sweep agree on what is past. -/
theorem Row.isPast_iff {now : Stamp} {m : Moment} (h : utc now = .ok m) {r : Row} :
    r.isPast now = true ↔ r.header.expiresAt < m := by
  have hm := instant_of_utc h
  unfold isPast
  rw [decide_eq_true_iff]
  show _ ↔ r.header.expiresAt.micros < m.micros
  omega

/-- Clearing a row keeps its deadline. -/
theorem Row.isPast_clearIf (now : Stamp) (p : Row → Bool) (r : Row) :
    (r.clearIf p).isPast now = r.isPast now := by
  unfold isPast
  rw [Row.clearIf_header]

/-- **What was swept away is swept away at every later time.** -/
theorem Table.sweep_sweep (t : Table) {a b : Stamp} (hab : a.instant ≤ b.instant) :
    (t.sweep a).sweep b = t.sweep b := by
  unfold sweep clearWhere
  rw [List.map_map]
  apply List.map_congr_left
  intro r _
  show (r.clearIf (Row.isPast a)).clearIf (Row.isPast b) = r.clearIf (Row.isPast b)
  unfold Row.clearIf
  by_cases ha : r.isPast a = true
  · have hb : r.isPast b = true := by
      unfold Row.isPast at ha ⊢
      rw [decide_eq_true_iff] at ha ⊢
      omega
    have hclear : r.clear.isPast b = true := hb
    rw [if_pos ha, if_pos hb, if_pos hclear]
    rfl
  · rw [if_neg ha]

/-- Sweeping commutes with any other clearing. -/
theorem Table.sweep_clearWhere (t : Table) (now : Stamp) (p : Row → Bool) :
    (t.sweep now).clearWhere p = (t.clearWhere p).sweep now := by
  unfold sweep clearWhere
  rw [List.map_map, List.map_map]
  apply List.map_congr_left
  intro r _
  show (r.clearIf (Row.isPast now)).clearIf p = (r.clearIf p).clearIf (Row.isPast now)
  by_cases hpast : r.isPast now = true
  · have hleft : r.clearIf (Row.isPast now) = r.clear := if_pos hpast
    have hright : (r.clearIf p).clearIf (Row.isPast now) = (r.clearIf p).clear :=
      if_pos ((Row.isPast_clearIf now p r).trans hpast)
    -- a cleared row stays as it is, picked or not
    rw [hleft, hright]
    unfold Row.clearIf
    by_cases hr : p r = true
    · rw [if_pos hr]
      exact ite_self _
    · rw [if_neg hr]
      exact ite_self _
  · have hleft : r.clearIf (Row.isPast now) = r := if_neg hpast
    have hright : (r.clearIf p).clearIf (Row.isPast now) = r.clearIf p :=
      if_neg ((Row.isPast_clearIf now p r).symm ▸ hpast)
    rw [hleft, hright]

/-! ## §2. What a swept table shows -/

section Shown

variable {now : Stamp} {m : Moment}

/-- A swept row is seen as before. -/
theorem Row.view_sweep (hm : utc now = .ok m) (r : Row) :
    (r.clearIf (Row.isPast now)).view m = r.view m := by
  unfold Row.clearIf
  by_cases hpast : r.isPast now = true
  · rw [if_pos hpast, Row.view_eq_expired_iff.mpr ⟨rfl, .inr ((Row.isPast_iff hm).mp hpast)⟩]
    exact Row.view_eq_expired_iff.mpr ⟨rfl, .inl rfl⟩
  · rw [if_neg hpast]

/-- Sweeping a table early changes no row's being gone: what it clears is past. -/
theorem Row.isGone_sweep (hm : utc now = .ok m) (r : Row) :
    (r.clearIf (Row.isPast now)).isGone m = r.isGone m := by
  unfold Row.clearIf
  by_cases hpast : r.isPast now = true
  · rw [if_pos hpast, Row.isGone_iff.mpr (.inr ((Row.isPast_iff hm).mp hpast))]
    rfl
  · rw [if_neg hpast]

/-- It frees no id. -/
theorem Table.contains_sweep (t : Table) (id : Text) : (t.sweep now).contains id = t.contains id := by
  unfold contains sweep clearWhere
  rw [List.any_map]
  congr 1
  funext r
  show decide ((r.clearIf (Row.isPast now)).header.id = id) = _
  rw [Row.clearIf_header]

/-- A lookup finds the same row, swept. -/
theorem Table.find?_sweep (t : Table) (id : Text) :
    (t.sweep now).find? id = (t.find? id).map (Row.clearIf (Row.isPast now)) := by
  unfold find? sweep clearWhere
  rw [List.find?_map]
  have hsame : ((fun r : Row => decide (r.header.id = id)) ∘ Row.clearIf (Row.isPast now))
      = fun r => decide (r.header.id = id) := by
    funext r
    show decide ((r.clearIf (Row.isPast now)).header.id = id) = _
    rw [Row.clearIf_header]
  exact congrArg (fun p => (List.find? p t).map (Row.clearIf (Row.isPast now))) hsame

/-- An owner's rows are the same rows, swept. -/
theorem Table.ofOwner_sweep (t : Table) (owner : Text) :
    (t.sweep now).ofOwner owner = (t.ofOwner owner).map (Row.clearIf (Row.isPast now)) := by
  -- neither the owner nor the time of creation depends on the envelope
  have howner : (t.sweep now).filter (fun r => r.header.owner = owner)
      = (t.filter fun r => r.header.owner = owner).map (Row.clearIf (Row.isPast now)) := by
    unfold sweep clearWhere
    rw [List.filter_map]
    refine congrArg (List.map _) (List.filter_congr ?_)
    intro r _
    show decide ((r.clearIf (Row.isPast now)).header.owner = owner) = _
    rw [Row.clearIf_header]
  unfold ofOwner
  rw [howner]
  refine (List.map_mergeSort ?_).symm
  intro a _ b _
  rw [Row.clearIf_header, Row.clearIf_header]

/-- A count that a sweep does not change is the same. -/
theorem Table.countWhere_sweep (t : Table) {p : Row → Bool}
    (hp : ∀ r, p (r.clearIf (Row.isPast now)) = p r) :
    (t.sweep now).countWhere p = t.countWhere p := by
  unfold countWhere sweep clearWhere
  rw [List.countP_map]
  exact List.countP_congr fun r _ => by rw [← hp r]; rfl

/-- A deletion and a sweep may change places. -/
theorem Table.dropWhere_sweep (t : Table) {p : Row → Bool}
    (hp : ∀ r, p (r.clearIf (Row.isPast now)) = p r) :
    (t.sweep now).dropWhere p = (t.dropWhere p).sweep now := by
  unfold dropWhere sweep clearWhere
  rw [List.filter_map]
  congr 1
  apply List.filter_congr
  intro r _
  show (!p (r.clearIf (Row.isPast now))) = !p r
  rw [hp]

end Shown

/-! ## §3. One operation on a swept table -/

section Operations

variable (limit : Option Int) (t : Table) (now : Stamp)

/-- A new row has a deadline ahead, so it is not swept away. -/
theorem create_sweep (id : Text) (q : Request) :
    (create limit (t.sweep now) id q now).1 = (create limit t id q now).1.sweep now := by
  unfold create
  cases hv : validate limit q now with
  | error e => rfl
  | ok times =>
    obtain ⟨created, expires⟩ := times
    obtain ⟨hnow, _, _, _, hahead⟩ := validate_eq_ok_iff.mp hv
    dsimp only
    cases encodable [id, q.owner, q.data] with
    | error e => rfl
    | ok _ =>
      dsimp only
      rw [Table.contains_sweep]
      cases t.contains id with
      | true => rfl
      | false =>
        -- a new row is not past: its deadline lies ahead of the call's own time
        have hnew : (q.row id created expires).clearIf (Row.isPast now) = q.row id created expires := by
          refine if_neg ?_
          rw [Row.isPast_iff hnow]
          intro hpast
          have hlt : expires.micros < created.micros := hpast
          exact hahead (Nat.le_of_lt hlt)
        have htable : (t.sweep now).insert (q.row id created expires)
            = (t.insert (q.row id created expires)).sweep now := by
          unfold Table.insert Table.sweep Table.clearWhere
          rw [List.map_append, List.map_singleton]
          congr 2
          exact hnew.symm
        exact congrArg (Outcome.mk _ · _) htable

/-- **`list` cannot tell whether the table was swept.** -/
theorem list_sweep (owner : Text) : list (t.sweep now) owner now = (list t owner now).sweep now := by
  unfold list
  cases hm : utc now with
  | error e => rfl
  | ok m =>
    dsimp only
    cases encodable [owner] with
    | error e => rfl
    | ok _ =>
      have hviews : ((t.sweep now).ofOwner owner).map (fun r => r.view m)
          = (t.ofOwner owner).map fun r => r.view m := by
        rw [Table.ofOwner_sweep, List.map_map]
        exact List.map_congr_left fun r _ => Row.view_sweep hm r
      exact congrArg (fun views => Outcome.mk (.ok views) (t.sweep now) []) hviews

/-- The first half of `get` loads the same row, swept. -/
theorem load_sweep (id : Text) :
    load (t.sweep now) id = (load t id).map (Row.clearIf (Row.isPast now)) := by
  unfold load
  cases encodable [id] with
  | error e => rfl
  | ok _ =>
    dsimp only
    rw [Table.find?_sweep]
    cases t.find? id with
    | none => rfl
    | some r => rfl

/-- A read that decides on the row in the table decides the same on a swept table. -/
theorem finished_sweep {m : Moment} (hm : utc now = .ok m) {r : Row} (hr : r ∈ t) :
    finished (t.sweep now) r.header.id (r.clearIf (Row.isPast now)) m
      = (finished t r.header.id r m).sweep now := by
  have hview := Row.view_sweep hm r
  cases hv : r.view m with
  | expired h =>
    rw [hv] at hview
    unfold finished
    rw [finish_of_expired hview, finish_of_expired hv, Table.sweep_clearWhere]
    rfl
  | live h d =>
    rw [hv] at hview
    obtain ⟨rfl, hdata, hdue⟩ := Row.view_eq_live_iff.mp hv
    cases hs : r.header.singleUse with
    | false =>
      unfold finished
      rw [finish_of_lasting hview hs, finish_of_lasting hv hs]
      rfl
    | true =>
      -- the row is still due, so its envelope is there on both sides
      have hkept : r.clearIf (Row.isPast now) = r :=
        if_neg fun hpast => hdue ((Row.isPast_iff hm).mp hpast)
      have hpresent : ¬ ∀ x ∈ t, x.header.id = r.header.id → x.data = none := by
        intro hnone
        rw [hnone r hr rfl] at hdata
        cases hdata
      have hpresent' : ¬ ∀ x ∈ t.sweep now, x.header.id = r.header.id → x.data = none := by
        intro hnone
        rw [hnone r (List.mem_map.mpr ⟨r, hr, hkept⟩) rfl] at hdata
        cases hdata
      obtain ⟨hl, htl⟩ := finish_of_present hview hs hpresent'
      obtain ⟨hr', htr⟩ := finish_of_present hv hs hpresent
      have hel := finish_entries_of_present hview hs hpresent'
      have her := finish_entries_of_present hv hs hpresent
      unfold finished
      rw [hl, htl, hel, hr', htr, her, Table.sweep_clearWhere]
      rfl

/-- **`get` cannot tell it either**, and leaves the same table, swept. -/
theorem get_sweep (id : Text) : get (t.sweep now) id now = (get t id now).sweep now := by
  unfold get
  cases hm : utc now with
  | error e => rfl
  | ok m =>
    dsimp only
    rw [load_sweep]
    rcases load_cases t id with ⟨r, hr, rfl, hl⟩ | ⟨_, hl⟩ | ⟨e, _, hl⟩
    · rw [hl]
      exact finished_sweep t now hm hr
    · rw [hl]
      rfl
    · rw [hl]
      rfl

/-- An expiration does not look at the time, so it commutes with sweeping at any. -/
theorem expire_sweep (id : Text) (owner : Option Text) :
    expire (t.sweep now) id owner = (expire t id owner).sweep now := by
  unfold expire
  cases encodable (id :: owner.toList) with
  | error e => rfl
  | ok _ =>
    have hcount : (t.sweep now).countWhere (Row.isOf id owner) = t.countWhere (Row.isOf id owner) := by
      refine Table.countWhere_sweep t ?_
      intro r
      unfold Row.isOf
      rw [Row.clearIf_header]
    have htable : (t.sweep now).clearWhere (Row.isOf id owner)
        = (t.clearWhere (Row.isOf id owner)).sweep now := Table.sweep_clearWhere t now _
    show Outcome.mk _ ((t.sweep now).clearWhere (Row.isOf id owner))
      [.info (_ ++ Text.ofNat ((t.sweep now).countWhere (Row.isOf id owner)) ++ _)] = _
    rw [hcount, htable]
    rfl

/-- What is swept away is purged as well as what it is swept from. -/
theorem purge_sweep : purge (t.sweep now) now = (purge t now).sweep now := by
  unfold purge
  cases hm : utc now with
  | error e => rfl
  | ok m =>
    have hgone : ∀ r : Row, (r.clearIf (Row.isPast now)).isGone m = r.isGone m :=
      fun r => Row.isGone_sweep hm r
    have hcount := Table.countWhere_sweep t hgone
    have htable := Table.dropWhere_sweep t hgone
    show Outcome.mk (.ok ((t.sweep now).countWhere (Row.isGone m)))
      ((t.sweep now).dropWhere (Row.isGone m))
      [.info (_ ++ Text.ofNat ((t.sweep now).countWhere (Row.isGone m)) ++ _)] = _
    rw [hcount, htable]
    rfl

/-- **A call commutes with sweeping at its time**, unless it ends a read that was begun earlier. -/
theorem Call.outcome_sweep (c : Call) (hc : c.operation.isLate = false) :
    c.outcome limit (t.sweep c.now) = (c.outcome limit t).sweep c.now := by
  obtain ⟨now, operation⟩ := c
  cases operation with
  | create id q => exact congrArg (Outcome.map Answer.created) (create_sweep limit t now id q)
  | list owner => exact congrArg (Outcome.map Answer.listed) (list_sweep t now owner)
  | get id => exact congrArg (Outcome.map Answer.read) (get_sweep t now id)
  | finish id loaded => cases hc
  | expire id owner =>
    exact congrArg (Outcome.map fun _ => Answer.expired) (expire_sweep t now id owner)
  | purge => exact congrArg (Outcome.map Answer.purged) (purge_sweep t now)

/-- **So it writes down the same**, details included: they hang on its answer and on nothing else. -/
theorem Call.log_sweep (c : Call) (hc : c.operation.isLate = false) :
    c.log limit (t.sweep c.now) = c.log limit t := by
  unfold Call.log
  rw [Call.outcome_sweep limit t c hc]
  rfl

end Operations

/-! ## §4. Two stores -/

/-- What is seen of a call: its result, and all that it writes down. -/
structure Report where
  result : Except Error Answer
  log : List Entry

/-- What is seen of a call on a table. -/
def Call.report (limit : Option Int) (t : Table) (c : Call) : Report :=
  ⟨(c.outcome limit t).result, c.log limit t⟩

/-- The store as it is: it does nothing to its table before a call. -/
def lazily (_ : Stamp) (t : Table) : Table := t

/-- The store that clears every envelope past its deadline before each call. -/
def eagerly (now : Stamp) (t : Table) : Table := t.sweep now

/-- What a store reports, call by call, that prepares its table before each of them. -/
def reports (limit : Option Int) (prepare : Stamp → Table → Table) (t : Table) :
    List Call → List Report
  | [] => []
  | c :: calls =>
    let ready := prepare c.now t
    c.report limit ready :: reports limit prepare (c.outcome limit ready).table calls

/-- The table that a store leaves that prepares its table before each call. -/
def leaves (limit : Option Int) (prepare : Stamp → Table → Table) (t : Table) (calls : List Call) :
    Table :=
  calls.foldl (fun t c => (c.outcome limit (prepare c.now t)).table) t

/-- Two tables that cannot be told apart once swept give the same reports. -/
theorem reports_of_sweep (limit : Option Int) (calls : List Call)
    (hwhole : ∀ c ∈ calls, c.operation.isLate = false)
    (htimes : (calls.map fun c => c.now.instant).Pairwise (· ≤ ·)) (t e : Table)
    (hsweep : ∀ c ∈ calls, e.sweep c.now = t.sweep c.now) :
    reports limit eagerly e calls = reports limit lazily t calls := by
  induction calls generalizing t e with
  | nil => rfl
  | cons c calls ih =>
    rw [List.map_cons, List.pairwise_cons] at htimes
    have hready : eagerly c.now e = t.sweep c.now := hsweep c List.mem_cons_self
    have hout : c.outcome limit (t.sweep c.now) = (c.outcome limit t).sweep c.now :=
      Call.outcome_sweep limit t c (hwhole c List.mem_cons_self)
    have hreport : c.report limit (t.sweep c.now) = c.report limit t := by
      unfold Call.report
      rw [hout, Call.log_sweep limit t c (hwhole c List.mem_cons_self)]
      rfl
    -- the table left is the swept one, and stays so under every later sweep
    have hnext : ∀ c' ∈ calls, ((c.outcome limit t).sweep c.now).table.sweep c'.now
        = (c.outcome limit t).table.sweep c'.now :=
      fun c' hc' => Table.sweep_sweep _ (htimes.1 _ (List.mem_map.mpr ⟨c', hc', rfl⟩))
    unfold reports
    dsimp only
    rw [hready, hreport, hout,
      ih (fun x hx => hwhole x (List.mem_cons_of_mem _ hx)) htimes.2 _ _ hnext]
    rfl

/-- **Lazy expiry is eager expiry, for all that can be seen.**  Over every run of whole calls at
times that do not decrease, from any table, the two stores give the same result and write down the
same at every call, warnings, notes and details. -/
theorem eager_reports_lazy (limit : Option Int) (t : Table) (calls : List Call)
    (hwhole : ∀ c ∈ calls, c.operation.isLate = false)
    (htimes : (calls.map fun c => c.now.instant).Pairwise (· ≤ ·)) :
    reports limit eagerly t calls = reports limit lazily t calls :=
  reports_of_sweep limit calls hwhole htimes t t fun _ _ => rfl

/-- A secret that can be read for a minute, and what is asked of it later. -/
def overdueCalls : List Call :=
  [⟨minute 0, .create (Text.hex 32 1) ⟨"alice", "c2VhbGVk", minute 1, false⟩⟩,
   ⟨minute 2, .list "alice"⟩, ⟨minute 2, .get (Text.hex 32 1)⟩, ⟨minute 3, .purge⟩]

/-- The reports agree although, once the secret is overdue, the tables do not; the listing and the
read have left their details. -/
theorem eager_reports_lazy_overdue :
    (∀ c ∈ overdueCalls, c.operation.isLate = false)
      ∧ (overdueCalls.map fun c => c.now.instant).Pairwise (· ≤ ·)
      ∧ reports none eagerly [] overdueCalls = reports none lazily [] overdueCalls
      ∧ (((reports none lazily [] overdueCalls).drop 1).take 2).map Report.log
          = [[listedEntry "alice" 1], [readEntry (Text.hex 32 1) true]]
      ∧ leaves none eagerly [] (overdueCalls.take 2) ≠ leaves none lazily [] (overdueCalls.take 2) := by
  have hwhole : ∀ c ∈ overdueCalls, c.operation.isLate = false := by decide
  have htimes : (overdueCalls.map fun c => c.now.instant).Pairwise (· ≤ ·) := by decide
  exact ⟨hwhole, htimes, eager_reports_lazy none [] overdueCalls hwhole htimes, by decide +kernel,
    by decide⟩

end SealedDrop.Store
