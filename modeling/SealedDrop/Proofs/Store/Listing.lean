/-
  SealedDrop.Proofs.Store.Listing
  ───────────────────────────────
  **A LISTING SHOWS ALL AND TOUCHES NOTHING.**

  `Store.list` shows an owner every secret, the oldest first, and of those that
  are over no envelope.  It neither uses up what one `get` uses up nor clears
  what is past its deadline, so nobody else can tell whether, when or how often
  anybody has looked.

      Arranges     — the rows of an owner, as the database puts them in order
      Lists        — what a listing shows, or why it fails
      Padded       — a list, and the list with elements of one kind put in
      Table.steps  — a run, with all that comes of each call

  The database orders texts and the law speaks of moments; the two agree
  (`columnText_le_iff`).

  Main results:
    • `arranges_ofOwner` — the rows of an owner are all there, in order,
    • `lists_list` — one listing,
    • `steps_padded` — a run and the run with listings put in,
    • `listing_shows_all_and_touches_nothing` — both, for every table and run,
    • `listing_fails` — but not every clock and name can be listed for.
-/
import SealedDrop.Proofs.Store.Purge

namespace SealedDrop.Store

open Journal (Entry)

/-! ## §1. One listing -/

/-- Rows are those of an owner in a table, each as often as it stands there, the oldest first. -/
structure Arranges (t : Table) (owner : Text) (rows : List Row) : Prop where
  complete : rows.Perm (t.filter fun r => r.header.owner = owner)
  ordered : rows.Pairwise fun a b => a.header.createdAt ≤ b.header.createdAt
  /-- The texts in the column are in order, sign by sign. -/
  columns : (rows.map Row.record).Pairwise fun a b => Text.le a.createdAt b.createdAt = true

theorem arranges_ofOwner (t : Table) (owner : Text) : Arranges t owner (t.ofOwner owner) := by
  have hordered : (t.ofOwner owner).Pairwise fun a b => a.header.createdAt ≤ b.header.createdAt := by
    have htrans : ∀ a b c : Row, decide (a.header.createdAt ≤ b.header.createdAt) = true →
        decide (b.header.createdAt ≤ c.header.createdAt) = true →
        decide (a.header.createdAt ≤ c.header.createdAt) = true := by
      intro a b c hab hbc
      rw [decide_eq_true_iff] at hab hbc ⊢
      exact Nat.le_trans hab hbc
    have htotal : ∀ a b : Row, (decide (a.header.createdAt ≤ b.header.createdAt)
        || decide (b.header.createdAt ≤ a.header.createdAt)) = true := by
      intro a b
      rw [Bool.or_eq_true, decide_eq_true_iff, decide_eq_true_iff]
      exact Nat.le_total _ _
    exact (List.pairwise_mergeSort htrans htotal _).imp of_decide_eq_true
  refine ⟨List.mergeSort_perm _ _, hordered, ?_⟩
  rw [List.pairwise_map]
  exact hordered.imp fun hle => Moment.columnText_le_iff.mpr hle

/-- What a listing for an owner comes to at a time. -/
structure Lists (t : Table) (owner : Text) (now : Stamp) (o : Outcome (List View)) : Prop where
  /-- It shows the rows of the owner as the columns say them, and an envelope only of what is not
  over. -/
  shown : ¬ now.Outlying → owner.isScalar = true → ∃ (m : Moment) (rows : List Row),
    (m.micros : Int) = now.instant ∧ Arranges t owner rows
      ∧ o.result = .ok (rows.map fun r => r.view m)
      ∧ ∀ r ∈ rows, r.record.shown m = some (r.view m)
          ∧ (r.view m).data?
              = if r.data = none ∨ (r.header.expiresAt.micros : Int) < now.instant then none
                else r.data
  /-- A clock that UTC cannot show has no listing. -/
  clockless : now.Outlying → o.result = .error .outOfCalendar
  /-- Nor has a name without a UTF-8 form. -/
  nameless : ¬ now.Outlying → owner.isScalar = false → ∃ f, o.result = .error (.unencodable f)
  /-- Whatever it comes to, the table is left as it is. -/
  kept : o.table = t
  /-- Nothing is written down. -/
  silent : o.entries = []

theorem Row.data?_view (r : Row) (m : Moment) :
    (r.view m).data? = if r.data = none ∨ r.header.expiresAt < m then none else r.data := by
  cases hgone : r.isGone m with
  | true =>
    rw [Row.view_of_isGone hgone, if_pos (Row.isGone_iff.mp hgone)]
    rfl
  | false =>
    obtain ⟨d, hd, hv⟩ := Row.view_of_not_isGone hgone
    have hnot : ¬ (r.data = none ∨ r.header.expiresAt < m) := by
      intro hgone'
      rw [Row.isGone_iff.mpr hgone'] at hgone
      cases hgone
    rw [hv, if_neg hnot, hd]
    rfl

/-- **One listing**: for every table, owner and clock. -/
theorem lists_list (t : Table) (owner : Text) (now : Stamp) :
    Lists t owner now (list t owner now) := by
  refine ⟨?shown, ?clockless, ?nameless, list_table t owner now, ?silent⟩
  case shown =>
    intro hin howner
    obtain ⟨m, hm⟩ := exists_utc hin
    have hwritable : encodable [owner] = .ok () := encodable_eq_ok_iff.mpr (by simp [howner])
    have hinstant := instant_of_utc hm
    refine ⟨m, t.ofOwner owner, hinstant, arranges_ofOwner t owner, ?_, ?_⟩
    · unfold list
      rw [hm]
      dsimp only
      rw [hwritable]
    · intro r _
      -- a deadline is past as an instant exactly when it is as a moment
      have hpast : (r.header.expiresAt.micros : Int) < now.instant ↔ r.header.expiresAt < m := by
        rw [← hinstant]
        exact Int.ofNat_lt
      simp only [hpast]
      exact ⟨shown_record r m, r.data?_view m⟩
  case clockless =>
    intro hout
    unfold list
    rw [utc_eq_error_iff.mpr ⟨rfl, hout⟩]
    rfl
  case nameless =>
    intro hin howner
    obtain ⟨m, hm⟩ := exists_utc hin
    cases he : encodable [owner] with
    | error e =>
      obtain ⟨f, rfl⟩ := encodable_eq_error he
      refine ⟨f, ?_⟩
      unfold list
      rw [hm]
      dsimp only
      rw [he]
      rfl
    | ok _ =>
      rw [encodable_eq_ok_iff.mp he owner List.mem_cons_self] at howner
      cases howner
  case silent =>
    rcases list_cases t owner now with ⟨m, _, hl⟩ | ⟨e, hl⟩
    · rw [hl]
    · rw [hl]
      rfl

/-! ## §2. Runs with listings put in -/

/-- A list, and the list with elements of one kind put in anywhere. -/
inductive Padded {α : Type} (extra : α → Prop) : List α → List α → Prop where
  | nil : Padded extra [] []
  | keep (a : α) {as bs : List α} (rest : Padded extra as bs) : Padded extra (a :: as) (a :: bs)
  | put {b : α} (isExtra : extra b) {as bs : List α} (rest : Padded extra as bs) :
      Padded extra as (b :: bs)

def Call.IsListing (c : Call) : Prop := ∃ owner, c.operation = .list owner

/-- A call that was carried out, and all that came of it. -/
structure Step where
  call : Call
  result : Except Error Answer
  log : List Entry
  /-- The table afterwards. -/
  table : Table

/-- Calls in order, with all that comes of each. -/
def Table.steps (limit : Option Int) (t : Table) : List Call → List Step
  | [] => []
  | c :: calls =>
    ⟨c, (c.outcome limit t).result, c.log limit t, (c.outcome limit t).table⟩
      :: steps limit (c.outcome limit t).table calls

theorem Call.IsListing.table {c : Call} (h : c.IsListing) (limit : Option Int) (t : Table) :
    (c.outcome limit t).table = t := by
  obtain ⟨now, operation⟩ := c
  obtain ⟨owner, rfl⟩ := h
  exact list_table t owner now

/-- **Listings that are put into a run change nothing that comes of the other calls.** -/
theorem steps_padded (limit : Option Int) (t : Table) {calls more : List Call}
    (h : Padded Call.IsListing calls more) :
    Padded (fun s => s.call.IsListing) (t.steps limit calls) (t.steps limit more)
      ∧ t.after limit calls = t.after limit more := by
  induction h generalizing t with
  | nil => exact ⟨.nil, rfl⟩
  | keep c rest ih =>
    obtain ⟨hsteps, hafter⟩ := ih (c.outcome limit t).table
    exact ⟨.keep _ hsteps, hafter⟩
  | @put c isListing calls more rest ih =>
    -- the listing leaves the table on which the rest runs
    have hrest := ih (c.outcome limit t).table
    have htable : (c.outcome limit t).table = t := isListing.table limit t
    have hcalls : t.steps limit calls = (c.outcome limit t).table.steps limit calls := by
      rw [htable]
    have hafter : t.after limit calls = (c.outcome limit t).table.after limit calls := by
      rw [htable]
    rw [hcalls, hafter]
    refine ⟨.put ?_ hrest.1, hrest.2⟩
    exact isListing

/-! ## §3. The law -/

/-- **A listing shows all and touches nothing**: one listing, of any table, and any run of calls into
which listings are put. -/
theorem listing_shows_all_and_touches_nothing (limit : Option Int) (t : Table) :
    (∀ owner now, Lists t owner now (list t owner now))
      ∧ ∀ calls more, Padded Call.IsListing calls more →
          Padded (fun s => s.call.IsListing) (t.steps limit calls) (t.steps limit more)
            ∧ t.after limit calls = t.after limit more :=
  ⟨lists_list t, fun _ _ h => steps_padded limit t h⟩

/-- A read after the deadline, while others look. -/
def watchedRead : List Call :=
  [⟨minute 2, .list "alice"⟩, aheadRead, ⟨beyondCalendar, .list "bob"⟩, ⟨minute 3, .list "alice"⟩]

/-- The rows of one owner, and a read that clears one of them: it clears it whether or not it is
watched. -/
theorem listing_shows_all_and_touches_nothing_threeRows :
    (∃ rows, Arranges threeRows "alice" rows ∧ ∃ m : Moment, (m.micros : Int) = (minute 2).instant
        ∧ (list threeRows "alice" (minute 2)).result = .ok (rows.map fun r => r.view m))
      ∧ Padded Call.IsListing [aheadRead] watchedRead
      ∧ Padded (fun s => s.call.IsListing) (threeRows.steps none [aheadRead])
          (threeRows.steps none watchedRead)
      ∧ threeRows.after none [aheadRead] = threeRows.after none watchedRead
      ∧ threeRows.after none [aheadRead] ≠ threeRows := by
  obtain ⟨hlists, hpads⟩ := listing_shows_all_and_touches_nothing none threeRows
  obtain ⟨m, rows, hm, hrows, hresult, _⟩ := (hlists "alice" (minute 2)).shown (by decide) (by decide)
  have hwatched : Padded Call.IsListing [aheadRead] watchedRead :=
    .put ⟨_, rfl⟩ (.keep _ (.put ⟨_, rfl⟩ (.put ⟨_, rfl⟩ .nil)))
  obtain ⟨hsteps, hafter⟩ := hpads _ _ hwatched
  exact ⟨⟨rows, hrows, m, hm, hresult⟩, hwatched, hsteps, hafter, by decide⟩

/-- **A listing can fail**: on an empty table there is nothing to show, but neither a clock that UTC
cannot show nor a name with a lone surrogate is answered so. -/
theorem listing_fails :
    (list [] "alice" beyondCalendar).result ≠ .ok []
      ∧ (list [] [0xD800] (minute 0)).result ≠ .ok [] := by
  decide

end SealedDrop.Store
