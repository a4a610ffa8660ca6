/-
  SealedDrop.Proofs.Store.Owners
  ──────────────────────────────
  **OWNERS DO NOT INTERFERE.**

  All owners share one table, and anybody may name anybody's id.  Still an owner
  can be served as if nobody else used the store: leave out of a run whatever
  the others create, list and expire, and the owner's rows are the same after
  every call that is left, and so is all that the owner is told.

  The argument compares every table with the owner's part of it.  A call of
  somebody else leaves that part alone (`rowsOf_of_foreign`).  A call that
  concerns the owner does on the whole table what it does on the part
  (`Call.outcome_rowsOf`), because ids part the owner's rows from those of the
  others (`Parted`).  What is left are purges, which treat every row by itself,
  and calls with ids of others, which touch no row of the owner.

  Main results:
    • `finish_rowsOf`, `Call.outcome_rowsOf` — a call on the owner's part,
    • `Parted.after` — ids part the rows after every run,
    • `rowsOf_after` — the owner's part after a run and after what is left of it,
    • `owners_do_not_interfere` — so the owner cannot tell the two runs apart.
-/
import SealedDrop.Proofs.Store.Run

namespace SealedDrop.Store

/-! ## §1. The part of an owner -/

/-- The rows of an owner, in order of insertion. -/
def Table.rowsOf (t : Table) (u : Text) : Table := t.filter fun r => r.header.owner = u

namespace Table

variable {t : Table} {u : Text}

/-- The rows of a user are those with the name in the column of owners. -/
theorem mem_rowsOf {r : Row} : r ∈ t.rowsOf u ↔ r ∈ t ∧ r.header.owner = u := by
  unfold rowsOf
  rw [List.mem_filter, decide_eq_true_iff]

/-- A row of the user is inserted into the user's part of the table. -/
theorem rowsOf_insert_own (t : Table) {r : Row} (h : r.header.owner = u) :
    (t.insert r).rowsOf u = (t.rowsOf u).insert r := by
  unfold insert rowsOf
  rw [List.filter_append, List.filter_singleton, decide_eq_true h]
  rfl

/-- A row of somebody else does not show there. -/
theorem rowsOf_insert_other (t : Table) {r : Row} (h : r.header.owner ≠ u) :
    (t.insert r).rowsOf u = t.rowsOf u := by
  unfold insert rowsOf
  rw [List.filter_append, List.filter_singleton, decide_eq_false h]
  exact List.append_nil _

/-- Clearing acts on every part by itself. -/
theorem rowsOf_clearWhere (t : Table) (u : Text) (p : Row → Bool) :
    (t.clearWhere p).rowsOf u = (t.rowsOf u).clearWhere p := by
  unfold clearWhere rowsOf
  rw [List.filter_map]
  refine congrArg (List.map _) (List.filter_congr ?_)
  intro r _
  show decide ((r.clearIf p).header.owner = u) = _
  rw [Row.clearIf_header]

/-- Clearing rows of others changes no row of the owner. -/
theorem rowsOf_clearWhere_other {p : Row → Bool}
    (hp : ∀ r ∈ t, p r = true → r.header.owner ≠ u) : (t.clearWhere p).rowsOf u = t.rowsOf u := by
  rw [rowsOf_clearWhere]
  unfold clearWhere
  have hkept : ∀ r ∈ t.rowsOf u, (if p r = true then r.clear else r) = r := by
    intro r hr
    obtain ⟨hrt, howner⟩ := mem_rowsOf.mp hr
    rw [if_neg fun hpick => hp r hrt hpick howner]
  rw [List.map_congr_left hkept, List.map_id']

/-- So does a deletion. -/
theorem rowsOf_dropWhere (t : Table) (u : Text) (p : Row → Bool) :
    (t.dropWhere p).rowsOf u = (t.rowsOf u).dropWhere p := by
  unfold dropWhere rowsOf
  rw [List.filter_filter, List.filter_filter]
  apply List.filter_congr
  intro r _
  exact Bool.and_comm _ _

/-- A condition that picks only rows of the owner picks as many in the owner's part. -/
theorem countWhere_rowsOf {p : Row → Bool} (hp : ∀ r ∈ t, p r = true → r.header.owner = u) :
    (t.rowsOf u).countWhere p = t.countWhere p := by
  unfold countWhere rowsOf
  rw [List.countP_filter]
  apply List.countP_congr
  intro r hr
  rw [Bool.and_eq_true, decide_eq_true_iff]
  exact ⟨fun h => h.1, fun h => ⟨h, hp r hr h⟩⟩

/-- A row of an id of the owner is found in the owner's part. -/
theorem find?_rowsOf {id : Text} (hid : ∀ r ∈ t, r.header.id = id → r.header.owner = u) :
    (t.rowsOf u).find? id = t.find? id := by
  unfold find? rowsOf
  rw [List.find?_filter]
  induction t with
  | nil => rfl
  | cons r t ih =>
    have hrest := ih fun x hx => hid x (List.mem_cons_of_mem _ hx)
    by_cases hr : r.header.id = id
    · have howner := hid r List.mem_cons_self hr
      rw [List.find?_cons_of_pos, List.find?_cons_of_pos]
      · exact decide_eq_true hr
      · simp [hr, howner]
    · rw [List.find?_cons_of_neg, List.find?_cons_of_neg, hrest]
      · simp [hr]
      · simp [hr]

/-- An id that only the user has is taken in the user's part exactly when it is taken at all. -/
theorem contains_rowsOf {id : Text} (hid : ∀ r ∈ t, r.header.id = id → r.header.owner = u) :
    (t.rowsOf u).contains id = t.contains id := by
  rw [Bool.eq_iff_iff]
  unfold contains
  simp only [List.any_eq_true, decide_eq_true_eq, mem_rowsOf]
  constructor
  · rintro ⟨r, ⟨hr, _⟩, hrid⟩
    exact ⟨r, hr, hrid⟩
  · rintro ⟨r, hr, hrid⟩
    exact ⟨r, ⟨hr, hid r hr hrid⟩, hrid⟩

/-- The rows that `list` shows of the user are all in the user's part. -/
theorem ofOwner_rowsOf (t : Table) (u : Text) : (t.rowsOf u).ofOwner u = t.ofOwner u := by
  unfold ofOwner rowsOf
  rw [List.filter_filter]
  congr 2
  funext r
  exact Bool.and_self _

end Table

/-- What an operation leaves of the rows of an owner. -/
def Outcome.rowsOf {α : Type} (o : Outcome α) (u : Text) : Outcome α :=
  ⟨o.result, o.table.rowsOf u, o.entries⟩

/-! ## §2. Operations on the part of an owner -/

section Operations

variable {t : Table} {u : Text} {id : Text}

/-- A creation of the owner under an id that nobody else has. -/
theorem create_rowsOf (limit : Option Int) {q : Request} (now : Stamp) (hq : q.owner = u)
    (hid : ∀ r ∈ t, r.header.id = id → r.header.owner = u) :
    (create limit (t.rowsOf u) id q now).1 = (create limit t id q now).1.rowsOf u := by
  unfold create
  cases validate limit q now with
  | error e => rfl
  | ok times =>
    obtain ⟨created, expires⟩ := times
    dsimp only
    cases encodable [id, q.owner, q.data] with
    | error e => rfl
    | ok _ =>
      dsimp only
      rw [Table.contains_rowsOf hid]
      cases t.contains id with
      | true => rfl
      | false =>
        -- the new row is the user's own
        have htable : (t.insert (q.row id created expires)).rowsOf u
            = (t.rowsOf u).insert (q.row id created expires) := Table.rowsOf_insert_own t hq
        exact congrArg (Outcome.mk _ · _) htable.symm

/-- **`list` for the user only depends on the user's rows**, with its log. -/
theorem list_rowsOf (t : Table) (u : Text) (now : Stamp) :
    list (t.rowsOf u) u now = (list t u now).rowsOf u := by
  unfold list
  cases utc now with
  | error e => rfl
  | ok m =>
    dsimp only
    cases encodable [u] with
    | error e => rfl
    | ok _ =>
      dsimp only
      rw [Table.ofOwner_rowsOf]
      rfl

/-- The end of a read of an id of the owner. -/
theorem finish_rowsOf (hid : ∀ r ∈ t, r.header.id = id → r.header.owner = u) (loaded : Row)
    (m : Moment) :
    finish (t.rowsOf u) id loaded m
      = ((finish t id loaded m).1, (finish t id loaded m).2.1.rowsOf u,
          (finish t id loaded m).2.2) := by
  -- all rows of the id are the user's, so both updates count the same
  have hcount : (t.rowsOf u).countWhere (fun r => decide (r.header.id = id) && r.data.isSome)
      = t.countWhere (fun r => decide (r.header.id = id) && r.data.isSome) := by
    refine Table.countWhere_rowsOf ?_
    intro r hr hpick
    rw [Bool.and_eq_true, decide_eq_true_iff] at hpick
    exact hid r hr hpick.1
  unfold finish
  cases loaded.view m with
  | expired h =>
    dsimp only
    rw [Table.rowsOf_clearWhere]
  | live h d =>
    dsimp only
    rw [hcount]
    by_cases hs : h.singleUse = true
    · rw [if_pos hs, if_pos hs]
      split
      next => rw [Table.rowsOf_clearWhere]
      next => rw [Table.rowsOf_clearWhere]
    · rw [if_neg hs, if_neg hs]

/-- **So does `get` of an id of the user**, in result, log and table. -/
theorem get_rowsOf (hid : ∀ r ∈ t, r.header.id = id → r.header.owner = u) (now : Stamp) :
    get (t.rowsOf u) id now = (get t id now).rowsOf u := by
  unfold get load
  rw [Table.find?_rowsOf hid]
  cases utc now with
  | error e => rfl
  | ok m =>
    cases encodable [id] with
    | error e => rfl
    | ok _ =>
      cases t.find? id with
      | none => rfl
      | some r =>
        dsimp only
        rw [finish_rowsOf hid r m]
        rfl

/-- And the second half of `get`, whatever was loaded before. -/
theorem getStale_rowsOf (hid : ∀ r ∈ t, r.header.id = id → r.header.owner = u) (loaded : Snapshot)
    (now : Stamp) : getStale (t.rowsOf u) id loaded now = (getStale t id loaded now).rowsOf u := by
  unfold getStale
  cases utc now with
  | error e => rfl
  | ok m =>
    cases loaded.toRow with
    | error e => rfl
    | ok r =>
      dsimp only
      cases (if clears r m then encodable [id] else .ok ()) with
      | error e => rfl
      | ok _ =>
        dsimp only
        rw [finish_rowsOf hid r m]
        rfl

/-- An expiration that picks rows of the owner at most. -/
theorem expire_rowsOf {owner : Option Text}
    (hown : ∀ r ∈ t, r.isOf id owner = true → r.header.owner = u) :
    expire (t.rowsOf u) id owner = (expire t id owner).rowsOf u := by
  unfold expire
  cases encodable (id :: owner.toList) with
  | error e => rfl
  | ok _ =>
    show Outcome.mk _ ((t.rowsOf u).clearWhere (Row.isOf id owner))
      [.info (_ ++ Text.ofNat ((t.rowsOf u).countWhere (Row.isOf id owner)) ++ _)] = _
    rw [Table.countWhere_rowsOf hown, ← Table.rowsOf_clearWhere]
    rfl

end Operations

/-! ## §3. Calls of the owner and of others -/

/-- The owner that an operation speaks for. A read speaks for nobody, nor does an expiration that
names no owner, nor a purge. -/
def Operation.owner? : Operation → Option Text
  | .create _ q => some q.owner
  | .list owner => some owner
  | .expire _ owner => owner
  | _ => none

/-- A call that speaks for another owner. -/
def Call.isForeign (u : Text) (c : Call) : Bool := c.operation.owner?.any fun o => o ≠ u

/-- A run without the calls that speak for other owners. -/
def withoutOthers (u : Text) (calls : List Call) : List Call := calls.filter fun c => !c.isForeign u

/-- The ids of an owner: those of the owner's rows, and those drawn for what the owner creates. -/
def idsOf (u : Text) (t : Table) (calls : List Call) : List Text :=
  (t.rowsOf u).map (fun r => r.header.id)
    ++ drawnIds (calls.filter fun c => c.operation.owner? = some u)

/-- A call that concerns an owner: it speaks for the owner, or for nobody and names an id of the
owner. -/
def Call.Concerns (u : Text) (ids : List Text) (c : Call) : Prop :=
  c.operation.owner? = some u
    ∨ c.operation.owner? = none ∧ ∃ id ∈ ids, c.operation.target? = some id

/-- Ids part the rows of an owner from those of others. -/
def Table.Parted (u : Text) (ids : List Text) (t : Table) : Prop :=
  ∀ r ∈ t, r.header.id ∈ ids ↔ r.header.owner = u

/-- A call draws an id of the owner if it creates for the owner, and no such id if it creates for
somebody else. -/
def Call.DrawsFor (u : Text) (ids : List Text) (c : Call) : Prop :=
  ∀ id q, c.operation = .create id q → (id ∈ ids ↔ q.owner = u)

section Calls

variable {limit : Option Int} {t t' : Table} {u : Text} {ids : List Text} {c : Call}

/-- The rows of a parted table under the user's ids are the user's. -/
theorem Table.Parted.owner (h : t.Parted u ids) {id : Text} (hid : id ∈ ids) :
    ∀ r ∈ t, r.header.id = id → r.header.owner = u := by
  intro r hr hrid
  subst hrid
  exact (h r hr).mp hid

/-- **Every call keeps the rows parted.** -/
theorem Table.Parted.step (h : t.Parted u ids) (hc : c.DrawsFor u ids) :
    (c.outcome limit t).table.Parted u ids := by
  intro r' hr'
  rcases (c.change limit t).origin hr' with ⟨r, hr, hheader, _⟩ | ⟨q, _, _, hcreate, _, _, hnew⟩
  · rw [hheader]
    exact h r hr
  · have howner : r'.header.owner = q.owner := by
      rw [hnew]
      rfl
    rw [howner]
    exact hc _ _ hcreate

/-- **A call that speaks for another owner leaves the owner's rows as they are.** -/
theorem rowsOf_of_foreign (hc : c.isForeign u = true) :
    (c.outcome limit t).table.rowsOf u = t.rowsOf u := by
  obtain ⟨now, operation⟩ := c
  cases operation with
  | create id q =>
    have howner : q.owner ≠ u := by simpa [Call.isForeign, Operation.owner?] using hc
    show (create limit t id q now).1.table.rowsOf u = _
    rcases create_cases limit t id q now with ⟨created, expires, _, _, _, _, ho⟩ | ⟨e, ho⟩
    · rw [ho]
      exact Table.rowsOf_insert_other t howner
    · rw [ho]
      rfl
  | list owner =>
    show (list t owner now).table.rowsOf u = _
    rw [list_table]
  | expire id owner =>
    show (expire t id owner).table.rowsOf u = _
    rcases expire_cases t id owner with ⟨_, _, ht⟩ | ⟨e, _, ho⟩
    · rw [ht]
      refine Table.rowsOf_clearWhere_other ?_
      intro r _ hpick
      cases owner with
      | none => cases hc
      | some o =>
        have hother : o ≠ u := by simpa [Call.isForeign, Operation.owner?] using hc
        -- the owner that is asked for is another one
        rcases (Row.isOf_iff.mp hpick).2 with hnone | hsome
        · cases hnone
        · injection hsome with hsome
          rw [← hsome]
          exact hother
    · rw [ho]
      rfl
  | get id => cases hc
  | finish id loaded => cases hc
  | purge => cases hc

/-- **A call that concerns the owner does on the owner's part what it does on the whole table.** -/
theorem Call.outcome_rowsOf (limit : Option Int) (ht : t.Parted u ids)
    (hdraws : c.DrawsFor u ids) (hc : c.Concerns u ids) :
    c.outcome limit (t.rowsOf u) = (c.outcome limit t).rowsOf u := by
  obtain ⟨now, operation⟩ := c
  cases operation with
  | create id q =>
    have howner : q.owner = u := by
      rcases hc with hown | ⟨hnone, _⟩
      · injection hown
      · cases hnone
    have hid := ht.owner ((hdraws id q rfl).mpr howner)
    exact congrArg (Outcome.map Answer.created) (create_rowsOf limit now howner hid)
  | list owner =>
    have howner : owner = u := by
      rcases hc with hown | ⟨hnone, _⟩
      · injection hown
      · cases hnone
    subst howner
    exact congrArg (Outcome.map Answer.listed) (list_rowsOf t owner now)
  | get id =>
    rcases hc with hown | ⟨_, id', hid', htarget⟩
    · cases hown
    · injection htarget with htarget
      subst htarget
      exact congrArg (Outcome.map Answer.read) (get_rowsOf (ht.owner hid') now)
  | finish id loaded =>
    rcases hc with hown | ⟨_, id', hid', htarget⟩
    · cases hown
    · injection htarget with htarget
      subst htarget
      exact congrArg (Outcome.map Answer.read) (getStale_rowsOf (ht.owner hid') loaded now)
  | expire id owner =>
    refine congrArg (Outcome.map fun _ => Answer.expired) (expire_rowsOf ?_)
    intro r hr hpick
    obtain ⟨hrid, hpicked⟩ := Row.isOf_iff.mp hpick
    rcases hc with hown | ⟨hnone, id', hid', htarget⟩
    · -- the owner is named, so only rows of the owner are picked
      have howner : owner = some u := hown
      rw [howner] at hpicked
      rcases hpicked with hfalse | hsame
      · cases hfalse
      · injection hsame with hsame
        exact hsame.symm
    · injection htarget with htarget
      subst htarget
      exact ht.owner hid' r hr hrid
  | purge =>
    rcases hc with hown | ⟨_, id', _, htarget⟩
    · cases hown
    · cases htarget

/-- A call that names an id of somebody else leaves the owner's rows as they are. -/
theorem Change.rowsOf (h : Change limit c t t') {id : Text} (hid : c.operation.target? = some id)
    (hother : ∀ r ∈ t, r.header.id = id → r.header.owner ≠ u) : t'.rowsOf u = t.rowsOf u := by
  cases h with
  | nothing => rfl
  | insert asked valid writable fresh =>
    rw [asked] at hid
    cases hid
  | clear named picks =>
    rw [hid] at named
    injection named with hsame
    subst hsame
    exact Table.rowsOf_clearWhere_other fun r hr hpick => hother r hr (picks r hpick)
  | drop asked clock =>
    rw [asked] at hid
    cases hid

/-- A purge treats every row by itself. -/
theorem purge_rowsOf (now : Stamp) (hsame : t.rowsOf u = t'.rowsOf u) :
    (purge t now).table.rowsOf u = (purge t' now).table.rowsOf u := by
  rcases purge_cases t now with ⟨m, hm, _, htable⟩ | ⟨e, he, hfail⟩
  · rcases purge_cases t' now with ⟨m', hm', _, htable'⟩ | ⟨e', he', _⟩
    · rw [hm] at hm'
      injection hm' with hm'
      subst hm'
      rw [htable, htable', Table.rowsOf_dropWhere, Table.rowsOf_dropWhere, hsame]
    · rw [hm] at he'
      cases he'
  · rcases purge_cases t' now with ⟨m', hm', _, _⟩ | ⟨e', _, hfail'⟩
    · rw [he] at hm'
      cases hm'
    · rw [hfail, hfail']
      exact hsame

/-- **What a call that does not speak for others leaves of the owner's rows depends on them
alone.** -/
theorem rowsOf_congr (ht : t.Parted u ids) (ht' : t'.Parted u ids) (hdraws : c.DrawsFor u ids)
    (hc : c.isForeign u = false) (hsame : t.rowsOf u = t'.rowsOf u) :
    (c.outcome limit t).table.rowsOf u = (c.outcome limit t').table.rowsOf u := by
  by_cases hconcerns : c.Concerns u ids
  · have hwhole := Call.outcome_rowsOf limit ht hdraws hconcerns
    have hwhole' := Call.outcome_rowsOf limit ht' hdraws hconcerns
    rw [hsame, hwhole'] at hwhole
    exact (congrArg Outcome.table hwhole).symm
  · cases htarget : c.operation.target? with
    | some id =>
      -- it names an id of somebody else, so no row of the owner is touched on either side
      have hid : id ∉ ids := by
        intro hid
        cases howner : c.operation.owner? with
        | none => exact hconcerns (.inr ⟨howner, id, hid, htarget⟩)
        | some o =>
          have hou : o = u := by simpa [Call.isForeign, howner] using hc
          exact hconcerns (.inl (howner.trans (congrArg some hou)))
      have hother : ∀ x : Table, x.Parted u ids →
          ∀ r ∈ x, r.header.id = id → r.header.owner ≠ u := by
        intro x hx r hr hrid howner
        subst hrid
        exact hid ((hx r hr).mpr howner)
      rw [(c.change limit t).rowsOf htarget (hother t ht),
        (c.change limit t').rowsOf htarget (hother t' ht'), hsame]
    | none =>
      obtain ⟨now, operation⟩ := c
      cases operation with
      | purge => exact purge_rowsOf now hsame
      | create id q =>
        have howner : q.owner = u := by simpa [Call.isForeign, Operation.owner?] using hc
        exact absurd (.inl (congrArg some howner)) hconcerns
      | list owner =>
        have howner : owner = u := by simpa [Call.isForeign, Operation.owner?] using hc
        exact absurd (.inl (congrArg some howner)) hconcerns
      | get id => cases htarget
      | finish id loaded => cases htarget
      | expire id owner => cases htarget

end Calls

/-! ## §4. Runs -/

section Runs

variable {limit : Option Int} {u : Text} {ids : List Text}

/-- Calls keep a table parted as long as each of them draws ids of one side. -/
theorem Table.Parted.after {t : Table} (ht : t.Parted u ids) {calls : List Call}
    (hdraws : ∀ c ∈ calls, c.DrawsFor u ids) : (t.after limit calls).Parted u ids := by
  induction calls generalizing t with
  | nil => exact ht
  | cons c calls ih =>
    have hnext : (c.outcome limit t).table.Parted u ids := ht.step (hdraws c List.mem_cons_self)
    exact ih hnext fun c' hc' => hdraws c' (List.mem_cons_of_mem _ hc')

/-- **The owner's rows are the same after a run and after what is left of it without the others.** -/
theorem rowsOf_after {t t' : Table} (ht : t.Parted u ids) (ht' : t'.Parted u ids)
    (hsame : t.rowsOf u = t'.rowsOf u) {calls : List Call}
    (hdraws : ∀ c ∈ calls, c.DrawsFor u ids) :
    (t.after limit calls).rowsOf u = (t'.after limit (withoutOthers u calls)).rowsOf u := by
  induction calls generalizing t t' with
  | nil => exact hsame
  | cons c calls ih =>
    have hc := hdraws c List.mem_cons_self
    have hrest : ∀ c' ∈ calls, c'.DrawsFor u ids := fun c' hc' =>
      hdraws c' (List.mem_cons_of_mem _ hc')
    show ((c.outcome limit t).table.after limit calls).rowsOf u = _
    unfold withoutOthers
    cases hforeign : c.isForeign u with
    | true =>
      -- it is left out on one side, and does nothing to the owner's rows on the other
      rw [List.filter_cons_of_neg (by rw [hforeign]; decide)]
      exact ih (ht.step hc) ht' ((rowsOf_of_foreign hforeign).trans hsame) hrest
    | false =>
      rw [List.filter_cons_of_pos (by rw [hforeign]; rfl)]
      exact ih (ht.step hc) (ht'.step hc) (rowsOf_congr ht ht' hc hforeign hsame) hrest

/-! ## §5. Distinct ids -/

/-- Ids that are drawn are drawn by one call each. -/
theorem eq_of_drawn {calls : List Call} (h : (drawnIds calls).Nodup) {c c' : Call} (hc : c ∈ calls)
    (hc' : c' ∈ calls) {id : Text} (hid : c.operation.freshId? = some id)
    (hid' : c'.operation.freshId? = some id) : c = c' := by
  induction calls with
  | nil => cases hc
  | cons x calls ih =>
    have hrest : (drawnIds calls).Nodup := h.sublist ((List.sublist_cons_self x calls).filterMap _)
    -- what the first call draws is not drawn again
    have hfirst : x.operation.freshId? = some id → id ∉ drawnIds calls := by
      intro hx
      have hcons : drawnIds (x :: calls) = id :: drawnIds calls := List.filterMap_cons_some hx
      rw [hcons, List.nodup_cons] at h
      exact h.1
    rcases List.mem_cons.mp hc with rfl | hmem
    · rcases List.mem_cons.mp hc' with rfl | hmem'
      · rfl
      · exact absurd (mem_drawnIds.mpr ⟨c', hmem', hid'⟩) (hfirst hid)
    · rcases List.mem_cons.mp hc' with rfl | hmem'
      · exact absurd (mem_drawnIds.mpr ⟨c, hmem, hid⟩) (hfirst hid')
      · exact ih hrest hmem hmem'

section Distinct

variable {t : Table} {calls : List Call}

/-- While no id comes twice, the ids of an owner part the rows. -/
theorem parted_of_nodup (h : ((t.map fun r => r.header.id) ++ drawnIds calls).Nodup) :
    t.Parted u (idsOf u t calls) := by
  obtain ⟨hkeyed, _, hdisjoint⟩ := List.nodup_append.mp h
  intro r hr
  unfold idsOf
  rw [List.mem_append, List.mem_map]
  constructor
  · rintro (⟨r', hr', hid⟩ | hdrawn)
    · obtain ⟨hr't, howner⟩ := Table.mem_rowsOf.mp hr'
      rw [← Table.Keyed.eq hkeyed hr't hr hid]
      exact howner
    · obtain ⟨c, hc, hid⟩ := mem_drawnIds.mp hdrawn
      have hdrawn' : r.header.id ∈ drawnIds calls :=
        mem_drawnIds.mpr ⟨c, List.mem_of_mem_filter hc, hid⟩
      exact absurd rfl (hdisjoint _ (List.mem_map.mpr ⟨r, hr, rfl⟩) _ hdrawn')
  · intro howner
    exact .inl ⟨r, Table.mem_rowsOf.mpr ⟨hr, howner⟩, rfl⟩

/-- Ids that are all distinct are drawn for one side each. -/
theorem drawsFor_of_nodup (h : ((t.map fun r => r.header.id) ++ drawnIds calls).Nodup) :
    ∀ c ∈ calls, c.DrawsFor u (idsOf u t calls) := by
  obtain ⟨_, hdrawnOnce, hdisjoint⟩ := List.nodup_append.mp h
  intro c hc id q hcreate
  have hid : c.operation.freshId? = some id := by
    rw [hcreate]
    rfl
  unfold idsOf
  rw [List.mem_append, List.mem_map]
  constructor
  · rintro (⟨r, hr, hrid⟩ | hdrawn)
    · -- an id of the table is not drawn again
      have hthere : id ∈ t.map fun r => r.header.id :=
        List.mem_map.mpr ⟨r, (Table.mem_rowsOf.mp hr).1, hrid⟩
      exact absurd rfl (hdisjoint _ hthere _ (mem_drawnIds.mpr ⟨c, hc, hid⟩))
    · obtain ⟨c', hc', hid'⟩ := mem_drawnIds.mp hdrawn
      obtain ⟨hc'calls, howner⟩ := List.mem_filter.mp hc'
      have hcc' : c = c' := eq_of_drawn hdrawnOnce hc hc'calls hid hid'
      subst hcc'
      rw [decide_eq_true_iff, hcreate] at howner
      injection howner
  · intro howner
    refine .inr (mem_drawnIds.mpr ⟨c, List.mem_filter.mpr ⟨hc, ?_⟩, hid⟩)
    rw [decide_eq_true_iff, hcreate]
    exact congrArg some howner

end Distinct

/-- **Owners do not interfere with each other.**  In every run from every table in which no id comes
twice, leave out what other owners create, list and expire.  After every call that is left the rows
of the owner are the same, and every call that concerns the owner has the same result and writes
down the same. -/
theorem owners_do_not_interfere (limit : Option Int) (u : Text) (t : Table) (calls : List Call)
    (h : ((t.map fun r => r.header.id) ++ drawnIds calls).Nodup) (before : List Call) (c : Call)
    (later : List Call) (hcalls : calls = before ++ c :: later) (hc : c.isForeign u = false) :
    let whole := t.after limit before
    let left := t.after limit (withoutOthers u before)
    (c.outcome limit whole).table.rowsOf u = (c.outcome limit left).table.rowsOf u
      ∧ (c.Concerns u (idsOf u t calls) →
          (c.outcome limit whole).result = (c.outcome limit left).result
            ∧ c.log limit whole = c.log limit left) := by
  intro whole left
  have hparted := parted_of_nodup (u := u) h
  have hdraws := drawsFor_of_nodup (u := u) h
  have hbefore : ∀ x ∈ before, x.DrawsFor u (idsOf u t calls) := by
    intro x hx
    refine hdraws x ?_
    rw [hcalls]
    exact List.mem_append_left _ hx
  have hc' : c.DrawsFor u (idsOf u t calls) := by
    refine hdraws c ?_
    rw [hcalls]
    exact List.mem_append_right _ List.mem_cons_self
  have hwhole : whole.Parted u (idsOf u t calls) := hparted.after hbefore
  have hleft : left.Parted u (idsOf u t calls) :=
    hparted.after fun x hx => hbefore x (List.mem_of_mem_filter hx)
  have hsame : whole.rowsOf u = left.rowsOf u := rowsOf_after hparted hparted rfl hbefore
  refine ⟨rowsOf_congr hwhole hleft hc' hc hsame, ?_⟩
  intro hconcerns
  -- on both tables the call does what it does on the owner's part
  have hout := Call.outcome_rowsOf limit hwhole hc' hconcerns
  have hout' := Call.outcome_rowsOf limit hleft hc' hconcerns
  rw [hsame, hout'] at hout
  have hresult : (c.outcome limit left).result = (c.outcome limit whole).result :=
    (Outcome.mk.inj hout).1
  have hentries : (c.outcome limit left).entries = (c.outcome limit whole).entries :=
    (Outcome.mk.inj hout).2.2
  refine ⟨hresult.symm, ?_⟩
  unfold Call.log
  rw [hresult, hentries]

end Runs

/-- A secret of one owner, and what another owner does who knows its id. -/
def crossedCalls : List Call :=
  [⟨minute 0, .create (Text.hex 32 1) ⟨"alice", "c2VhbGVk", minute 9, true⟩⟩,
   ⟨minute 1, .create (Text.hex 32 2) ⟨"mallory", "b3RoZXI=", minute 2, true⟩⟩,
   ⟨minute 2, .expire (Text.hex 32 1) (some "mallory")⟩,
   ⟨minute 3, .list "mallory"⟩, ⟨minute 4, .purge⟩]

/-- The read of the secret. -/
def crossedRead : Call := ⟨minute 5, .get (Text.hex 32 1)⟩

/-- Three of the calls before the read speak for the other owner, and without them it is the same. -/
theorem owners_do_not_interfere_crossed :
    (drawnIds (crossedCalls ++ [crossedRead])).Nodup ∧ crossedRead.isForeign "alice" = false
      ∧ crossedRead.Concerns "alice" (idsOf "alice" [] (crossedCalls ++ [crossedRead]))
      ∧ (withoutOthers "alice" crossedCalls).length = 2
      ∧ (crossedRead.outcome none (Table.after none [] crossedCalls)).result
          = (crossedRead.outcome none (Table.after none [] (withoutOthers "alice" crossedCalls))).result
      ∧ crossedRead.log none (Table.after none [] crossedCalls)
          = crossedRead.log none (Table.after none [] (withoutOthers "alice" crossedCalls)) := by
  have hdistinct : (drawnIds (crossedCalls ++ [crossedRead])).Nodup := by decide
  have hown : crossedRead.isForeign "alice" = false := by decide
  have hconcerns : crossedRead.Concerns "alice"
      (idsOf "alice" [] (crossedCalls ++ [crossedRead])) :=
    .inr ⟨rfl, Text.hex 32 1, by decide, rfl⟩
  have hseen := (owners_do_not_interfere none "alice" [] (crossedCalls ++ [crossedRead]) hdistinct
    crossedCalls crossedRead [] rfl hown).2 hconcerns
  exact ⟨hdistinct, hown, hconcerns, by decide, hseen.1, hseen.2⟩

end SealedDrop.Store
