/-
  SealedDrop.Proofs.Store.Operation
  ─────────────────────────────────
  **WHAT EACH OPERATION OF THE STORE CAN DO.**

  One inversion lemma for each operation of `Store.Operation`: every way it can
  end, with the guards that lead there and the table it leaves.  Invariants are
  derived from these lemmas, so a change to one operation is felt in one place.

      create   — inserts one live row under the fresh id, or fails and writes nothing
      list     — writes nothing
      expire   — clears the rows of the id and owner, or fails and writes nothing
      purge    — drops the rows that are expired, or fails and writes nothing
      finish   — clears the row of an expired view; of a live single-use view,
                 if the envelope is still there; writes nothing otherwise

  Main results: `create_cases`, `list_cases`, `expire_cases`, `purge_cases`, `load_cases`,
  `finish_of_expired`, `finish_of_gone`, `finish_of_present`, `finish_of_lasting`,
  `finish_clears`, `get_cases`, `getStale_cases`, `get_of_gone`,
  `finished_of_lasting`.
-/
import SealedDrop.Proofs.Calendar.Date
import SealedDrop.Proofs.Store.Table
import SealedDrop.Proofs.Text.Utf8
import SealedDrop.Store.Operation

namespace SealedDrop.Store

/-! ## §1. Times, texts, and the rows that an operation picks -/

theorem toUtc_of_utc {now : Stamp} {m : Moment} (h : utc now = .ok m) : now.toUtc = .ok m := by
  unfold utc at h
  split at h
  next m' hm' =>
    injection h with h
    rw [hm', h]
  next => cases h

/-- A moment on the store's clock is the instant of its stamp. -/
theorem instant_of_utc {now : Stamp} {m : Moment} (h : utc now = .ok m) :
    (m.micros : Int) = now.instant :=
  Stamp.instant_of_toUtc (toUtc_of_utc h)

/-- **The store has no clock for a stamp iff its instant lies outside the calendar.** -/
theorem utc_eq_error_iff {s : Stamp} {e : Error} :
    utc s = .error e ↔ e = .outOfCalendar ∧ s.Outlying := by
  unfold utc Stamp.toUtc Stamp.Outlying
  cases s.offset with
  | none => simp
  | some o =>
    rw [← Moment.ofMicros?_eq_none_iff]
    cases Moment.ofMicros? s.instant with
    | none => simp [eq_comm]
    | some m => simp

/-- Every time that does not lie at the edge of the calendar has a moment in UTC. -/
theorem exists_utc {s : Stamp} (h : ¬ s.Outlying) : ∃ m, utc s = .ok m := by
  cases hu : utc s with
  | ok m => exact ⟨m, rfl⟩
  | error e => exact absurd (utc_eq_error_iff.mp hu).2 h

/-- The last second of the calendar on a clock an hour behind UTC. -/
def beyondCalendar : Stamp := ⟨⟨Date.span * microsPerDay - 1, by decide⟩, some (-3600)⟩

/-- **Texts can be stored iff none of them holds a surrogate.** -/
theorem encodable_eq_ok_iff {ts : List Text} :
    encodable ts = .ok () ↔ ∀ t ∈ ts, t.isScalar = true := by
  induction ts with
  | nil => simp [encodable]
  | cons t ts ih =>
    rw [List.forall_mem_cons, ← ih, ← Utf8.firstSurrogates_eq_none_iff, encodable]
    cases Utf8.firstSurrogates t with
    | some e => simp
    | none => simp

/-- The driver has one reason to turn texts down. -/
theorem encodable_eq_error {ts : List Text} {e : Error} (h : encodable ts = .error e) :
    ∃ f, e = .unencodable f := by
  induction ts with
  | nil => cases h
  | cons t ts ih =>
    unfold encodable at h
    split at h
    next f _ =>
      injection h with h
      exact ⟨f, h.symm⟩
    next => exact ih h

theorem encodable_head {t : Text} {ts : List Text} (h : encodable (t :: ts) = .ok ()) :
    encodable [t] = .ok () := by
  unfold encodable at h ⊢
  cases hs : Utf8.firstSurrogates t with
  | some e =>
    rw [hs] at h
    exact absurd h (by simp)
  | none => rfl

/-- The row of an id. -/
def Row.hasId (id : Text) (r : Row) : Bool := r.header.id = id

/-- The row of an id, as far as an owner, if one is given, may touch it. -/
def Row.isOf (id : Text) (owner : Option Text) (r : Row) : Bool :=
  r.header.id = id && (match owner with
    | none => true
    | some o => r.header.owner = o)

/-- A row that is expired: its envelope is gone or its deadline has passed. -/
def Row.isGone (now : Moment) (r : Row) : Bool := r.data.isNone || r.header.expiresAt < now

/-- The condition of a lookup by id. -/
theorem Row.hasId_iff {id : Text} {r : Row} : r.hasId id = true ↔ r.header.id = id := by
  unfold hasId
  exact decide_eq_true_iff

/-- The condition of an update by id and, if one is given, by owner. -/
theorem Row.isOf_iff {id : Text} {owner : Option Text} {r : Row} :
    r.isOf id owner = true ↔ r.header.id = id ∧ (owner = none ∨ owner = some r.header.owner) := by
  unfold isOf
  cases owner with
  | none => simp
  | some o =>
    simp only [Bool.and_eq_true, decide_eq_true_eq, reduceCtorEq, false_or, Option.some.injEq]
    rw [eq_comm (a := o)]

/-- A row that is not expired still has its envelope and has not passed its deadline. -/
theorem Row.isGone_eq_false_iff {now : Moment} {r : Row} :
    r.isGone now = false ↔ r.data ≠ none ∧ ¬ r.header.expiresAt < now := by
  unfold isGone
  rw [Bool.or_eq_false_iff, decide_eq_false_iff_not]
  simp [Option.isNone_eq_false_iff, Option.isSome_iff_ne_none]

/-- A row is gone when its envelope was cleared or its deadline is past. -/
theorem Row.isGone_iff {now : Moment} {r : Row} :
    r.isGone now = true ↔ r.data = none ∨ r.header.expiresAt < now := by
  unfold isGone
  rw [Bool.or_eq_true, decide_eq_true_iff, Option.isNone_iff_eq_none]

/-- What is expired stays so as time goes on. -/
theorem Row.isGone_mono {m n : Moment} {r : Row} (hmn : m ≤ n) (h : r.isGone m = true) :
    r.isGone n = true := by
  rw [isGone_iff] at h ⊢
  refine h.imp_right ?_
  intro hpast
  have hm : m.micros ≤ n.micros := hmn
  have hr : r.header.expiresAt.micros < m.micros := hpast
  show r.header.expiresAt.micros < n.micros
  omega

/-- What stems from an expired row is expired. -/
theorem Row.StemsFrom.isGone {r' r : Row} (h : r'.StemsFrom r) {m : Moment}
    (hr : r.isGone m = true) : r'.isGone m = true := by
  rw [Row.isGone_iff] at hr ⊢
  obtain ⟨hheader, hdata⟩ := h
  rcases hdata with hsame | hnone
  · rw [hheader, hsame]
    exact hr
  · exact .inl hnone

/-- A row that is gone is shown as expired. -/
theorem Row.view_of_isGone {now : Moment} {r : Row} (h : r.isGone now = true) :
    r.view now = .expired r.header :=
  Row.view_eq_expired_iff.mpr ⟨rfl, Row.isGone_iff.mp h⟩

/-- Any other is shown with its envelope. -/
theorem Row.view_of_not_isGone {now : Moment} {r : Row} (h : r.isGone now = false) :
    ∃ d, r.data = some d ∧ r.view now = .live r.header d := by
  obtain ⟨hdata, hdue⟩ := Row.isGone_eq_false_iff.mp h
  obtain ⟨d, hd⟩ := Option.ne_none_iff_exists'.mp hdata
  exact ⟨d, hd, Row.view_eq_live_iff.mpr ⟨rfl, hd, hdue⟩⟩

/-! ## §2. Create -/

/-- The row of a granted request. -/
def Request.row (q : Request) (id : Text) (created expires : Moment) : Row :=
  ⟨⟨id, q.owner, created, expires, q.singleUse⟩, some q.data⟩

/-- The last check on a request: its deadline lies ahead. -/
theorem future_eq_ok_iff {c x created expires : Moment} :
    (if x ≤ c then Except.error Error.notFuture else .ok (c, x)) = .ok (created, expires)
      ↔ c = created ∧ x = expires ∧ ¬ expires ≤ created := by
  by_cases hl : x ≤ c
  · rw [if_pos hl]
    constructor
    · intro h
      cases h
    · rintro ⟨rfl, rfl, hn⟩
      exact absurd hl hn
  · rw [if_neg hl]
    constructor
    · intro h
      injection h with h
      injection h with hc hx
      subst hc hx
      exact ⟨rfl, rfl, hl⟩
    · rintro ⟨rfl, rfl, _⟩
      rfl

/-- A request is valid iff both times are in the calendar, the envelope is neither empty nor too
long, and the deadline lies ahead. -/
theorem validate_eq_ok_iff {limit : Option Int} {q : Request} {now : Stamp}
    {created expires : Moment} :
    validate limit q now = .ok (created, expires) ↔
      utc now = .ok created ∧ utc q.expiresAt = .ok expires ∧ q.data.isEmpty = false
        ∧ (∀ n, limit = some n → (q.data.length : Int) ≤ n) ∧ ¬ expires ≤ created := by
  unfold validate
  cases utc now with
  | error e => simp [bind, Except.bind]
  | ok c =>
    cases utc q.expiresAt with
    | error e => simp [bind, Except.bind]
    | ok x =>
      -- both times first, then the length of the envelope, then the deadline
      cases hempty : q.data.isEmpty with
      | true => simp [bind, Except.bind]
      | false =>
        cases limit with
        | none =>
          show (if x ≤ c then Except.error Error.notFuture else .ok (c, x)) = _ ↔ _
          rw [future_eq_ok_iff]
          simp
        | some n =>
          show (if n < q.data.length then Except.error (Error.tooLong n)
            else if x ≤ c then Except.error Error.notFuture else .ok (c, x)) = _ ↔ _
          by_cases hn : n < q.data.length
          · rw [if_pos hn]
            simp only [reduceCtorEq, Option.some.injEq, forall_eq', false_iff]
            rintro ⟨_, _, _, hle, _⟩
            omega
          · rw [if_neg hn, future_eq_ok_iff]
            have hle : (q.data.length : Int) ≤ n := by omega
            simp [hle]

/-- What is wrong with a request, as opposed to what goes wrong with it. -/
def Error.isRejection : Error → Bool
  | .emptyData | .tooLong _ | .notFuture => true
  | _ => false

/-- **A request whose times are in the calendar is valid, or it is rejected.** -/
theorem validate_rejects {limit : Option Int} {q : Request} {now : Stamp} {created expires : Moment}
    {e : Error} (hcreated : utc now = .ok created) (hexpires : utc q.expiresAt = .ok expires)
    (h : validate limit q now = .error e) : e.isRejection = true := by
  -- with both times known, every error left is a rejection
  have hfuture : ∀ {e : Error},
      (if expires ≤ created then Except.error Error.notFuture else .ok (created, expires)) = .error e →
        e.isRejection = true := by
    intro e he
    split at he
    next =>
      injection he with he
      subst he
      rfl
    next => cases he
  unfold validate at h
  rw [hcreated, hexpires] at h
  cases hempty : q.data.isEmpty with
  | true =>
    rw [hempty] at h
    injection h with h
    subst h
    rfl
  | false =>
    rw [hempty] at h
    cases limit with
    | none => exact hfuture h
    | some n =>
      change (if n < q.data.length then Except.error (Error.tooLong n)
        else if expires ≤ created then Except.error Error.notFuture
        else .ok (created, expires)) = _ at h
      split at h
      next =>
        injection h with h
        subst h
        rfl
      next => exact hfuture h

/-- **A creation inserts the requested row under the fresh id, or fails and writes nothing.** -/
theorem create_cases (limit : Option Int) (t : Table) (id : Text) (q : Request) (now : Stamp) :
    (∃ created expires, validate limit q now = .ok (created, expires)
      ∧ encodable [id, q.owner, q.data] = .ok () ∧ (∀ r ∈ t, r.header.id ≠ id)
      ∧ (create limit t id q now).2 = true
      ∧ (create limit t id q now).1
          = ⟨.ok id, t.insert (q.row id created expires),
              [createdEntry (q.row id created expires).header]⟩)
    ∨ ∃ e, (create limit t id q now).1 = .fail t e := by
  unfold create
  cases hv : validate limit q now with
  | error e => exact .inr ⟨e, rfl⟩
  | ok times =>
    obtain ⟨created, expires⟩ := times
    dsimp only
    cases he : encodable [id, q.owner, q.data] with
    | error e => exact .inr ⟨e, rfl⟩
    | ok _ =>
      cases hc : t.contains id with
      | true => exact .inr ⟨.duplicateId, rfl⟩
      -- the one way through every check
      | false => exact .inl ⟨created, expires, rfl, rfl, Table.contains_eq_false.mp hc, rfl, rfl⟩

/-! ## §3. List, expire, purge -/

/-- **A listing shows the rows of its owner, or fails.** -/
theorem list_cases (t : Table) (owner : Text) (now : Stamp) :
    (∃ m, utc now = .ok m
      ∧ list t owner now = ⟨.ok ((t.ofOwner owner).map fun r => r.view m), t, []⟩)
    ∨ ∃ e, list t owner now = .fail t e := by
  unfold list
  cases hu : utc now with
  | error e => exact .inr ⟨e, rfl⟩
  | ok m =>
    dsimp only
    cases he : encodable [owner] with
    | error e => exact .inr ⟨e, rfl⟩
    | ok _ => exact .inl ⟨m, rfl, rfl⟩

/-- Listing changes no row. -/
theorem list_table (t : Table) (owner : Text) (now : Stamp) : (list t owner now).table = t := by
  rcases list_cases t owner now with ⟨m, _, hl⟩ | ⟨e, hl⟩
  · rw [hl]
  · rw [hl]
    rfl

/-- **An expiration clears the rows of its id and owner, or fails and writes nothing.** -/
theorem expire_cases (t : Table) (id : Text) (owner : Option Text) :
    (encodable (id :: owner.toList) = .ok () ∧ (expire t id owner).result = .ok ()
      ∧ (expire t id owner).table = t.clearWhere (Row.isOf id owner))
    ∨ ∃ e, encodable (id :: owner.toList) = .error e ∧ expire t id owner = .fail t e := by
  unfold expire
  cases he : encodable (id :: owner.toList) with
  | error e => exact .inr ⟨e, rfl, rfl⟩
  | ok _ => exact .inl ⟨rfl, rfl, rfl⟩

/-- **A purge drops the rows that are expired, or fails and writes nothing.** -/
theorem purge_cases (t : Table) (now : Stamp) :
    (∃ m, utc now = .ok m ∧ (purge t now).result = .ok (t.countWhere (Row.isGone m))
      ∧ (purge t now).table = t.dropWhere (Row.isGone m))
    ∨ ∃ e, utc now = .error e ∧ purge t now = .fail t e := by
  unfold purge
  cases hu : utc now with
  | error e => exact .inr ⟨e, rfl, rfl⟩
  | ok m => exact .inl ⟨m, rfl, rfl, rfl⟩

/-! ## §4. The two steps of a read -/

/-- **What is loaded is the row of the id as it stands in the table; otherwise the id has no row, or
no UTF-8 form.** -/
theorem load_cases (t : Table) (id : Text) :
    (∃ r ∈ t, r.header.id = id ∧ load t id = .ok r)
    ∨ ((∀ r ∈ t, r.header.id ≠ id) ∧ load t id = .error (.notFound id))
    ∨ ∃ e, encodable [id] = .error e ∧ load t id = .error e := by
  unfold load
  cases he : encodable [id] with
  | error e => exact .inr (.inr ⟨e, rfl, rfl⟩)
  | ok _ =>
    dsimp only
    cases hf : t.find? id with
    | none => exact .inr (.inl ⟨Table.find?_eq_none.mp hf, rfl⟩)
    | some r =>
      obtain ⟨hr, hid⟩ := Table.find?_eq_some hf
      exact .inl ⟨r, hr, hid, rfl⟩

/-- Clearing every envelope of an id leaves none. -/
theorem Table.cleared_clearWhere {t : Table} {id : Text} {r' : Row}
    (hr' : r' ∈ t.clearWhere (fun r => r.hasId id && r.data.isSome)) (hid : r'.header.id = id) :
    r'.data = none := by
  rcases Table.mem_clearWhere.mp hr' with ⟨_, hp⟩ | ⟨r, _, _, rfl⟩
  · rw [Row.hasId_iff.mpr hid, Bool.true_and] at hp
    simpa using hp
  · rfl

section Finish

variable {t : Table} {id : Text} {loaded : Row} {now : Moment} {h : Header} {d : Text}

/-- A reader with an expired view clears the row, whatever the table says by then. -/
theorem finish_of_expired (hv : loaded.view now = .expired h) :
    finish t id loaded now = (.expired h, t.clearWhere (Row.hasId id), []) := by
  unfold finish
  rw [hv]
  rfl

/-- A reader with a live view of a multi-use secret writes nothing. -/
theorem finish_of_lasting (hv : loaded.view now = .live h d) (hs : h.singleUse = false) :
    finish t id loaded now = (.live h d, t, []) := by
  unfold finish
  rw [hv]
  simp only [hs]
  rfl

/-- A reader with a live view of a single-use secret whose envelope is gone by then gets the
expired view. -/
theorem finish_of_gone (hv : loaded.view now = .live h d) (hs : h.singleUse = true)
    (hg : ∀ r ∈ t, r.header.id = id → r.data = none) :
    (finish t id loaded now).1 = .expired h ∧ (finish t id loaded now).2.1 = t := by
  -- no row of the id has an envelope, so that the update touches none
  have hnone : ∀ r ∈ t, (r.hasId id && r.data.isSome) = false := by
    intro r hr
    by_cases hid : r.header.id = id
    · rw [hg r hr hid]
      exact Bool.and_false _
    · rw [Row.hasId, decide_eq_false hid]
      rfl
  have hcount : t.countWhere (fun r => r.hasId id && r.data.isSome) = 0 :=
    Table.countWhere_eq_zero.mpr hnone
  have hclear : t.clearWhere (fun r => r.hasId id && r.data.isSome) = t := by
    unfold Table.clearWhere
    have hsame : ∀ r ∈ t, (if (r.hasId id && r.data.isSome) = true then r.clear else r) = r := by
      intro r hr
      rw [hnone r hr]
      rfl
    rw [List.map_congr_left hsame, List.map_id']
  unfold finish
  rw [hv]
  simp only [hs, if_true]
  rw [show (fun r : Row => decide (r.header.id = id) && r.data.isSome)
    = fun r => r.hasId id && r.data.isSome from rfl, if_pos hcount]
  exact ⟨rfl, hclear⟩

/-- If some row of an id has an envelope, an expiration finds it. -/
theorem countWhere_present_ne_zero (hp : ¬ ∀ r ∈ t, r.header.id = id → r.data = none) :
    t.countWhere (fun r => r.hasId id && r.data.isSome) ≠ 0 := by
  intro hz
  apply hp
  intro r hr hid
  have := Table.countWhere_eq_zero.mp hz r hr
  rw [Row.hasId_iff.mpr hid, Bool.true_and] at this
  simpa using this

/-- A reader with a live view of a single-use secret whose envelope is still there gets it, and
clears it. -/
theorem finish_of_present (hv : loaded.view now = .live h d) (hs : h.singleUse = true)
    (hp : ¬ ∀ r ∈ t, r.header.id = id → r.data = none) :
    (finish t id loaded now).1 = .live h d
      ∧ (finish t id loaded now).2.1 = t.clearWhere (fun r => r.hasId id && r.data.isSome) := by
  unfold finish
  rw [hv]
  simp only [hs, if_true]
  rw [show (fun r : Row => decide (r.header.id = id) && r.data.isSome)
    = fun r => r.hasId id && r.data.isSome from rfl, if_neg (countWhere_present_ne_zero hp)]
  exact ⟨rfl, rfl⟩

/-- It says so. -/
theorem finish_entries_of_present (hv : loaded.view now = .live h d) (hs : h.singleUse = true)
    (hp : ¬ ∀ r ∈ t, r.header.id = id → r.data = none) :
    (finish t id loaded now).2.2 = [.info ("Consumed single use secret " ++ id)] := by
  unfold finish
  rw [hv]
  simp only [hs, if_true]
  rw [show (fun r : Row => decide (r.header.id = id) && r.data.isSome)
    = fun r => r.hasId id && r.data.isSome from rfl, if_neg (countWhere_present_ne_zero hp)]

end Finish

/-- **The second step of a read clears rows of its id at most**, and only if the row that was loaded
is expired or single-use. -/
theorem finish_clears (t : Table) (id : Text) (loaded : Row) (now : Moment) :
    (finish t id loaded now).2.1 = t
      ∨ ∃ p, (∀ r, p r = true → r.header.id = id)
          ∧ (loaded.data = none ∨ loaded.header.expiresAt < now ∨ loaded.header.singleUse = true)
          ∧ (finish t id loaded now).2.1 = t.clearWhere p := by
  cases hv : loaded.view now with
  | expired h =>
    obtain ⟨rfl, hwhy⟩ := Row.view_eq_expired_iff.mp hv
    rw [finish_of_expired hv]
    exact .inr ⟨Row.hasId id, fun r => Row.hasId_iff.mp,
      hwhy.imp_right fun hlate => .inl hlate, rfl⟩
  | live h d =>
    obtain ⟨rfl, _, _⟩ := Row.view_eq_live_iff.mp hv
    cases hs : loaded.header.singleUse with
    | false =>
      rw [finish_of_lasting hv hs]
      exact .inl rfl
    | true =>
      -- another reader may have been first
      by_cases hg : ∀ r ∈ t, r.header.id = id → r.data = none
      · exact .inl (finish_of_gone hv hs hg).2
      · refine .inr ⟨_, ?_, .inr (.inr rfl), (finish_of_present hv hs hg).2⟩
        intro r' hr'
        exact Row.hasId_iff.mp (Bool.and_eq_true_iff.mp hr').1

/-! ## §5. Whole reads -/

/-- The outcome of a read that decides on a row. -/
def finished (t : Table) (id : Text) (loaded : Row) (now : Moment) : Outcome View :=
  ⟨.ok (finish t id loaded now).1, (finish t id loaded now).2.1, (finish t id loaded now).2.2⟩

/-- **A read fails for want of a clock or of a row, or it finishes on the row of its id.** -/
theorem get_cases (t : Table) (id : Text) (now : Stamp) :
    (∃ e, utc now = .error e ∧ get t id now = .fail t e)
    ∨ ∃ m, utc now = .ok m
        ∧ ((∃ r ∈ t, r.header.id = id ∧ load t id = .ok r ∧ get t id now = finished t id r m)
          ∨ ((∀ r ∈ t, r.header.id ≠ id) ∧ get t id now = .fail t (.notFound id))
          ∨ ∃ e, encodable [id] = .error e ∧ get t id now = .fail t e) := by
  unfold get
  cases hu : utc now with
  | error e => exact .inl ⟨e, rfl, rfl⟩
  | ok m =>
    refine .inr ⟨m, rfl, ?_⟩
    dsimp only
    rcases load_cases t id with ⟨r, hr, hid, hl⟩ | ⟨hnone, hl⟩ | ⟨e, he, hl⟩
    · rw [hl]
      exact .inl ⟨r, hr, hid, rfl, rfl⟩
    · rw [hl]
      exact .inr (.inl ⟨hnone, rfl⟩)
    · rw [hl]
      exact .inr (.inr ⟨e, he, rfl⟩)

/-- **A late read fails, or it finishes on the row that it loaded.** -/
theorem getStale_cases (t : Table) (id : Text) (loaded : Snapshot) (now : Stamp) :
    (∃ e, getStale t id loaded now = .fail t e)
    ∨ ∃ m r, utc now = .ok m ∧ loaded.toRow = .ok r
        ∧ getStale t id loaded now = finished t id r m := by
  unfold getStale
  cases hu : utc now with
  | error e => exact .inl ⟨e, rfl⟩
  | ok m =>
    dsimp only
    cases hr : loaded.toRow with
    | error e => exact .inl ⟨.outOfCalendar, rfl⟩
    | ok r =>
      dsimp only
      cases he : (if clears r m then encodable [id] else .ok ()) with
      | error e => exact .inl ⟨e, rfl⟩
      | ok _ => exact .inr ⟨m, r, rfl, rfl, rfl⟩

/-- **Once every row of an id is expired, a read of it gets the expired view or finds nothing.** -/
theorem get_of_gone {t : Table} {id : Text} {now : Stamp} {m : Moment} (hm : utc now = .ok m)
    (he : encodable [id] = .ok ()) (hgone : ∀ r ∈ t, r.header.id = id → r.isGone m = true) :
    (∃ h, (get t id now).result = .ok (.expired h))
      ∨ (get t id now).result = .error (.notFound id) := by
  rcases get_cases t id now with ⟨e, hu, _⟩ | ⟨n, hn, ⟨r, hr, hid, _, hg⟩ | ⟨_, hg⟩ | ⟨e, hbad, _⟩⟩
  · rw [hm] at hu
    cases hu
  · rw [hm] at hn
    injection hn with hn
    subst hn
    refine .inl ⟨r.header, ?_⟩
    rw [hg, finished, finish_of_expired (Row.view_of_isGone (hgone r hr hid))]
  · rw [hg]
    exact .inr rfl
  · rw [he] at hbad
    cases hbad

/-- A read that decides on a live row of a multi-use secret writes nothing. -/
theorem finished_of_lasting {t : Table} {id : Text} {loaded : Row} {m : Moment}
    (hlive : loaded.isGone m = false) (hs : loaded.header.singleUse = false) :
    (finished t id loaded m).table = t := by
  obtain ⟨d, _, hv⟩ := Row.view_of_not_isGone hlive
  rw [finished, finish_of_lasting hv hs]

end SealedDrop.Store
