/-
  SealedDrop.Proofs.Store.Creation
  ────────────────────────────────
  **WHAT IS STORED IS WHAT WAS ASKED FOR.**

  `Store.create` is given a deadline on some clock and the time of day on another.
  `validate` puts both on a UTC clock (`utc`) before they are compared, and they
  are stored in columns that say nothing about a clock; `load` takes them back as
  UTC.  None of this may show: whether a request is granted, and as what its
  secret is shown later, is said here in instants alone.

      Request.Granted — what the store asks of a request
      Row.Keeps       — a row that says what its request said
      ShownAs         — what the first reader of a secret is told, at any time

  The deadline has to lie ahead of the creation, strictly, and a reader who
  comes at the deadline is not late.

  Main results:
    • `validate_iff_granted` — a request is valid iff it is granted,
    • `shownAs_of_holds` — a read of the only row of an id, in instants,
    • `creation_is_faithful` — what a creation comes to, and what is read of it,
    • `creation_unread_beyond_calendar` — a clock that UTC cannot show reads
      nothing.
-/
import SealedDrop.Proofs.Store.Purge

namespace SealedDrop.Store

/-! ## §1. Requests that are granted -/

/-- What the store asks of a request at a time: it has an envelope, the envelope is not too long,
and the deadline is still to come. -/
structure Request.Granted (limit : Option Int) (q : Request) (now : Stamp) : Prop where
  envelope : q.data ≠ []
  fits : ∀ n, limit = some n → (q.data.length : Int) ≤ n
  ahead : now.instant < q.expiresAt.instant

section Requests

variable {limit : Option Int} {q : Request} {now : Stamp} {created expires : Moment}

/-- Moments on the store's clock are in the order of the instants that they stand for. -/
theorem lt_iff_instant_lt {s s' : Stamp} {m m' : Moment} (h : utc s = .ok m) (h' : utc s' = .ok m') :
    m < m' ↔ s.instant < s'.instant := by
  rw [← instant_of_utc h, ← instant_of_utc h', Int.ofNat_lt]
  rfl

/-- **A request whose times are in the calendar is valid iff it is granted.** -/
theorem validate_iff_granted (hcreated : utc now = .ok created)
    (hexpires : utc q.expiresAt = .ok expires) :
    validate limit q now = .ok (created, expires) ↔ q.Granted limit now := by
  have hahead : (¬ expires ≤ created) ↔ now.instant < q.expiresAt.instant := by
    rw [← lt_iff_instant_lt hcreated hexpires]
    exact Nat.not_le
  rw [validate_eq_ok_iff, hahead, List.isEmpty_eq_false_iff]
  constructor
  · rintro ⟨_, _, henvelope, hfits, hlater⟩
    exact ⟨henvelope, hfits, hlater⟩
  · rintro ⟨henvelope, hfits, hlater⟩
    exact ⟨hcreated, hexpires, henvelope, hfits, hlater⟩

/-- A request that is not granted is turned down for what it asks, since its times are in the
calendar. -/
theorem exists_rejection (hcreated : utc now = .ok created) (hexpires : utc q.expiresAt = .ok expires)
    (h : ¬ q.Granted limit now) : ∃ e, e.isRejection = true ∧ validate limit q now = .error e := by
  cases hvalidate : validate limit q now with
  | error e => exact ⟨e, validate_rejects hcreated hexpires hvalidate, rfl⟩
  | ok times =>
    obtain ⟨c, x⟩ := times
    obtain ⟨hc, hx, _⟩ := validate_eq_ok_iff.mp hvalidate
    exact absurd ((validate_iff_granted hc hx).mp hvalidate) h

end Requests

/-! ## §2. Rows and what is read of them -/

/-- A row says what the request for it said, at the instants of the request. -/
structure Row.Keeps (r : Row) (id : Text) (q : Request) (now : Stamp) : Prop where
  id : r.header.id = id
  owner : r.header.owner = q.owner
  created : (r.header.createdAt.micros : Int) = now.instant
  expires : (r.header.expiresAt.micros : Int) = q.expiresAt.instant
  singleUse : r.header.singleUse = q.singleUse
  data : r.data = some q.data
  /-- The columns of the database, read back, are shown as the row is. -/
  columns : ∀ m, r.record.shown m = some (r.view m)

/-- What a reader is told of a secret with its envelope, at any time. -/
structure ShownAs (t : Table) (h : Header) (d : Text) (now : Stamp) : Prop where
  /-- Until the deadline, and at it, the envelope. -/
  live : ¬ now.Outlying → now.instant ≤ h.expiresAt.micros →
    (get t h.id now).result = .ok (.live h d)
  /-- Afterwards, that the secret is expired. -/
  expired : ¬ now.Outlying → h.expiresAt.micros < now.instant →
    (get t h.id now).result = .ok (.expired h)
  /-- A reader with a clock that UTC cannot show is told so. -/
  unread : now.Outlying → get t h.id now = .fail t .outOfCalendar

/-- **The only row of an id is shown by its instants.** -/
theorem shownAs_of_holds {t : Table} {r : Row} {d : Text} (h : t.Holds r)
    (hid : encodable [r.header.id] = .ok ()) (hd : r.data = some d) (now : Stamp) :
    ShownAs t r.header d now := by
  refine ⟨?live, ?expired, ?unread⟩
  case live =>
    intro hin hdue
    obtain ⟨m, hm⟩ := exists_utc hin
    rw [← instant_of_utc hm] at hdue
    -- instants and moments are ordered alike
    have hnotPast : ¬ r.header.expiresAt < m := Nat.not_lt.mpr (Int.ofNat_le.mp hdue)
    rw [get_of_holds h hid hm, Row.view_eq_live_iff.mpr ⟨rfl, hd, hnotPast⟩]
  case expired =>
    intro hin hdue
    obtain ⟨m, hm⟩ := exists_utc hin
    rw [← instant_of_utc hm] at hdue
    have hpast : r.header.expiresAt < m := Int.ofNat_lt.mp hdue
    rw [get_of_holds h hid hm, Row.view_eq_expired_iff.mpr ⟨rfl, .inr hpast⟩]
  case unread =>
    intro hout
    unfold get
    rw [utc_eq_error_iff.mpr ⟨rfl, hout⟩]

/-! ## §3. Creations -/

section Creations

variable {limit : Option Int} {t : Table} {id : Text} {q : Request} {now : Stamp}
  {created expires : Moment}

theorem keeps_row (hcreated : utc now = .ok created) (hexpires : utc q.expiresAt = .ok expires) :
    (q.row id created expires).Keeps id q now where
  id := rfl
  owner := rfl
  created := instant_of_utc hcreated
  expires := instant_of_utc hexpires
  singleUse := rfl
  data := rfl
  columns := shown_record _

theorem create_of_error {e : Error} (h : validate limit q now = .error e) :
    (create limit t id q now).1 = .fail t e := by
  unfold create
  rw [h]

theorem create_of_taken (h : validate limit q now = .ok (created, expires))
    (hwritable : encodable [id, q.owner, q.data] = .ok ()) (htaken : t.contains id = true) :
    (create limit t id q now).1 = .fail t .duplicateId := by
  unfold create
  rw [h]
  dsimp only
  rw [hwritable, htaken]
  rfl

theorem create_of_fresh (h : validate limit q now = .ok (created, expires))
    (hwritable : encodable [id, q.owner, q.data] = .ok ()) (hfresh : t.contains id = false) :
    (create limit t id q now).1
      = ⟨.ok id, t.insert (q.row id created expires),
          [createdEntry (q.row id created expires).header]⟩ := by
  unfold create
  rw [h]
  dsimp only
  rw [hwritable, hfresh]
  rfl

end Creations

/-- What a creation under an id comes to. -/
structure Creates (limit : Option Int) (t : Table) (id : Text) (q : Request) (now : Stamp)
    (o : Outcome Text) : Prop where
  /-- It succeeds iff the request is granted and the id is new. -/
  accepted : o.result = .ok id ↔ q.Granted limit now ∧ t.contains id = false
  /-- A request that is not granted is rejected, and nothing is written. -/
  rejected : ¬ q.Granted limit now → ∃ e, e.isRejection = true ∧ o = .fail t e
  /-- An id that is taken is not given again. -/
  taken : q.Granted limit now → t.contains id = true → o = .fail t .duplicateId
  /-- A success adds one row. Whatever comes later, as long as it ignores the id, the next reader of
  the id is shown that row. -/
  stored : o.result = .ok id → ∃ r : Row, r.Keeps id q now
    ∧ o.table = t ++ [r] ∧ o.entries = [createdEntry r.header]
    ∧ ∀ later : List Call, (∀ c ∈ later, c.Ignores id) →
        ∀ now', ShownAs (o.table.after limit later) r.header q.data now'

/-- **A creation succeeds exactly for what is granted, and stores what was asked for**: on every
table, for every request whose texts have a UTF-8 form and whose times, on whatever clocks, are in
the calendar. -/
theorem creation_is_faithful (limit : Option Int) (t : Table) (id : Text) (q : Request) (now : Stamp)
    (hid : id.isScalar = true) (howner : q.owner.isScalar = true) (hdata : q.data.isScalar = true)
    (hnow : ¬ now.Outlying) (hdeadline : ¬ q.expiresAt.Outlying) :
    Creates limit t id q now (create limit t id q now).1 := by
  obtain ⟨created, hcreated⟩ := exists_utc hnow
  obtain ⟨expires, hexpires⟩ := exists_utc hdeadline
  have hwritable : encodable [id, q.owner, q.data] = .ok () :=
    encodable_eq_ok_iff.mpr (by simp [hid, howner, hdata])
  by_cases hgranted : q.Granted limit now
  · have hvalid := (validate_iff_granted hcreated hexpires).mpr hgranted
    cases hcontains : t.contains id with
    | true =>
      rw [create_of_taken hvalid hwritable hcontains]
      refine ⟨?_, fun h => absurd hgranted h, fun _ _ => rfl, ?_⟩
      · simp [Outcome.fail, hcontains]
      · intro h
        cases h
    | false =>
      rw [create_of_fresh hvalid hwritable hcontains]
      refine ⟨?_, fun h => absurd hgranted h, fun _ htaken => ?_, fun _ => ?_⟩
      · simp [hgranted, hcontains]
      · rw [hcontains] at htaken
        cases htaken
      refine ⟨_, keeps_row hcreated hexpires, rfl, rfl, ?_⟩
      -- calls that spare the row keep it where it is, so `get` shows it as created
      intro later hlater now'
      have hholds : (t.insert (q.row id created expires)).Holds (q.row id created expires) :=
        Table.holds_insert (Table.contains_eq_false.mp hcontains)
      exact shownAs_of_holds (hholds.after hlater) (encodable_head hwritable) rfl now'
  · obtain ⟨e, hrejection, he⟩ := exists_rejection hcreated hexpires hgranted
    rw [create_of_error he]
    refine ⟨?_, fun _ => ⟨e, hrejection, rfl⟩, fun h => absurd h hgranted, ?_⟩
    · simp [Outcome.fail, hgranted]
    · intro h
      cases h

/-! ## §4. Clocks that differ -/

/-- A request for one read until the second minute, by a clock half an hour ahead of UTC. -/
def aheadRequest : Request := ⟨"alice", "c2VhbGVk", ⟨(minute 32).wall, some 1800⟩, true⟩

/-- Somebody else uses the store, and the owner looks. -/
def meanwhile : List Call :=
  [⟨minute 2, .create (Text.hex 32 2) ⟨"bob", "b3RoZXI=", minute 9, false⟩⟩,
   ⟨minute 3, .list "alice"⟩, ⟨minute 3, .get (Text.hex 32 2)⟩]

/-- The second minute, by a clock two minutes behind UTC. -/
def behindMinute : Stamp := ⟨.first, some (-120)⟩

/-- A creation, a read at its deadline or a minute after it: the clocks all differ. -/
theorem creation_is_faithful_ahead :
    let o := (create (some 8) [] (Text.hex 32 1) aheadRequest (minute 1)).1
    aheadRequest.Granted (some 8) (minute 1) ∧ ¬ aheadRequest.expiresAt.Outlying
      ∧ o.result = .ok (Text.hex 32 1)
      ∧ ∃ r : Row, r.Keeps (Text.hex 32 1) aheadRequest (minute 1) ∧ o.table = [r]
        ∧ (get (o.table.after (some 8) meanwhile) r.header.id behindMinute).result
            = .ok (.live r.header "c2VhbGVk")
        ∧ (get (o.table.after (some 8) meanwhile) r.header.id (minute 3)).result
            = .ok (.expired r.header) := by
  intro o
  have hgranted : aheadRequest.Granted (some 8) (minute 1) := by
    refine ⟨by decide, ?_, by decide⟩
    intro n hn
    injection hn with hn
    subst hn
    decide
  have hdeadline : ¬ aheadRequest.expiresAt.Outlying := by decide
  have hcreates := creation_is_faithful (some 8) [] (Text.hex 32 1) aheadRequest (minute 1)
    (by decide) (by decide) (by decide) (by decide) hdeadline
  have hresult := hcreates.accepted.mpr ⟨hgranted, rfl⟩
  obtain ⟨r, hkeeps, htable, _, hshown⟩ := hcreates.stored hresult
  have hmeanwhile : ∀ c ∈ meanwhile, c.Ignores (Text.hex 32 1) := by decide
  have hatDeadline := (hshown meanwhile hmeanwhile behindMinute).live (by decide)
  have hafterwards := (hshown meanwhile hmeanwhile (minute 3)).expired (by decide)
  rw [hkeeps.expires] at hatDeadline hafterwards
  exact ⟨hgranted, hdeadline, hresult, r, hkeeps, htable, hatDeadline (by decide),
    hafterwards (by decide)⟩

/-- **A clock that UTC cannot show reads nothing**: a secret is stored, the deadline is past by that
clock, and yet its reader is not told that the secret is expired. -/
theorem creation_unread_beyond_calendar :
    let o := (create none [] (Text.hex 32 1) ⟨"alice", "c2VhbGVk", minute 1, false⟩ (minute 0)).1
    o.result = .ok (Text.hex 32 1) ∧ (minute 1).instant < beyondCalendar.instant
      ∧ ¬ ∃ h, (get o.table (Text.hex 32 1) beyondCalendar).result = .ok (.expired h) := by
  intro o
  refine ⟨by decide, by decide, ?_⟩
  have hunread : (get o.table (Text.hex 32 1) beyondCalendar).result = .error .outOfCalendar := by
    decide
  rw [hunread]
  rintro ⟨h, hexpired⟩
  cases hexpired

end SealedDrop.Store
