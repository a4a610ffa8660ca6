/-
  SealedDrop.Proofs.Store.Finality
  ────────────────────────────────
  **WHAT IS EXPIRED STAYS EXPIRED.**

  A reader that is told that a secret is expired may have a clock that is
  ahead.  Yet no later reader gets the envelope, whatever its own clock says:
  telling one reader has cleared it.  So a view that is expired once is expired
  for good, even when clocks go backwards.  A listing clears nothing, and what
  it shows as expired is so from its own time on.

  Both are one invariant, that every row of an id is expired at a moment
  (`GoneAt`).  It is kept by every call because a row of an id that is not drawn
  again stems from a row of it (`stems_after`).  Without an envelope it holds at
  every moment; of what a listing shows, at the moment of the listing.

      Settles   — a call after which an id is over
      StaysGone — what can be seen of the id from then on

  Main results:
    • `Settles.found_cleared` — such a call leaves no envelope of the id,
    • `expired_is_final` — nothing that follows in a run brings it back,
    • `read_fails_beyond_calendar` — but a clock that UTC cannot show gets no
      view at all.
-/
import SealedDrop.Proofs.Store.Run

namespace SealedDrop.Store

/-! ## §1. Tables as a database keeps them -/

/-- What a database keeps of a table, whatever was done to it: ids are its key, and they have a
UTF-8 form. -/
structure Table.WellKept (t : Table) : Prop where
  /-- Ids are a key. -/
  keyed : t.Keyed
  /-- Ids can be looked up. -/
  legible : ∀ r ∈ t, encodable [r.header.id] = .ok ()

theorem Table.wellKept_nil : Table.WellKept [] where
  keyed := Table.keyed_nil
  legible := fun _ hr => absurd hr List.not_mem_nil

theorem Table.WellKept.after {t : Table} (ht : t.WellKept) (limit : Option Int)
    (calls : List Call) : (t.after limit calls).WellKept where
  keyed := keyed_after limit t ht.keyed calls
  legible := by
    intro r' hr'
    rcases origin_after limit t calls hr' with
      ⟨r, hr, hstems⟩ | ⟨_, _, _, _, _, _, _, _, _, hwritable, _⟩
    · rw [hstems.1]
      exact ht.legible r hr
    · exact encodable_head hwritable

/-! ## §2. Gone at a moment -/

/-- Every row of an id is expired at a moment. -/
def Table.GoneAt (t : Table) (id : Text) (m : Moment) : Prop :=
  ∀ r ∈ t, r.header.id = id → r.isGone m = true

section GoneAt

variable {t : Table} {id : Text} {m : Moment}

theorem Table.goneAt_of_cleared (h : ∀ r ∈ t, r.header.id = id → r.data = none) (m : Moment) :
    t.GoneAt id m := fun r hr hid => Row.isGone_iff.mpr (.inl (h r hr hid))

/-- **Gone at a moment is gone at that moment after every run**, while the id is not drawn again. -/
theorem Table.GoneAt.after (h : t.GoneAt id m) (limit : Option Int) {calls : List Call}
    (hid : id ∉ drawnIds calls) : (t.after limit calls).GoneAt id m := by
  intro r' hr' hr'id
  obtain ⟨r, hr, hrid, hstems⟩ := stems_after limit t hid hr' hr'id
  exact hstems.isGone (h r hr hrid)

end GoneAt

/-! ## §3. Calls that settle -/

theorem finish_header (t : Table) (id : Text) (loaded : Row) (m : Moment) :
    (finish t id loaded m).1.header = loaded.header := by
  cases hv : loaded.view m with
  | expired h =>
    rw [finish_of_expired hv]
    exact (Row.view_eq_expired_iff.mp hv).1.symm
  | live h d =>
    have hh : loaded.header = h := (Row.view_eq_live_iff.mp hv).1
    cases hs : h.singleUse with
    | false =>
      rw [finish_of_lasting hv hs]
      exact hh.symm
    | true =>
      by_cases hg : ∀ r ∈ t, r.header.id = id → r.data = none
      · rw [(finish_of_gone hv hs hg).1]
        exact hh.symm
      · rw [(finish_of_present hv hs hg).1]
        exact hh.symm

/-- **A read whose view is expired, or is of a single-use secret, leaves no envelope of its id.** -/
theorem finish_clears_all {t : Table} {id : Text} {loaded : Row} {m : Moment}
    (hover : (finish t id loaded m).1.isExpired = true ∨ loaded.header.singleUse = true) :
    ∀ r ∈ (finish t id loaded m).2.1, r.header.id = id → r.data = none := by
  intro r hr hid
  cases hv : loaded.view m with
  | expired h =>
    rw [finish_of_expired hv] at hr
    obtain ⟨r₀, _, rfl⟩ := Table.of_mem_clearWhere hr
    have hpick : r₀.hasId id = true := Row.hasId_iff.mpr (Row.clearIf_header _ r₀ ▸ hid)
    show (if r₀.hasId id then r₀.clear else r₀).data = none
    rw [if_pos hpick]
    rfl
  | live h d =>
    obtain ⟨rfl, _, _⟩ := Row.view_eq_live_iff.mp hv
    cases hs : loaded.header.singleUse with
    | false =>
      -- a live view of a multi-use secret is neither expired nor of a single-use one
      rw [finish_of_lasting hv hs, hs] at hover
      rcases hover with hexpired | hsingle
      · cases hexpired
      · cases hsingle
    | true =>
      by_cases hg : ∀ r ∈ t, r.header.id = id → r.data = none
      · rw [(finish_of_gone hv hs hg).2] at hr
        exact hg r hr hid
      · rw [(finish_of_present hv hs hg).2] at hr
        exact Table.cleared_clearWhere hr hid

/-- A call after which an id is over. -/
inductive Settles (limit : Option Int) (t : Table) (id : Text) (c : Call) : Prop where
  /-- A read of it whose view is expired, or is of a single-use secret. -/
  | byRead {v : View} (asked : c.operation = .get id)
      (answer : (c.outcome limit t).result = .ok (.read v))
      (ended : v.isExpired = true ∨ v.header.singleUse = true)
  /-- An expiration that matches its row. -/
  | byExpiration {owner : Option Text} {r : Row} (asked : c.operation = .expire id owner)
      (answer : (c.outcome limit t).result = .ok .expired)
      (present : r ∈ t) (matched : r.isOf id owner = true)

section Settling

variable {limit : Option Int} {t : Table} {id : Text} {c : Call}

/-- **A call that settles an id finds its row, and leaves no envelope of it.** -/
theorem Settles.found_cleared (ht : t.WellKept) (h : Settles limit t id c) :
    (∃ r ∈ t, r.header.id = id)
      ∧ ∀ r ∈ (c.outcome limit t).table, r.header.id = id → r.data = none := by
  obtain ⟨now, operation⟩ := c
  cases h with
  | @byRead v asked answer ended =>
    subst asked
    change ((get t id now).map Answer.read).result = _ at answer
    show _ ∧ ∀ r ∈ (get t id now).table, _
    rcases get_cases t id now with
      ⟨e, _, hg⟩ | ⟨m, _, ⟨loaded, hloaded, hid, _, hg⟩ | ⟨_, hg⟩ | ⟨e, _, hg⟩⟩
    · rw [hg] at answer
      cases answer
    · rw [hg] at answer ⊢
      injection answer with answer
      injection answer with hv
      -- the view is the one that the read decided on
      change (finish t id loaded m).1 = v at hv
      subst hv
      rw [finish_header] at ended
      exact ⟨⟨loaded, hloaded, hid⟩, finish_clears_all ended⟩
    · rw [hg] at answer
      cases answer
    · rw [hg] at answer
      cases answer
  | @byExpiration owner r asked answer present matched =>
    subst asked
    change ((expire t id owner).map fun _ => Answer.expired).result = _ at answer
    show _ ∧ ∀ r ∈ (expire t id owner).table, _
    have hid : r.header.id = id := (Row.isOf_iff.mp matched).1
    rcases expire_cases t id owner with ⟨_, _, htable⟩ | ⟨e, _, ho⟩
    · rw [htable]
      refine ⟨⟨r, present, hid⟩, ?_⟩
      intro x hx hxid
      rcases Table.mem_clearWhere.mp hx with ⟨hmem, hleft⟩ | ⟨_, _, _, rfl⟩
      · -- the row that matched is the only one of the id
        have hsame : x = r := ht.keyed.eq hmem present (hxid.trans hid.symm)
        rw [hsame, matched] at hleft
        cases hleft
      · rfl
    · rw [ho] at answer
      cases answer

/-- **What a listing shows as expired is gone at the time of the listing.** -/
theorem goneAt_of_listed (ht : t.WellKept) {owner : Text} {views : List View} {h : Header}
    (asked : c.operation = .list owner)
    (answer : (c.outcome limit t).result = .ok (.listed views)) (shown : .expired h ∈ views) :
    (∃ r ∈ t, r.header.id = h.id)
      ∧ ∃ m, utc c.now = .ok m ∧ (c.outcome limit t).table.GoneAt h.id m := by
  obtain ⟨now, operation⟩ := c
  subst asked
  change ((list t owner now).map Answer.listed).result = _ at answer
  show _ ∧ ∃ m, utc now = .ok m ∧ (list t owner now).table.GoneAt h.id m
  rcases list_cases t owner now with ⟨m, hm, hl⟩ | ⟨e, hl⟩
  · rw [hl] at answer ⊢
    injection answer with answer
    injection answer with hviews
    rw [← hviews] at shown
    obtain ⟨r, hr, hview⟩ := List.mem_map.mp shown
    have hrow : r ∈ t := (Table.mem_ofOwner.mp hr).1
    obtain ⟨rfl, hgone⟩ := Row.view_eq_expired_iff.mp hview
    refine ⟨⟨r, hrow, rfl⟩, m, hm, ?_⟩
    -- ids are distinct, so the row that was listed is the only one of its id
    intro x hx hxid
    rw [ht.keyed.eq hx hrow hxid]
    exact Row.isGone_iff.mpr hgone
  · rw [hl] at answer
    cases answer

end Settling

/-! ## §4. Afterwards -/

/-- What can be seen at a time of an id that is over. -/
structure StaysGone (t : Table) (id : Text) (now : Stamp) : Prop where
  /-- A reader gets the expired view, or finds nothing. -/
  read : ∀ m, utc now = .ok m →
    (∃ h, (get t id now).result = .ok (.expired h)) ∨ (get t id now).result = .error (.notFound id)
  /-- A reader with a clock that UTC cannot show is told so. -/
  unread : ∀ e, utc now = .error e → (get t id now).result = .error e
  /-- No listing shows the id as live. -/
  listed : ∀ owner views, (list t owner now).result = .ok views →
    ∀ h d, .live h d ∈ views → h.id ≠ id

theorem staysGone_of_goneAt {t : Table} {id : Text} {now : Stamp} (he : encodable [id] = .ok ())
    (hgone : ∀ m, utc now = .ok m → t.GoneAt id m) : StaysGone t id now where
  read := fun m hm => get_of_gone hm he (hgone m hm)
  unread := by
    intro e hu
    unfold get
    rw [hu]
    rfl
  listed := by
    intro owner views hresult h d hshown hid
    rcases list_cases t owner now with ⟨m, hm, hl⟩ | ⟨e, hl⟩
    · -- a live view in a listing is of a live row
      rw [hl] at hresult
      injection hresult with hviews
      rw [← hviews] at hshown
      obtain ⟨r, hr, hview⟩ := List.mem_map.mp hshown
      obtain ⟨rfl, _, _⟩ := Row.view_eq_live_iff.mp hview
      rw [Row.view_of_isGone (hgone m hm r (Table.mem_ofOwner.mp hr).1 hid)] at hview
      cases hview
    · rw [hl] at hresult
      cases hresult

/-- **Expired is final.**  In every run of the store, on a table as a database keeps it, in which an
id is not drawn again after a call: if the call settles the id, no later reader and no later listing
gets to see its envelope, whatever time it is for them; if the call is a listing that shows the id
as expired, none does for which it is not earlier than it was for the listing. -/
theorem expired_is_final (limit : Option Int) (t : Table) (ht : t.WellKept) (before : List Call)
    (c : Call) (later : List Call) (id : Text) (hid : id ∉ drawnIds later) :
    (Settles limit (t.after limit before) id c →
      ∀ now, StaysGone (t.after limit (before ++ c :: later)) id now)
    ∧ ∀ owner views h, c.operation = .list owner →
        (c.outcome limit (t.after limit before)).result = .ok (.listed views) →
        .expired h ∈ views → h.id = id →
        ∀ now : Stamp, c.now.instant ≤ now.instant →
          StaysGone (t.after limit (before ++ c :: later)) id now := by
  have hkept : (t.after limit before).WellKept := ht.after limit before
  have hafter : t.after limit (before ++ c :: later)
      = (c.outcome limit (t.after limit before)).table.after limit later :=
    Table.after_append limit t before (c :: later)
  -- an id that has a row can be looked up
  have hlegible : (∃ r ∈ t.after limit before, r.header.id = id) → encodable [id] = .ok () := by
    rintro ⟨r, hr, rfl⟩
    exact hkept.legible r hr
  rw [hafter]
  constructor
  · intro hsettles now
    obtain ⟨hfound, hcleared⟩ := hsettles.found_cleared hkept
    refine staysGone_of_goneAt (hlegible hfound) ?_
    intro m _
    exact (Table.goneAt_of_cleared hcleared m).after limit hid
  · rintro owner views h asked answer shown rfl now hnow
    obtain ⟨hfound, m, hm, hgone⟩ := goneAt_of_listed hkept asked answer shown
    refine staysGone_of_goneAt (hlegible hfound) ?_
    intro n hn r hr hrid
    -- the moment of the listing has come for the reader too
    have hmn : m ≤ n := by
      have hmi := instant_of_utc hm
      have hni := instant_of_utc hn
      show m.micros ≤ n.micros
      omega
    exact Row.isGone_mono hmn (hgone.after limit hid r hr hrid)

/-- A secret that can be read for a minute. -/
def briefCreation : Call :=
  ⟨minute 0, .create (Text.hex 32 1) ⟨"alice", "c2VhbGVk", minute 1, false⟩⟩

/-- A reader whose clock is two minutes on. -/
def aheadRead : Call := ⟨minute 2, .get (Text.hex 32 1)⟩

/-- What the secret is shown as once it is expired. -/
def briefHeader : Header := ⟨Text.hex 32 1, "alice", (minute 0).wall, (minute 1).wall, false⟩

theorem settles_aheadRead :
    Settles none (Table.after none [] [briefCreation]) (Text.hex 32 1) aheadRead := by
  have answer : (aheadRead.outcome none (Table.after none [] [briefCreation])).result
      = .ok (.read (.expired briefHeader)) := by decide
  exact .byRead rfl answer (.inl rfl)

/-- A reader whose clock is right comes after one whose clock is ahead, or after a listing. -/
theorem expired_is_final_early :
    Table.WellKept [] ∧ Text.hex 32 1 ∉ drawnIds [⟨minute 1, .list "alice"⟩]
      ∧ Settles none (Table.after none [] [briefCreation]) (Text.hex 32 1) aheadRead
      ∧ StaysGone (Table.after none [] [briefCreation, aheadRead, ⟨minute 1, .list "alice"⟩])
          (Text.hex 32 1) (minute 1)
      ∧ StaysGone (Table.after none [] [briefCreation, ⟨minute 2, .list "alice"⟩])
          (Text.hex 32 1) (minute 3) := by
  have hid : Text.hex 32 1 ∉ drawnIds [⟨minute 1, .list "alice"⟩] := by decide
  have hread := (expired_is_final none [] Table.wellKept_nil [briefCreation] aheadRead
    [⟨minute 1, .list "alice"⟩] (Text.hex 32 1) hid).1 settles_aheadRead (minute 1)
  have hlisted := (expired_is_final none [] Table.wellKept_nil [briefCreation]
    ⟨minute 2, .list "alice"⟩ [] (Text.hex 32 1) List.not_mem_nil).2 "alice"
    [.expired briefHeader] briefHeader rfl (by decide +kernel) List.mem_cons_self rfl (minute 3)
    (by decide)
  exact ⟨Table.wellKept_nil, hid, settles_aheadRead, hread, hlisted⟩

/-- **A clock that UTC cannot show gets no view**: after a reader was told that a secret is expired,
one with such a clock is told neither that nor that there is none. -/
theorem read_fails_beyond_calendar :
    Settles none (Table.after none [] [briefCreation]) (Text.hex 32 1) aheadRead
      ∧ ¬ ((∃ h, (get (Table.after none [] [briefCreation, aheadRead]) (Text.hex 32 1)
              beyondCalendar).result = .ok (.expired h))
          ∨ (get (Table.after none [] [briefCreation, aheadRead]) (Text.hex 32 1)
              beyondCalendar).result = .error (.notFound (Text.hex 32 1))) := by
  have hfails : (get (Table.after none [] [briefCreation, aheadRead]) (Text.hex 32 1)
      beyondCalendar).result = .error .outOfCalendar := by decide
  refine ⟨settles_aheadRead, ?_⟩
  rw [hfails]
  rintro (⟨h, hexpired⟩ | hmissing)
  · cases hexpired
  · cases hmissing

end SealedDrop.Store
