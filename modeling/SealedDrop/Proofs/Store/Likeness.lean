/-
  SealedDrop.Proofs.Store.Likeness
  ────────────────────────────────
  **TABLES THAT AN ANONYMOUS READER CANNOT TELL APART.**

  Two tables are alike at a time if they hold the same live rows, their owners
  aside.  Rows past their deadline, rows without an envelope and rows that only
  one of the tables has do not count.

      Row.anonymous — a row without its owner
      Table.Alike   — the same live rows, at a time
      disclosed     — what an anonymous reader learns from the result of a read

  A read at a time at which two tables are alike discloses the same of both and
  leaves them alike (`get_alike`).  It clears rows that are expired, which do
  not count, or the row that it discloses, in both tables.  And what is alike at
  a time is alike from then on (`Alike.mono`), so reads in the order of time
  never tell the tables apart.

  Main results:
    • `Alike.mono`, `Alike.clearWhere`, `alike_clearWhere` — what keeps tables alike,
    • `get_disclosed` — what a read discloses of a table, and leaves of it,
    • `get_alike` — alike tables disclose the same and stay alike.
-/
import SealedDrop.Proofs.Store.Expiry

namespace SealedDrop.Store

/-! ## §1. Live rows without their owners -/

/-- The row without its owner. -/
def Row.anonymous (r : Row) : Row := ⟨{ r.header with owner := [] }, r.data⟩

/-- Whether a row is live at a time, which may lie outside the calendar. -/
def Row.isLive (now : Stamp) (r : Row) : Bool := r.data.isSome && !r.isPast now

/-- A live row has an envelope and a deadline that is not past. -/
theorem Row.isLive_eq_true_iff {now : Stamp} {r : Row} :
    r.isLive now = true ↔ r.data.isSome = true ∧ r.isPast now = false := by
  unfold isLive
  rw [Bool.and_eq_true, Bool.not_eq_true']

/-- Under a clock in the calendar, a row that is not live is one that `isGone`. -/
theorem Row.isLive_eq_false_iff {now : Stamp} {m : Moment} (h : utc now = .ok m) {r : Row} :
    r.isLive now = false ↔ r.isGone m = true := by
  unfold isLive
  rw [Row.isGone_iff, Bool.and_eq_false_iff, Bool.not_eq_false', Row.isPast_iff h,
    Option.isSome_eq_false_iff, Option.isNone_iff_eq_none]

/-- The same the other way about. -/
theorem Row.isLive_iff {now : Stamp} {m : Moment} (h : utc now = .ok m) {r : Row} :
    r.isLive now = true ↔ r.isGone m = false := by
  rw [← Bool.not_eq_false, Row.isLive_eq_false_iff h, Bool.not_eq_true]

/-- What is live later was live before: deadlines do not move. -/
theorem Row.isLive_anti {a b : Stamp} (hab : a.instant ≤ b.instant) {r : Row}
    (h : r.isLive b = true) : r.isLive a = true := by
  unfold isLive isPast at h ⊢
  rw [Bool.and_eq_true, Bool.not_eq_true', decide_eq_false_iff_not] at h ⊢
  refine ⟨h.1, ?_⟩
  omega

section Anonymous

variable {r r' : Row} (h : r'.anonymous = r.anonymous)

include h

theorem Row.data_of_anonymous : r'.data = r.data := by
  show r'.anonymous.data = r.anonymous.data
  rw [h]

theorem Row.id_of_anonymous : r'.header.id = r.header.id := by
  show r'.anonymous.header.id = r.anonymous.header.id
  rw [h]

theorem Row.singleUse_of_anonymous : r'.header.singleUse = r.header.singleUse := by
  show r'.anonymous.header.singleUse = r.anonymous.header.singleUse
  rw [h]

/-- Rows that only differ in their owner are live at the same times. -/
theorem Row.isLive_of_anonymous (now : Stamp) : r'.isLive now = r.isLive now := by
  have hexpires : r'.anonymous.header.expiresAt = r.anonymous.header.expiresAt := by rw [h]
  change r'.header.expiresAt = r.header.expiresAt at hexpires
  unfold isLive isPast
  rw [Row.data_of_anonymous h, hexpires]

end Anonymous

/-! ## §2. Alike tables -/

/-- Every live row of a table is one of another, owners aside. -/
def Table.ShownBy (now : Stamp) (t' t : Table) : Prop :=
  ∀ r ∈ t, r.isLive now = true → ∃ r' ∈ t', r'.anonymous = r.anonymous

instance (now : Stamp) (t' t : Table) : Decidable (t'.ShownBy now t) :=
  inferInstanceAs (Decidable (∀ r ∈ t, r.isLive now = true → ∃ r' ∈ t', r'.anonymous = r.anonymous))

/-- Two tables hold the same live rows, owners aside. -/
structure Table.Alike (now : Stamp) (t t' : Table) : Prop where
  right : t'.ShownBy now t
  left : t.ShownBy now t'

section Alike

variable {now : Stamp} {t t' t'' : Table} {p : Row → Bool}

/-- What one table shows of another, it shows of a third. -/
theorem Table.ShownBy.trans (h' : t''.ShownBy now t') (h : t'.ShownBy now t) :
    t''.ShownBy now t := by
  intro r hr hlive
  obtain ⟨r', hr', hsame'⟩ := h r hr hlive
  obtain ⟨r'', hr'', hsame''⟩ := h' r' hr' ((Row.isLive_of_anonymous hsame' now).trans hlive)
  exact ⟨r'', hr'', hsame''.trans hsame'⟩

theorem Table.Alike.refl (now : Stamp) (t : Table) : t.Alike now t :=
  ⟨fun r hr _ => ⟨r, hr, rfl⟩, fun r hr _ => ⟨r, hr, rfl⟩⟩

theorem Table.Alike.symm (h : t.Alike now t') : t'.Alike now t := ⟨h.left, h.right⟩

theorem Table.Alike.trans (h : t.Alike now t') (h' : t'.Alike now t'') : t.Alike now t'' :=
  ⟨h'.right.trans h.right, h.left.trans h'.left⟩

/-- **What is alike at a time is alike from then on.** -/
theorem Table.Alike.mono {a b : Stamp} (hab : a.instant ≤ b.instant) (h : t.Alike a t') :
    t.Alike b t' where
  right := fun r hr hlive => h.right r hr (Row.isLive_anti hab hlive)
  left := fun r hr hlive => h.left r hr (Row.isLive_anti hab hlive)

/-- Clearing rows that are over anyway shows nobody anything. -/
theorem Table.alike_clearWhere (hp : ∀ r ∈ t, p r = true → r.isLive now = false) :
    t.Alike now (t.clearWhere p) where
  right := by
    intro r hr hlive
    have hleft : p r = false := by
      refine Bool.eq_false_iff.mpr ?_
      intro hpick
      rw [hp r hr hpick] at hlive
      cases hlive
    exact ⟨r, Table.mem_clearWhere.mpr (.inl ⟨hr, hleft⟩), rfl⟩
  left := by
    intro r hr hlive
    rcases Table.mem_clearWhere.mp hr with ⟨hmem, _⟩ | ⟨_, _, _, rfl⟩
    · exact ⟨r, hmem, rfl⟩
    · cases hlive

/-- Clearing the same rows in both, whoever owns them, keeps them alike. -/
theorem Table.ShownBy.clearWhere (hp : ∀ r r', r'.anonymous = r.anonymous → p r' = p r)
    (h : t'.ShownBy now t) : (t'.clearWhere p).ShownBy now (t.clearWhere p) := by
  intro r hr hlive
  rcases Table.mem_clearWhere.mp hr with ⟨hmem, hleft⟩ | ⟨_, _, _, rfl⟩
  · obtain ⟨r', hr', hsame⟩ := h r hmem hlive
    exact ⟨r', Table.mem_clearWhere.mpr (.inl ⟨hr', (hp r r' hsame).trans hleft⟩), hsame⟩
  · cases hlive

/-- Alike tables stay alike when a condition that ignores owners clears them. -/
theorem Table.Alike.clearWhere (hp : ∀ r r', r'.anonymous = r.anonymous → p r' = p r)
    (h : t.Alike now t') : (t.clearWhere p).Alike now (t'.clearWhere p) :=
  ⟨h.right.clearWhere hp, h.left.clearWhere hp⟩

end Alike

/-! ## §3. What a read discloses -/

/-- What an anonymous reader learns from the result of a read: a live row without its owner, or that
there is none; how else a read fails is not about the row. -/
def disclosed : Except Error View → Except Error (Option Row)
  | .ok (.live h d) => .ok (some (Row.mk h (some d)).anonymous)
  | .ok (.expired _) => .ok none
  | .error (.notFound _) => .ok none
  | .error e => .error e

section Reads

variable {now : Stamp} {m : Moment} {t t' : Table} {id : Text}

/-- **A read discloses the live row of its id, which it clears if it is single-use; or the id has no
live row, and whatever the read does is not seen.** -/
theorem get_disclosed (hm : utc now = .ok m) (he : encodable [id] = .ok ()) (hkeyed : t.Keyed) :
    (∃ r ∈ t, r.header.id = id ∧ r.isLive now = true
      ∧ disclosed (get t id now).result = .ok (some r.anonymous)
      ∧ (get t id now).table = if r.header.singleUse
          then t.clearWhere (fun r => r.hasId id && r.data.isSome) else t)
    ∨ ((∀ r ∈ t, r.header.id = id → r.isLive now = false)
      ∧ disclosed (get t id now).result = .ok none ∧ t.Alike now (get t id now).table) := by
  rcases get_cases t id now with ⟨e, hu, _⟩ | ⟨n, hn, ⟨r, hr, hid, _, hg⟩ | ⟨hnone, hg⟩ | ⟨e, hbad, _⟩⟩
  · rw [hm] at hu
    cases hu
  · have hsame : m = n := Except.ok.inj (hm.symm.trans hn)
    subst hsame
    cases hgone : r.isGone m with
    | true =>
      -- the row is the only one of its id, and nobody sees it cleared
      have hdead : ∀ x ∈ t, x.header.id = id → x.isLive now = false := by
        intro x hx hxid
        rw [hkeyed.eq hx hr (hxid.trans hid.symm)]
        exact (Row.isLive_eq_false_iff hm).mpr hgone
      rw [hg, finished, finish_of_expired (Row.view_of_isGone hgone)]
      exact .inr ⟨hdead, rfl,
        Table.alike_clearWhere fun x hx hpick => hdead x hx (Row.hasId_iff.mp hpick)⟩
    | false =>
      obtain ⟨d, hd, hv⟩ := Row.view_of_not_isGone hgone
      have hlive : r.isLive now = true := (Row.isLive_iff hm).mpr hgone
      have hrow : (Row.mk r.header (some d)).anonymous = r.anonymous := by
        unfold Row.anonymous
        rw [hd]
      refine .inl ⟨r, hr, hid, hlive, ?_⟩
      rw [hg, finished, ← hrow]
      cases hs : r.header.singleUse with
      | false =>
        rw [finish_of_lasting hv hs]
        exact ⟨rfl, rfl⟩
      | true =>
        have hpresent : ¬ ∀ x ∈ t, x.header.id = id → x.data = none := by
          intro hcleared
          rw [hcleared r hr hid] at hd
          cases hd
        obtain ⟨hview, htable⟩ := finish_of_present hv hs hpresent
        rw [hview, htable]
        exact ⟨rfl, rfl⟩
  · rw [hg]
    exact .inr ⟨fun r hr hid => absurd hid (hnone r hr), rfl, .refl now t⟩
  · rw [he] at hbad
    cases hbad

/-- A row of an id is live in a table if one is live in an alike one. -/
theorem Table.Alike.not_dead (h : t.Alike now t') {r : Row} (hr : r ∈ t) (hlive : r.isLive now = true)
    (hdead : ∀ r' ∈ t', r'.header.id = r.header.id → r'.isLive now = false) : False := by
  obtain ⟨r', hr', hsame⟩ := h.right r hr hlive
  have hlive' : r'.isLive now = true := (Row.isLive_of_anonymous hsame now).trans hlive
  rw [hdead r' hr' (Row.id_of_anonymous hsame)] at hlive'
  cases hlive'

/-- **Alike tables disclose the same to a read, and stay alike.** -/
theorem get_alike (hm : utc now = .ok m) (hkeyed : t.Keyed) (hkeyed' : t'.Keyed)
    (h : t.Alike now t') (id : Text) :
    disclosed (get t id now).result = disclosed (get t' id now).result
      ∧ (get t id now).table.Alike now (get t' id now).table := by
  cases he : encodable [id] with
  | error e =>
    have hfails : ∀ t : Table, get t id now = .fail t e := by
      intro t
      unfold get load
      rw [hm, he]
    rw [hfails, hfails]
    exact ⟨rfl, h⟩
  | ok _ =>
    rcases get_disclosed hm he hkeyed, get_disclosed hm he hkeyed' with
      ⟨⟨r, hr, hid, hlive, hresult, htable⟩ | ⟨hdead, hresult, htable⟩,
       ⟨r', hr', hid', hlive', hresult', htable'⟩ | ⟨hdead', hresult', htable'⟩⟩
    · -- both have a live row of the id, and ids are keys: it is the same, owners aside
      have hsame : r'.anonymous = r.anonymous := by
        obtain ⟨x, hx, hxr⟩ := h.right r hr hlive
        rw [← hkeyed'.eq hx hr' ((Row.id_of_anonymous hxr).trans (hid.trans hid'.symm)), hxr]
      rw [hresult, hresult', hsame, htable, htable', Row.singleUse_of_anonymous hsame]
      refine ⟨rfl, ?_⟩
      cases r.header.singleUse with
      | false => exact h
      | true =>
        refine h.clearWhere ?_
        intro x x' hx
        unfold Row.hasId
        rw [Row.id_of_anonymous hx, Row.data_of_anonymous hx]
    · exact (h.not_dead hr hlive (hid ▸ hdead')).elim
    · exact (h.symm.not_dead hr' hlive' (hid' ▸ hdead)).elim
    · rw [hresult, hresult']
      exact ⟨rfl, htable.symm.trans (h.trans htable')⟩

end Reads

end SealedDrop.Store
