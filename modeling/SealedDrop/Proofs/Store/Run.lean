/-
  SealedDrop.Proofs.Store.Run
  ───────────────────────────
  **ONE CALL AFTER ANOTHER.**

  A `Call` is an operation of the store and the time at which it is asked for;
  a run is a list of calls, each carried out on the table that the one before
  it has left.  A creation carries the id that is drawn for it.  A late read is
  one that loaded its row earlier and finishes now, on whatever it then held.

      Call.outcome  — what comes of a call: result, table, entries
      Call.log      — its entries, and the details that it writes down after them
      Table.after   — the table after a run

  What a call can do to the table is said once (`Change`).  From it: where the
  rows of a table come from, over any run (`origin_after`), so a row whose id
  is not drawn again is the row of that id that was there before
  (`stems_after`).  A row that is the only one of its id stays so, as it is,
  until a call names the id or purges (`Table.Holds.after`).

  Main results:
    • `Call.change` — whatever a call does to the table is on the list,
    • `keyed_after` — every run keeps ids a key of the table,
    • `origin_after`, `stems_after` — a row stems from an earlier one, or from
      the creation that drew its id,
    • `get_of_holds` — a read of the only row of an id shows the row.
-/
import SealedDrop.Proofs.Store.Operation

namespace SealedDrop.Store

/-! ## §1. Calls -/

/-- An operation of the store. -/
inductive Operation where
  /-- A creation, with the id that is drawn for it. -/
  | create (freshId : Text) (q : Request)
  | list (owner : Text)
  | get (id : Text)
  /-- The end of a read that loaded its row earlier. -/
  | finish (id : Text) (loaded : Snapshot)
  | expire (id : Text) (owner : Option Text)
  | purge
  deriving DecidableEq, Repr

namespace Operation

/-- The id that is drawn, by a creation. -/
def freshId? : Operation → Option Text
  | .create id _ => some id
  | _ => none

/-- The id that is named, by a read or an expiration. -/
def target? : Operation → Option Text
  | .get id | .finish id _ | .expire id _ => some id
  | _ => none

def readId? : Operation → Option Text
  | .get id | .finish id _ => some id
  | _ => none

/-- Whether a read ends that was begun earlier. -/
def isLate : Operation → Bool
  | .finish _ _ => true
  | _ => false

end Operation

/-- An operation, and the time at which it is asked for. -/
structure Call where
  /-- The time; an expiration does not look at it. -/
  now : Stamp
  operation : Operation
  deriving DecidableEq, Repr

/-- What a call that does not fail comes to. -/
inductive Answer where
  | created (id : Text)
  | listed (views : List View)
  | read (view : View)
  | expired
  | purged (count : Nat)
  deriving DecidableEq, Repr

/-- An outcome whose result is given another form. -/
def Outcome.map {α β : Type} (f : α → β) (o : Outcome α) : Outcome β :=
  ⟨o.result.map f, o.table, o.entries⟩

/-- What comes of a call. -/
def Call.outcome (limit : Option Int) (t : Table) (c : Call) : Outcome Answer :=
  match c.operation with
  | .create id q => (create limit t id q c.now).1.map .created
  | .list owner => (list t owner c.now).map .listed
  | .get id => (get t id c.now).map .read
  | .finish id loaded => (getStale t id loaded c.now).map .read
  | .expire id owner => (expire t id owner).map fun _ => .expired
  | .purge => (purge t c.now).map .purged

/-- The detail that a listing writes down. -/
def listedEntry (owner : Text) (count : Nat) : Journal.Entry :=
  .debug ("Listed " ++ Text.ofNat count ++ " shared secrets for " ++ owner)

/-- The detail that a read writes down. -/
def readEntry (id : Text) (isExpired : Bool) : Journal.Entry :=
  .debug ("Read shared secret " ++ id ++ " (expired: " ++ shownBool isExpired ++ ")")

/-- The details that an operation writes down about its answer. -/
def Operation.details : Operation → Answer → List Journal.Entry
  | .list owner, .listed views => [listedEntry owner views.length]
  | .get id, .read view | .finish id _, .read view => [readEntry id view.isExpired]
  | _, _ => []

/-- All that a call writes down. -/
def Call.log (limit : Option Int) (t : Table) (c : Call) : List Journal.Entry :=
  (c.outcome limit t).entries ++
    match (c.outcome limit t).result with
    | .ok a => c.operation.details a
    | .error _ => []

/-- The table after calls in order. -/
def Table.after (limit : Option Int) (t : Table) (calls : List Call) : Table :=
  calls.foldl (fun t c => (c.outcome limit t).table) t

/-- The ids that are drawn in a run. -/
def drawnIds (calls : List Call) : List Text := calls.filterMap fun c => c.operation.freshId?

/-- So many minutes into the first hour of the calendar. -/
def minute (n : Nat) : Stamp :=
  ⟨⟨n % 60 * (60 * microsPerSecond),
    Nat.lt_of_lt_of_le (Nat.mul_lt_mul_of_pos_right (Nat.mod_lt n (by decide)) (by decide))
      (by decide)⟩, none⟩

/-- A run of two parts is one run after the other. -/
theorem Table.after_append (limit : Option Int) (t : Table) (before later : List Call) :
    t.after limit (before ++ later) = (t.after limit before).after limit later :=
  List.foldl_append

/-- The last call acts on what the others leave. -/
theorem Table.after_concat (limit : Option Int) (t : Table) (calls : List Call) (c : Call) :
    t.after limit (calls ++ [c]) = (c.outcome limit (t.after limit calls)).table :=
  List.foldl_concat _ t c calls

/-- The ids that a run draws are those of its parts. -/
theorem drawnIds_append (before later : List Call) :
    drawnIds (before ++ later) = drawnIds before ++ drawnIds later :=
  List.filterMap_append

/-- An id is drawn by a creation of the run. -/
theorem mem_drawnIds {calls : List Call} {id : Text} :
    id ∈ drawnIds calls ↔ ∃ c ∈ calls, c.operation.freshId? = some id :=
  List.mem_filterMap

/-! ## §2. What a call does to the table -/

/-- What a call may do to a table. -/
inductive Change (limit : Option Int) (c : Call) (t : Table) : Table → Prop where
  | nothing : Change limit c t t
  /-- It creates a secret under the id that was drawn. -/
  | insert {id : Text} {q : Request} {created expires : Moment}
      (asked : c.operation = .create id q) (valid : validate limit q c.now = .ok (created, expires))
      (writable : encodable [id, q.owner, q.data] = .ok ()) (fresh : ∀ r ∈ t, r.header.id ≠ id) :
      Change limit c t (t.insert (q.row id created expires))
  /-- It clears rows of the id that it names. -/
  | clear {id : Text} {p : Row → Bool} (named : c.operation.target? = some id)
      (picks : ∀ r, p r = true → r.header.id = id) : Change limit c t (t.clearWhere p)
  /-- It purges the rows that are expired. -/
  | drop {m : Moment} (asked : c.operation = .purge) (clock : utc c.now = .ok m) :
      Change limit c t (t.dropWhere (Row.isGone m))

/-- The end of a read clears rows of its id at most. -/
theorem Change.of_finished {limit : Option Int} {c : Call} {id : Text}
    (hid : c.operation.target? = some id) (t : Table) (loaded : Row) (m : Moment) :
    Change limit c t (finished t id loaded m).table := by
  show Change limit c t (finish t id loaded m).2.1
  rcases finish_clears t id loaded m with ht | ⟨p, hp, _, ht⟩
  · rw [ht]
    exact .nothing
  · rw [ht]
    exact .clear hid hp

/-- **Whatever a call does to the table is on the list.** -/
theorem Call.change (limit : Option Int) (t : Table) (c : Call) :
    Change limit c t (c.outcome limit t).table := by
  obtain ⟨now, operation⟩ := c
  -- one case for each operation, from the list of its ends
  cases operation with
  | create id q =>
    show Change limit _ t (create limit t id q now).1.table
    rcases create_cases limit t id q now with ⟨created, expires, hvalid, he, hfresh, _, ho⟩ | ⟨e, ho⟩
    · rw [ho]
      exact .insert rfl hvalid he hfresh
    · rw [ho]
      exact .nothing
  | list owner =>
    show Change limit _ t (list t owner now).table
    rw [list_table]
    exact .nothing
  | get id =>
    show Change limit _ t (get t id now).table
    rcases get_cases t id now with ⟨e, _, hg⟩ | ⟨m, _, ⟨r, _, _, _, hg⟩ | ⟨_, hg⟩ | ⟨e, _, hg⟩⟩
    · rw [hg]
      exact .nothing
    · rw [hg]
      exact .of_finished rfl t r m
    · rw [hg]
      exact .nothing
    · rw [hg]
      exact .nothing
  | finish id loaded =>
    show Change limit _ t (getStale t id loaded now).table
    rcases getStale_cases t id loaded now with ⟨e, hg⟩ | ⟨m, r, _, _, hg⟩
    · rw [hg]
      exact .nothing
    · rw [hg]
      exact .of_finished rfl t r m
  | expire id owner =>
    show Change limit _ t (expire t id owner).table
    rcases expire_cases t id owner with ⟨_, _, ht⟩ | ⟨e, _, ho⟩
    · rw [ht]
      exact .clear rfl fun r hr => (Row.isOf_iff.mp hr).1
    · rw [ho]
      exact .nothing
  | purge =>
    show Change limit _ t (purge t now).table
    rcases purge_cases t now with ⟨m, hm, _, ht⟩ | ⟨e, _, ho⟩
    · rw [ht]
      exact .drop rfl hm
    · rw [ho]
      exact .nothing

section Changes

variable {limit : Option Int} {c : Call} {t t' : Table}

/-- No change puts two rows under one id. -/
theorem Change.keyed (h : Change limit c t t') (ht : t.Keyed) : t'.Keyed := by
  cases h with
  | nothing => exact ht
  | insert asked valid writable fresh => exact ht.insert fresh
  | clear named picks => exact ht.clearWhere _
  | drop asked clock => exact ht.dropWhere _

/-- A row after a call stems from one before it, or the call is the creation that drew its id. -/
theorem Change.origin (h : Change limit c t t') {r' : Row} (hr' : r' ∈ t') :
    (∃ r ∈ t, r'.StemsFrom r)
    ∨ ∃ q created expires, c.operation = .create r'.header.id q
        ∧ validate limit q c.now = .ok (created, expires)
        ∧ encodable [r'.header.id, q.owner, q.data] = .ok ()
        ∧ r' = q.row r'.header.id created expires := by
  cases h with
  | nothing => exact .inl ⟨r', hr', .refl r'⟩
  | insert asked valid writable fresh =>
    rcases Table.mem_insert.mp hr' with hr | rfl
    · exact .inl ⟨r', hr, .refl r'⟩
    · exact .inr ⟨_, _, _, asked, valid, writable, rfl⟩
  | @clear id p named picks =>
    obtain ⟨r, hr, rfl⟩ := Table.of_mem_clearWhere hr'
    exact .inl ⟨r, hr, Row.clearIf_stems p r⟩
  | drop asked clock => exact .inl ⟨r', (Table.mem_dropWhere.mp hr').1, .refl r'⟩

/-- A row before a call has one after it that stems from it, unless the call is a purge. -/
theorem Change.kept (h : Change limit c t t') (hc : c.operation ≠ .purge) {r : Row} (hr : r ∈ t) :
    ∃ r' ∈ t', r'.StemsFrom r := by
  cases h with
  | nothing => exact ⟨r, hr, .refl r⟩
  | insert asked valid writable fresh => exact ⟨r, Table.mem_insert.mpr (.inl hr), .refl r⟩
  | @clear id p named picks =>
    exact ⟨r.clearIf p, List.mem_map.mpr ⟨r, hr, rfl⟩, Row.clearIf_stems p r⟩
  | drop asked clock => exact absurd asked hc

/-- Clearing rows of one id leaves the others. -/
theorem others_clearWhere (t : Table) {id : Text} {p : Row → Bool}
    (hp : ∀ r, p r = true → r.header.id = id) :
    (t.clearWhere p).filter (fun r => !r.hasId id) = t.filter fun r => !r.hasId id := by
  unfold Table.clearWhere
  induction t with
  | nil => rfl
  | cons r t ih =>
    rw [List.map_cons, List.filter_cons, List.filter_cons, ih]
    by_cases hpick : p r = true
    · -- a row that is picked is left out on both sides
      have hr : r.hasId id = true := Row.hasId_iff.mpr (hp r hpick)
      have hclear : r.clear.hasId id = true := hr
      rw [if_pos hpick, hr, hclear]
      rfl
    · rw [if_neg hpick]

/-- A call that names an id leaves the rows of other ids as they are. -/
theorem Change.others (h : Change limit c t t') {id : Text}
    (hid : c.operation.target? = some id) :
    t'.filter (fun r => !r.hasId id) = t.filter fun r => !r.hasId id := by
  cases h with
  | nothing => rfl
  | insert asked valid writable fresh =>
    rw [asked] at hid
    cases hid
  | clear named picks =>
    rw [hid] at named
    injection named with hsame
    subst hsame
    exact others_clearWhere t picks
  | drop asked clock =>
    rw [asked] at hid
    cases hid

end Changes

/-! ## §3. Runs -/

section Runs

variable (limit : Option Int) (t : Table)

/-- A run keeps a table keyed. -/
theorem keyed_after (ht : t.Keyed) (calls : List Call) : (t.after limit calls).Keyed := by
  induction calls generalizing t with
  | nil => exact ht
  | cons c calls ih => exact ih _ ((c.change limit t).keyed ht)

/-- **A row stems from one that was there before the run, or from the creation in the run that drew
its id.** -/
theorem origin_after (calls : List Call) {r' : Row} (hr' : r' ∈ t.after limit calls) :
    (∃ r ∈ t, r'.StemsFrom r)
    ∨ ∃ before c later q created expires, calls = before ++ c :: later
        ∧ c.operation = .create r'.header.id q ∧ validate limit q c.now = .ok (created, expires)
        ∧ encodable [r'.header.id, q.owner, q.data] = .ok ()
        ∧ q.row r'.header.id created expires ∈ t.after limit (before ++ [c])
        ∧ r'.StemsFrom (q.row r'.header.id created expires) := by
  induction calls generalizing t with
  | nil => exact .inl ⟨r', hr', .refl r'⟩
  | cons c calls ih =>
    rcases ih _ hr' with ⟨r₁, hr₁, hstems⟩ |
        ⟨before, c', later, q, created, expires, rfl, hc, hvalid, he, hrow, hstems⟩
    · -- the row was there after the first call, which made it or found it
      rcases (c.change limit t).origin hr₁ with
        ⟨r, hr, hr₁r⟩ | ⟨q, created, expires, hc, hvalid, he, hnew⟩
      · exact .inl ⟨r, hr, hstems.trans hr₁r⟩
      · rw [← hstems.1] at hc he hnew
        exact .inr ⟨[], c, calls, q, created, expires, rfl, hc, hvalid, he, hnew ▸ hr₁,
          hnew ▸ hstems⟩
    · exact .inr ⟨c :: before, c', later, q, created, expires, rfl, hc, hvalid, he, hrow, hstems⟩

/-- **While an id is not drawn again, its rows stem from its rows.** -/
theorem stems_after {calls : List Call} {id : Text} (hid : id ∉ drawnIds calls) {r' : Row}
    (hr' : r' ∈ t.after limit calls) (hr'id : r'.header.id = id) :
    ∃ r ∈ t, r.header.id = id ∧ r'.StemsFrom r := by
  rcases origin_after limit t calls hr' with
    ⟨r, hr, hstems⟩ | ⟨before, c, later, q, _, _, rfl, hc, _⟩
  · exact ⟨r, hr, by rw [← hstems.1, hr'id], hstems⟩
  · refine absurd (mem_drawnIds.mpr ⟨c, ?_, ?_⟩) hid
    · exact List.mem_append_right _ List.mem_cons_self
    · rw [hc, ← hr'id]
      rfl

end Runs

/-! ## §4. The only row of an id -/

/-- A table holds a row, and no other of its id. -/
structure Table.Holds (t : Table) (r : Row) : Prop where
  row : r ∈ t
  only : ∀ x ∈ t, x.header.id = r.header.id → x = r

/-- A call that does not name an id, and does not purge. -/
def Call.Ignores (id : Text) (c : Call) : Prop :=
  c.operation.target? ≠ some id ∧ c.operation ≠ .purge

instance (id : Text) (c : Call) : Decidable (c.Ignores id) := inferInstanceAs (Decidable (_ ∧ _))

section Holds

variable {limit : Option Int} {c : Call} {t t' : Table} {r : Row} {m : Moment}

/-- A row under a free id is the row of that id. -/
theorem Table.holds_insert (h : ∀ x ∈ t, x.header.id ≠ r.header.id) : (t.insert r).Holds r where
  row := Table.mem_insert.mpr (.inr rfl)
  only := by
    intro x hx hid
    rcases Table.mem_insert.mp hx with hmem | hsame
    · exact absurd hid (h x hmem)
    · exact hsame

/-- A change that ignores an id leaves its only row alone, and adds none. -/
theorem Table.Holds.change (h : t.Holds r) (hchange : Change limit c t t')
    (hc : c.Ignores r.header.id) : t'.Holds r := by
  cases hchange with
  | nothing => exact h
  | insert asked valid writable fresh =>
    refine ⟨Table.mem_insert.mpr (.inl h.row), ?_⟩
    intro x hx hid
    rcases Table.mem_insert.mp hx with hmem | rfl
    · exact h.only x hmem hid
    · -- the id that was drawn is not that of the row
      exact absurd hid.symm (fresh r h.row)
  | @clear id p named picks =>
    have hother : ∀ x, p x = true → x.header.id ≠ r.header.id := by
      intro x hpick hid
      rw [← hid, picks x hpick] at hc
      exact hc.1 named
    refine ⟨Table.mem_clearWhere.mpr (.inl ⟨h.row, ?_⟩), ?_⟩
    · rw [← Bool.not_eq_true]
      exact fun hpick => hother r hpick rfl
    · intro x hx hid
      rcases Table.mem_clearWhere.mp hx with ⟨hmem, _⟩ | ⟨y, _, hpick, rfl⟩
      · exact h.only x hmem hid
      · exact absurd hid (hother y hpick)
  | drop asked clock => exact absurd asked hc.2

/-- **The only row of an id stays as it is as long as the id is ignored.** -/
theorem Table.Holds.after (h : t.Holds r) {calls : List Call}
    (hcalls : ∀ c ∈ calls, c.Ignores r.header.id) : (t.after limit calls).Holds r := by
  induction calls generalizing t with
  | nil => exact h
  | cons c calls ih =>
    have hnext := h.change (c.change limit t) (hcalls c List.mem_cons_self)
    exact ih hnext fun x hx => hcalls x (List.mem_cons_of_mem _ hx)

/-- A reader whose row still stands in the table is shown the row. -/
theorem finish_of_mem (hr : r ∈ t) (m : Moment) : (finish t r.header.id r m).1 = r.view m := by
  cases hv : r.view m with
  | expired h => rw [finish_of_expired hv]
  | live h d =>
    obtain ⟨rfl, hd, _⟩ := Row.view_eq_live_iff.mp hv
    cases hs : r.header.singleUse with
    | false => rw [finish_of_lasting hv hs]
    | true =>
      refine (finish_of_present hv hs ?_).1
      intro hnone
      rw [hnone r hr rfl] at hd
      cases hd

/-- **A read of the only row of an id shows the row.** -/
theorem get_of_holds {now : Stamp} (h : t.Holds r) (hid : encodable [r.header.id] = .ok ())
    (hm : utc now = .ok m) : (get t r.header.id now).result = .ok (r.view m) := by
  rcases get_cases t r.header.id now with
    ⟨e, he, _⟩ | ⟨n, hn, ⟨x, hx, hxid, _, hg⟩ | ⟨hnone, _⟩ | ⟨e, hbad, _⟩⟩
  · rw [hm] at he
    cases he
  · obtain rfl : m = n := Except.ok.inj (hm.symm.trans hn)
    obtain rfl : x = r := h.only x hx hxid
    rw [hg]
    exact congrArg Except.ok (finish_of_mem hx m)
  · exact absurd rfl (hnone r h.row)
  · rw [hid] at hbad
    cases hbad

end Holds

end SealedDrop.Store
