/-
  SealedDrop.Proofs.Store.Blindness
  ─────────────────────────────────
  **THE STORE IS BLIND TO THE ENVELOPES.**

  An envelope is sealed before it reaches the store, and the store treats it as
  a text that means nothing: it asks whether there is one and how long it is.
  So a store that is given other envelopes of the same lengths does the same
  under the same names, and says the same, word for word.

  Everything is proved for tables whose envelopes are related by an arbitrary
  relation that keeps lengths (`Table.Like`).  One lemma for each operation
  shows that it keeps tables alike; a call and a run are put together from them.
  A function on envelopes is such a relation (`like_mapData`).

  Main results:
    • `create_like`, `list_like`, `get_like`, `getStale_like`, `expire_like`,
      `purge_like` — each operation keeps tables alike,
    • `Call.outcome_like`, `after_like` — so does every call and every run,
    • `blind_to_data` — envelopes replaced in what goes in are replaced in what
      comes out, and nothing else changes.
-/
import Mathlib.Data.List.Forall2
import SealedDrop.Proofs.Result
import SealedDrop.Proofs.Store.Run
import SealedDrop.Proofs.Text.Utf8

namespace SealedDrop.Store

open Result (Like)

/-! ## §1. Tables with other envelopes -/

section Relations

variable (R : Text → Text → Prop)

/-- Two rows are alike: the same header, and related envelopes or none. -/
structure Row.Like (r r' : Row) : Prop where
  header : r.header = r'.header
  data : Option.Rel R r.data r'.data

/-- Two tables are alike, row by row. -/
def Table.Like (t t' : Table) : Prop := List.Forall₂ (Row.Like R) t t'

/-- Two views are alike: both live with related envelopes, or both expired. -/
inductive View.Like : View → View → Prop where
  | live (h : Header) {d d' : Text} (data : R d d') : View.Like (.live h d) (.live h d')
  | expired (h : Header) : View.Like (.expired h) (.expired h)

/-- What two operations leave is alike; their entries are the same. -/
structure Outcome.Like {α : Type} (P : α → α → Prop) (o o' : Outcome α) : Prop where
  result : Result.Like P o.result o'.result
  table : o.table.Like R o'.table
  entries : o.entries = o'.entries

/-- Two requests are alike: they differ in their envelopes at most, and in these only if both can be
stored. -/
structure Request.Like (q q' : Request) : Prop where
  owner : q.owner = q'.owner
  expiresAt : q.expiresAt = q'.expiresAt
  singleUse : q.singleUse = q'.singleUse
  data : R q.data q'.data
  storable : q.data = q'.data ∨ q.data.isScalar = true ∧ q'.data.isScalar = true

/-- Two loaded secrets are alike: they differ in their envelopes at most. -/
structure Snapshot.Like (s s' : Snapshot) : Prop where
  id : s.id = s'.id
  owner : s.owner = s'.owner
  createdAt : s.createdAt = s'.createdAt
  expiresAt : s.expiresAt = s'.expiresAt
  singleUse : s.singleUse = s'.singleUse
  data : Option.Rel R s.data s'.data

end Relations

section Tables

variable {R : Text → Text → Prop} {t t' : Table} {r r' : Row} {p : Row → Bool}

theorem Outcome.Like.fail {α : Type} {P : α → α → Prop} (ht : t.Like R t') (e : Error) :
    Outcome.Like R P (.fail t e) (.fail t' e) := ⟨.error e, ht, rfl⟩

/-- Whether the column of envelopes is filled does not depend on what the envelopes are. -/
theorem Row.Like.isSome (h : r.Like R r') : r.data.isSome = r'.data.isSome := by
  have hdata := h.data
  generalize r.data = d, r'.data = d' at hdata ⊢
  cases hdata with
  | some _ => rfl
  | none => rfl

theorem Row.Like.isNone (h : r.Like R r') : r.data.isNone = r'.data.isNone := by
  rw [← Option.not_isSome, ← Option.not_isSome, h.isSome]

theorem Row.Like.clear (h : r.Like R r') : r.clear.Like R r'.clear := ⟨h.header, .none⟩

/-- Alike rows are over at the same moments: `isGone` asks whether there is an envelope and when the
deadline is. -/
theorem Row.Like.isGone (h : r.Like R r') (m : Moment) : r.isGone m = r'.isGone m := by
  unfold Row.isGone
  rw [h.isNone, h.header]

theorem Row.Like.hasId (h : r.Like R r') (id : Text) : r.hasId id = r'.hasId id := by
  unfold Row.hasId
  rw [h.header]

/-- The condition under which `expire` and `get` update a row only reads its header, and whether it
has an envelope. -/
theorem Row.Like.isOf (h : r.Like R r') (id : Text) (owner : Option Text) :
    r.isOf id owner = r'.isOf id owner := by
  unfold Row.isOf
  rw [h.header]

/-- Alike rows are seen alike. -/
theorem Row.Like.view (h : r.Like R r') (m : Moment) : (r.view m).Like R (r'.view m) := by
  obtain ⟨hd, x⟩ := r
  obtain ⟨hd', x'⟩ := r'
  obtain ⟨hheader, hdata⟩ := h
  dsimp only at hheader hdata
  subst hheader
  unfold Row.view
  cases hdata with
  | none => exact .expired hd
  | some hrel =>
    dsimp only
    split
    next => exact .expired hd
    next => exact .live hd hrel

/-- Alike views are both live or both expired. -/
theorem View.Like.isExpired {v v' : View} (h : v.Like R v') : v.isExpired = v'.isExpired := by
  cases h with
  | live => rfl
  | expired => rfl

/-- A condition that cannot tell alike rows apart picks the same rows. -/
def Blind (R : Text → Text → Prop) (p : Row → Bool) : Prop := ∀ r r', r.Like R r' → p r = p r'

/-- Alike rows may be inserted into alike tables. -/
theorem Table.Like.insert (h : t.Like R t') (hr : r.Like R r') :
    (t.insert r).Like R (t'.insert r') := List.rel_append h (.cons hr .nil)

/-- Clearing under a blind condition keeps tables alike. -/
theorem Table.Like.clearWhere (h : t.Like R t') (hp : Blind R p) :
    (t.clearWhere p).Like R (t'.clearWhere p) := by
  refine List.rel_map ?_ h
  intro r r' hr
  dsimp only
  rw [hp r r' hr]
  split
  next => exact hr.clear
  next => exact hr

/-- What a blind condition selects from alike tables is alike, row by row. -/
theorem Table.Like.filter (h : t.Like R t') (hp : Blind R p) :
    Table.Like R (t.filter p) (t'.filter p) := by
  refine List.rel_filter ?_ h
  intro r r' hr
  show p r = true ↔ p r' = true
  rw [hp r r' hr]

theorem Table.Like.dropWhere (h : t.Like R t') (hp : Blind R p) :
    (t.dropWhere p).Like R (t'.dropWhere p) :=
  h.filter fun r r' hr => congrArg not (hp r r' hr)

/-- A blind condition holds of as many rows in either table. -/
theorem Table.Like.countWhere (h : t.Like R t') (hp : Blind R p) :
    t.countWhere p = t'.countWhere p := by
  unfold Table.countWhere
  rw [List.countP_eq_length_filter, List.countP_eq_length_filter]
  exact List.Forall₂.length_eq (h.filter hp)

/-- An id is taken in both tables or in none. -/
theorem Table.Like.contains (h : t.Like R t') (id : Text) : t.contains id = t'.contains id := by
  unfold Table.contains
  induction h with
  | nil => rfl
  | cons hr _ ih => rw [List.any_cons, List.any_cons, ih, hr.header]

/-- Looking an id up finds alike rows, or none in either table. -/
theorem Table.Like.find? (h : t.Like R t') (id : Text) :
    Option.Rel (Row.Like R) (t.find? id) (t'.find? id) := by
  unfold Table.find?
  induction h with
  | nil => exact .none
  | @cons r r' t t' hr _ ih =>
    have hsame : decide (r.header.id = id) = decide (r'.header.id = id) := by rw [hr.header]
    rw [List.find?_cons, List.find?_cons, hsame]
    cases decide (r'.header.id = id) with
    | true => exact .some hr
    | false => exact ih

/-- Sorting keeps two lists alike if the order cannot tell alike elements apart. -/
theorem forall₂_mergeSort {α : Type} {P : α → α → Prop} {le : α → α → Bool} {l l' : List α}
    (h : List.Forall₂ P l l') (hle : ∀ a a' b b', P a a' → P b b' → le a b = le a' b') :
    List.Forall₂ P (l.mergeSort le) (l'.mergeSort le) := by
  obtain ⟨hlength, hzip⟩ := List.forall₂_iff_zip.mp h
  -- both lists are halves of one list of pairs, which is sorted once
  have hfst : (l.zip l').map Prod.fst = l := List.map_fst_zip (Nat.le_of_eq hlength)
  have hsnd : (l.zip l').map Prod.snd = l' := List.map_snd_zip (Nat.le_of_eq hlength.symm)
  have hpairs : ∀ z ∈ l.zip l', P z.1 z.2 := fun z hz => hzip (a := z.1) (b := z.2) hz
  have hleft : l.mergeSort le = ((l.zip l').mergeSort fun x y => le x.1 y.1).map Prod.fst := by
    rw [List.map_mergeSort (s := le) fun _ _ _ _ => rfl, hfst]
  have hright : l'.mergeSort le = ((l.zip l').mergeSort fun x y => le x.1 y.1).map Prod.snd := by
    rw [List.map_mergeSort (s := le) fun x hx y hy => hle _ _ _ _ (hpairs x hx) (hpairs y hy), hsnd]
  rw [hleft, hright, List.forall₂_map_left_iff, List.forall₂_map_right_iff, List.forall₂_same]
  intro z hz
  exact hpairs z (List.mem_mergeSort.mp hz)

/-- The rows that `list` shows of an owner are alike, in the same order. -/
theorem Table.Like.ofOwner (h : t.Like R t') (owner : Text) :
    List.Forall₂ (Row.Like R) (t.ofOwner owner) (t'.ofOwner owner) := by
  refine forall₂_mergeSort (h.filter ?_) ?_
  · intro r r' hr
    show decide (r.header.owner = owner) = decide (r'.header.owner = owner)
    rw [hr.header]
  · intro a a' b b' ha hb
    rw [ha.header, hb.header]

end Tables

/-! ## §2. Operations on alike tables -/

section Operations

variable {R : Text → Text → Prop} {t t' : Table} {q q' : Request} {now : Stamp} {id : Text}

/-- Whether a request is valid depends on the length of its envelope. -/
theorem validate_like (hR : ∀ d d', R d d' → d.length = d'.length) (limit : Option Int)
    (hq : q.Like R q') (now : Stamp) : validate limit q now = validate limit q' now := by
  have hlength : q.data.length = q'.data.length := hR _ _ hq.data
  have hempty : q.data.isEmpty = q'.data.isEmpty := by
    rw [Bool.eq_iff_iff, List.isEmpty_iff_length_eq_zero, List.isEmpty_iff_length_eq_zero, hlength]
  unfold validate
  rw [hq.expiresAt, hempty, hlength]

/-- The driver turns down the row of one creation exactly when it turns down that of the other: both
envelopes are scalar, or neither is. -/
theorem encodable_like (hq : q.Like R q') (id : Text) :
    encodable [id, q.owner, q.data] = encodable [id, q'.owner, q'.data] := by
  rw [hq.owner]
  rcases hq.storable with hsame | ⟨hleft, hright⟩
  · rw [hsame]
  · unfold encodable encodable encodable
    rw [Utf8.firstSurrogates_eq_none_iff.mpr hleft, Utf8.firstSurrogates_eq_none_iff.mpr hright]

/-- **Creations from alike requests keep tables alike.** -/
theorem create_like (hR : ∀ d d', R d d' → d.length = d'.length) (limit : Option Int)
    (ht : t.Like R t') (hq : q.Like R q') (id : Text) (now : Stamp) :
    Outcome.Like R Eq (create limit t id q now).1 (create limit t' id q' now).1
      ∧ (create limit t id q now).2 = (create limit t' id q' now).2 := by
  unfold create
  rw [validate_like hR limit hq now]
  cases validate limit q' now with
  | error e => exact ⟨.fail ht e, rfl⟩
  | ok times =>
    obtain ⟨created, expires⟩ := times
    dsimp only
    rw [encodable_like hq id]
    cases encodable [id, q'.owner, q'.data] with
    | error e => exact ⟨.fail ht e, rfl⟩
    | ok _ =>
      dsimp only
      rw [ht.contains id]
      cases t'.contains id with
      | true => exact ⟨.fail ht .duplicateId, rfl⟩
      | false =>
        -- the new rows differ in their envelopes at most
        have hrow : (q.row id created expires).Like R (q'.row id created expires) := by
          refine ⟨?_, .some hq.data⟩
          unfold Request.row
          rw [hq.owner, hq.singleUse]
        refine ⟨⟨.ok rfl, ht.insert hrow, ?_⟩, rfl⟩
        exact congrArg (fun h => [createdEntry h]) hrow.header

/-- `list` of alike tables gives alike views, and leaves alike tables. -/
theorem list_like (ht : t.Like R t') (owner : Text) (now : Stamp) :
    Outcome.Like R (List.Forall₂ (View.Like R)) (list t owner now) (list t' owner now) := by
  unfold list
  cases utc now with
  | error e => exact .fail ht e
  | ok m =>
    dsimp only
    cases encodable [owner] with
    | error e => exact .fail ht e
    | ok _ =>
      refine ⟨.ok (List.rel_map ?_ (ht.ofOwner owner)), ht, rfl⟩
      intro r r' hr
      exact hr.view m

/-- **The end of a read keeps tables alike**, and its view is alike. -/
theorem finish_like (ht : t.Like R t') {r r' : Row} (hr : r.Like R r') (id : Text) (m : Moment) :
    Outcome.Like R (View.Like R) (finished t id r m) (finished t' id r' m) := by
  -- the conditions of the updates ask for the id, and whether there is an envelope
  have hpresent : Blind R fun r => decide (r.header.id = id) && r.data.isSome := by
    intro r r' hr
    show (decide (r.header.id = id) && r.data.isSome) = (decide (r'.header.id = id) && r'.data.isSome)
    rw [hr.header, hr.isSome]
  have hhere : Blind R fun r => decide (r.header.id = id) := fun r r' hr => hr.hasId id
  have hview := hr.view m
  unfold finished finish
  generalize r.view m = v, r'.view m = v' at hview ⊢
  cases hview with
  | expired h => exact ⟨.ok (.expired h), ht.clearWhere hhere, rfl⟩
  | live h hdata =>
    dsimp only
    rw [ht.countWhere hpresent]
    by_cases hs : h.singleUse = true
    · rw [if_pos hs, if_pos hs]
      split
      next => exact ⟨.ok (.expired h), ht.clearWhere hpresent, rfl⟩
      next => exact ⟨.ok (.live h hdata), ht.clearWhere hpresent, rfl⟩
    · rw [if_neg hs, if_neg hs]
      exact ⟨.ok (.live h hdata), ht, rfl⟩

/-- `get` of alike tables gives alike views, logs the same, and leaves alike tables. -/
theorem get_like (ht : t.Like R t') (id : Text) (now : Stamp) :
    Outcome.Like R (View.Like R) (get t id now) (get t' id now) := by
  unfold get load
  cases utc now with
  | error e => exact .fail ht e
  | ok m =>
    cases encodable [id] with
    | error e => exact .fail ht e
    | ok _ =>
      have hfound := ht.find? id
      generalize t.find? id = x, t'.find? id = x' at hfound ⊢
      cases hfound with
      | none => exact .fail ht (.notFound id)
      | some hr => exact finish_like ht hr id m

/-- The same of the second half of `get`, with alike rows loaded before. -/
theorem getStale_like (ht : t.Like R t') {s s' : Snapshot} (hs : s.Like R s') (id : Text)
    (now : Stamp) : Outcome.Like R (View.Like R) (getStale t id s now) (getStale t' id s' now) := by
  -- the rows that were loaded before are alike, if their times are in the calendar
  have hrow : Result.Like (Row.Like R) s.toRow s'.toRow := by
    unfold Snapshot.toRow
    rw [hs.createdAt, hs.expiresAt]
    cases s'.createdAt.toUtc with
    | error e => exact .error e
    | ok created =>
      cases s'.expiresAt.toUtc with
      | error e => exact .error e
      | ok expires =>
        refine .ok ⟨?_, hs.data⟩
        rw [hs.id, hs.owner, hs.singleUse]
  unfold getStale
  cases utc now with
  | error e => exact .fail ht e
  | ok m =>
    dsimp only
    generalize s.toRow = x, s'.toRow = x' at hrow ⊢
    cases hrow with
    | error _ => exact .fail ht .outOfCalendar
    | @ok r r' hr =>
      have hclears : clears r m = clears r' m := by
        unfold clears
        rw [(hr.view m).isExpired, hr.header]
      dsimp only
      rw [hclears]
      cases (if clears r' m then encodable [id] else .ok ()) with
      | error e => exact .fail ht e
      | ok _ => exact finish_like ht hr id m

/-- `expire` gives the very same result on alike tables, and leaves alike tables. -/
theorem expire_like (ht : t.Like R t') (id : Text) (owner : Option Text) :
    Outcome.Like R Eq (expire t id owner) (expire t' id owner) := by
  have hpicks : Blind R (Row.isOf id owner) := fun r r' hr => hr.isOf id owner
  unfold expire
  cases encodable (id :: owner.toList) with
  | error e => exact .fail ht e
  | ok _ =>
    refine ⟨.ok rfl, ht.clearWhere hpicks, ?_⟩
    exact congrArg (fun n => [Journal.Entry.info (_ ++ Text.ofNat n ++ _)]) (ht.countWhere hpicks)

/-- `purge` counts the same rows of alike tables, and leaves alike tables. -/
theorem purge_like (ht : t.Like R t') (now : Stamp) :
    Outcome.Like R Eq (purge t now) (purge t' now) := by
  unfold purge
  cases utc now with
  | error e => exact .fail ht e
  | ok m =>
    have hpicks : Blind R (Row.isGone m) := fun r r' hr => hr.isGone m
    have hcount := ht.countWhere hpicks
    refine ⟨.ok hcount, ht.dropWhere hpicks, ?_⟩
    exact congrArg (fun n => [Journal.Entry.info (_ ++ Text.ofNat n ++ _)]) hcount

end Operations

/-! ## §3. Calls and runs -/

section Calls

variable (R : Text → Text → Prop)

/-- Two operations are alike: they differ in envelopes at most. -/
inductive Operation.Like : Operation → Operation → Prop where
  | create (id : Text) {q q' : Request} (requests : q.Like R q') :
      Operation.Like (.create id q) (.create id q')
  | list (owner : Text) : Operation.Like (.list owner) (.list owner)
  | get (id : Text) : Operation.Like (.get id) (.get id)
  | finish (id : Text) {s s' : Snapshot} (loaded : s.Like R s') :
      Operation.Like (.finish id s) (.finish id s')
  | expire (id : Text) (owner : Option Text) : Operation.Like (.expire id owner) (.expire id owner)
  | purge : Operation.Like .purge .purge

/-- Two calls are alike: alike operations at the same time. -/
structure Call.Like (c c' : Call) : Prop where
  now : c.now = c'.now
  operation : c.operation.Like R c'.operation

/-- Two answers are alike: they differ in envelopes at most. -/
inductive Answer.Like : Answer → Answer → Prop where
  | created (id : Text) : Answer.Like (.created id) (.created id)
  | listed {vs vs' : List View} (views : List.Forall₂ (View.Like R) vs vs') :
      Answer.Like (.listed vs) (.listed vs')
  | read {v v' : View} (view : v.Like R v') : Answer.Like (.read v) (.read v')
  | expired : Answer.Like .expired .expired
  | purged (count : Nat) : Answer.Like (.purged count) (.purged count)

end Calls

section Runs

variable {R : Text → Text → Prop} {t t' : Table}

theorem Outcome.Like.map {α β : Type} {P : α → α → Prop} {Q : β → β → Prop} {f : α → β}
    {o o' : Outcome α} (h : Outcome.Like R P o o') (hf : ∀ a b, P a b → Q (f a) (f b)) :
    Outcome.Like R Q (o.map f) (o'.map f) := ⟨h.result.map hf, h.table, h.entries⟩

/-- **Alike calls keep tables alike**, and what comes of them is alike. -/
theorem Call.outcome_like (hR : ∀ d d', R d d' → d.length = d'.length) (limit : Option Int)
    (ht : t.Like R t') {c c' : Call} (hc : c.Like R c') :
    Outcome.Like R (Answer.Like R) (c.outcome limit t) (c'.outcome limit t') := by
  obtain ⟨now, operation⟩ := c
  obtain ⟨now', operation'⟩ := c'
  obtain ⟨hnow, hop⟩ := hc
  dsimp only at hnow hop
  subst hnow
  -- operation by operation, each by its own lemma
  cases hop with
  | create id hq =>
    refine (create_like hR limit ht hq id now).1.map ?_
    rintro a _ rfl
    exact .created a
  | list owner => exact (list_like ht owner now).map fun _ _ hvs => .listed hvs
  | get id => exact (get_like ht id now).map fun _ _ hv => .read hv
  | finish id hs => exact (getStale_like ht hs id now).map fun _ _ hv => .read hv
  | expire id owner => exact (expire_like ht id owner).map fun _ _ _ => .expired
  | purge =>
    refine (purge_like ht now).map ?_
    rintro n _ rfl
    exact .purged n

/-- The details of alike answers are the same. -/
theorem details_like {o o' : Operation} (ho : o.Like R o') {a a' : Answer} (ha : a.Like R a') :
    o.details a = o'.details a' := by
  cases ha with
  | created id =>
    cases ho with
    | _ => rfl
  | expired =>
    cases ho with
    | _ => rfl
  | purged n =>
    cases ho with
    | _ => rfl
  -- `list` logs how many rows it found, and `get` whether the secret is over
  | listed hvs =>
    cases ho with
    | list owner => exact congrArg (fun n => [listedEntry owner n]) hvs.length_eq
    | _ => rfl
  | read hv =>
    cases ho with
    | get id => exact congrArg (fun b => [readEntry id b]) hv.isExpired
    | finish id hs => exact congrArg (fun b => [readEntry id b]) hv.isExpired
    | _ => rfl

/-- **Alike calls write down the same.** -/
theorem Call.log_like (hR : ∀ d d', R d d' → d.length = d'.length) (limit : Option Int)
    (ht : t.Like R t') {c c' : Call} (hc : c.Like R c') : c.log limit t = c'.log limit t' := by
  have hout := Call.outcome_like hR limit ht hc
  have hresult := hout.result
  unfold Call.log
  rw [hout.entries]
  generalize (c.outcome limit t).result = x, (c'.outcome limit t').result = x' at hresult ⊢
  cases hresult with
  | error e => rfl
  | ok ha =>
    dsimp only
    rw [details_like hc.operation ha]

/-- **A run of calls keeps tables alike.** -/
theorem after_like (hR : ∀ d d', R d d' → d.length = d'.length) (limit : Option Int)
    (ht : t.Like R t') {calls calls' : List Call} (hc : List.Forall₂ (Call.Like R) calls calls') :
    (t.after limit calls).Like R (t'.after limit calls') := by
  induction hc generalizing t t' with
  | nil => exact ht
  | cons hc _ ih => exact ih (Call.outcome_like hR limit ht hc).table

end Runs

/-! ## §4. Replacing every envelope -/

section Replacing

variable (f : Text → Text)

def Row.mapData (r : Row) : Row := ⟨r.header, r.data.map f⟩

def Table.mapData (t : Table) : Table := t.map (Row.mapData f)

def View.mapData : View → View
  | .live h d => .live h (f d)
  | .expired h => .expired h

def Snapshot.mapData (s : Snapshot) : Snapshot := { s with data := s.data.map f }

def Operation.mapData : Operation → Operation
  | .create id q => .create id { q with data := f q.data }
  | .finish id s => .finish id (s.mapData f)
  | o => o

def Call.mapData (c : Call) : Call := ⟨c.now, c.operation.mapData f⟩

def Answer.mapData : Answer → Answer
  | .listed vs => .listed (vs.map (View.mapData f))
  | .read v => .read (v.mapData f)
  | a => a

/-- What an operation leaves, with every envelope replaced in its answer and in the table. -/
def Outcome.mapData (o : Outcome Answer) : Outcome Answer :=
  ⟨o.result.map (Answer.mapData f), o.table.mapData f, o.entries⟩

/-- An envelope and what it is replaced by. -/
def Replaced (d d' : Text) : Prop := d' = f d

variable {f}

/-- A column whose envelope is replaced by `f` relates to the one before. -/
theorem replaced_map (x : Option Text) : Option.Rel (Replaced f) x (x.map f) := by
  cases x with
  | none => exact .none
  | some d => exact .some rfl

/-- A table is like the one in which `f` replaces every envelope. -/
theorem like_mapData (t : Table) : t.Like (Replaced f) (t.mapData f) := by
  unfold Table.Like Table.mapData
  rw [List.forall₂_map_right_iff, List.forall₂_same]
  intro r _
  exact ⟨rfl, replaced_map r.data⟩

/-- And it is like no other: what relates to a table by `Replaced f` is that table with its
envelopes replaced. -/
theorem Table.Like.eq_mapData {t t' : Table} (h : t.Like (Replaced f) t') : t' = t.mapData f := by
  induction h with
  | nil => rfl
  | @cons r r' t t' hr _ ih =>
    obtain ⟨hd', d'⟩ := r'
    obtain ⟨hheader, hdata⟩ := hr
    dsimp only at hheader hdata
    have hmapped : d' = r.data.map f := by
      generalize r.data = d at hdata ⊢
      cases hdata with
      | none => rfl
      | some hrel => exact congrArg some hrel
    rw [ih, hmapped, ← hheader]
    rfl

theorem View.Like.eq_mapData {v v' : View} (h : v.Like (Replaced f) v') : v' = v.mapData f := by
  cases h with
  | live h hrel =>
    rw [hrel]
    rfl
  | expired h => rfl

theorem Answer.Like.eq_mapData {a a' : Answer} (h : a.Like (Replaced f) a') :
    a' = a.mapData f := by
  cases h with
  | created id => rfl
  | expired => rfl
  | purged n => rfl
  | read hv => exact congrArg Answer.read hv.eq_mapData
  | listed hvs =>
    refine congrArg Answer.listed ?_
    induction hvs with
    | nil => rfl
    | cons hv _ ih => rw [hv.eq_mapData, ih, List.map_cons]

/-- So the outcome on the other table is the outcome with its envelopes replaced. -/
theorem Outcome.Like.eq_mapData {o o' : Outcome Answer}
    (h : Outcome.Like (Replaced f) (Answer.Like (Replaced f)) o o') : o' = o.mapData f := by
  obtain ⟨result, table, entries⟩ := o
  obtain ⟨result', table', entries'⟩ := o'
  obtain ⟨hresult, htable, hentries⟩ := h
  dsimp only at hresult htable hentries
  have hmapped : result' = result.map (Answer.mapData f) := by
    cases hresult with
    | error e => rfl
    | ok ha => exact congrArg Except.ok ha.eq_mapData
  rw [hmapped, htable.eq_mapData, ← hentries]
  rfl

/-- A call is alike to the call with its envelope replaced, if both envelopes can be stored. -/
theorem Call.like_mapData (hscalar : ∀ s, s.isScalar = true → (f s).isScalar = true) {c : Call}
    (hc : ∀ id q, c.operation = .create id q → q.data.isScalar = true) :
    c.Like (Replaced f) (c.mapData f) := by
  refine ⟨rfl, ?_⟩
  obtain ⟨now, operation⟩ := c
  cases operation with
  | create id q =>
    have hq := hc id q rfl
    exact .create id ⟨rfl, rfl, rfl, rfl, .inr ⟨hq, hscalar _ hq⟩⟩
  | list owner => exact .list owner
  | get id => exact .get id
  | finish id s => exact .finish id ⟨rfl, rfl, rfl, rfl, rfl, replaced_map s.data⟩
  | expire id owner => exact .expire id owner
  | purge => exact .purge

end Replacing

/-- **The store is blind to the envelopes.**  Replace every envelope that goes into a run by another
of the same length.  Then at every call the same ids, errors and counts come out and the same is
written down, word for word; views and tables have their envelopes replaced. -/
theorem blind_to_data (f : Text → Text) (hlength : ∀ s, (f s).length = s.length)
    (hscalar : ∀ s, s.isScalar = true → (f s).isScalar = true) (limit : Option Int) (t : Table)
    (calls : List Call)
    (hdata : ∀ c ∈ calls, ∀ id q, c.operation = .create id q → q.data.isScalar = true)
    (before : List Call) (c : Call) (later : List Call) (hcalls : calls = before ++ c :: later) :
    let given := t.after limit before
    let replaced := (t.mapData f).after limit (before.map (Call.mapData f))
    (c.mapData f).outcome limit replaced = (c.outcome limit given).mapData f
      ∧ (c.mapData f).log limit replaced = c.log limit given := by
  intro given replaced
  have hR : ∀ d d', Replaced f d d' → d.length = d'.length := by
    rintro d _ rfl
    exact (hlength d).symm
  have hbefore : List.Forall₂ (Call.Like (Replaced f)) before (before.map (Call.mapData f)) := by
    rw [List.forall₂_map_right_iff, List.forall₂_same]
    intro x hx
    refine Call.like_mapData hscalar (hdata x ?_)
    rw [hcalls]
    exact List.mem_append_left _ hx
  have hcall : c.Like (Replaced f) (c.mapData f) := by
    refine Call.like_mapData hscalar (hdata c ?_)
    rw [hcalls]
    exact List.mem_append_right _ List.mem_cons_self
  -- alike tables before the call, and alike calls
  have htables : given.Like (Replaced f) replaced := after_like hR limit (like_mapData t) hbefore
  exact ⟨(Call.outcome_like hR limit htables hcall).eq_mapData,
    (Call.log_like hR limit htables hcall).symm⟩

/-- Every sign of an envelope made an `x`. -/
def masked (s : Text) : Text := s.map fun _ => CodePoint.ofChar 'x'

/-- What `list` shows of an id can always be encoded. -/
theorem isScalar_masked (s : Text) : (masked s).isScalar = true := by
  unfold Text.isScalar masked
  rw [List.all_map, List.all_eq_true]
  intro _ _
  rfl

/-- A single-use secret is created and read. -/
def onceCalls : List Call :=
  [⟨minute 0, .create (Text.hex 32 1) ⟨"alice", "c2VhbGVk", minute 9, true⟩⟩,
   ⟨minute 1, .get (Text.hex 32 1)⟩]

/-- A second read, which loaded the secret before the first one had cleared it. -/
def racedRead : Call :=
  ⟨minute 2, .finish (Text.hex 32 1)
    ⟨Text.hex 32 1, "alice", some "c2VhbGVk", minute 0, minute 9, true⟩⟩

/-- The race is lost, and the warning is the same, under the mask as without. -/
theorem blind_to_data_masked :
    (∀ s, (masked s).length = s.length) ∧ (∀ s, s.isScalar = true → (masked s).isScalar = true)
      ∧ (∀ c ∈ onceCalls ++ [racedRead], ∀ id q, c.operation = .create id q →
          q.data.isScalar = true)
      ∧ (racedRead.mapData masked).log none
            (Table.after none [] (onceCalls.map (Call.mapData masked)))
          = racedRead.log none (Table.after none [] onceCalls)
      ∧ (racedRead.log none (Table.after none [] onceCalls)).length = 2 := by
  have hlength : ∀ s, (masked s).length = s.length := fun s => List.length_map _
  have hscalar : ∀ s : Text, s.isScalar = true → (masked s).isScalar = true :=
    fun s _ => isScalar_masked s
  have hdata : ∀ c ∈ onceCalls ++ [racedRead], ∀ id q, c.operation = .create id q →
      q.data.isScalar = true := by
    intro c hc id q hcreate
    rcases List.mem_append.mp hc with honce | hlate
    · rcases List.mem_cons.mp honce with rfl | hread
      · injection hcreate with _ hq
        rw [← hq]
        decide
      · rw [List.mem_singleton.mp hread] at hcreate
        cases hcreate
    · rw [List.mem_singleton.mp hlate] at hcreate
      cases hcreate
  have hsame := (blind_to_data masked hlength hscalar none [] (onceCalls ++ [racedRead]) hdata
    onceCalls racedRead [] rfl).2
  exact ⟨hlength, hscalar, hdata, hsame, by decide⟩

end SealedDrop.Store
