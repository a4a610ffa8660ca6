/-
  SealedDrop.Store.Operation
  ──────────────────────────
  **CREATE, LIST, READ, EXPIRE, PURGE.**

  Expiry is lazy: a row past its deadline keeps its envelope until someone
  reads it by id, and the reads that find it expired clear it.  A read is two
  atomic steps.  `load` takes the row out of the table; `finish` decides on the
  loaded row and writes: an expired view clears the envelope whatever the
  table says by then, a live view of a single-use secret clears it only if it
  is still there, and whoever finds it gone gets the expired view.  So at most
  one reader of a single-use secret sees its envelope, however reads overlap.

      create  — a new row, if the request is valid
      list    — the views of an owner, oldest first, without writing anything
      load, finish, get  — a read by id
      expire  — clears one envelope, for its owner or for anybody
      purge   — drops every expired row
-/
import SealedDrop.Journal.Entry
import SealedDrop.Store.Row

namespace SealedDrop.Store

open Journal (Entry)

/-! ## §1. Errors and outcomes -/

/-- Why an operation of the store fails. -/
inductive Error where
  /-- The envelope is empty. -/
  | emptyData
  /-- The envelope has more code points than this limit. -/
  | tooLong (limit : Int)
  /-- The deadline is not in the future. -/
  | notFuture
  /-- There is no row of this id. -/
  | notFound (id : Text)
  /-- A time lies outside the calendar. -/
  | outOfCalendar
  /-- A text has no UTF-8 form and cannot be stored or looked up. -/
  | unencodable (fault : Unencodable)
  /-- There is a row of this id already. -/
  | duplicateId
  deriving DecidableEq, Repr

/-- The wording of an error. -/
def Error.message : Error → Text
  | .emptyData => "Secret data must not be empty"
  | .tooLong n => "Secret data exceeds the maximum length of " ++ Text.ofInt n
  | .notFuture => "Expires at should be a future date"
  | .notFound id => "Shared secret " ++ id ++ " not found"
  | .outOfCalendar => Stamp.OutOfCalendar.message
  | .unencodable e => e.message
  | .duplicateId => "UNIQUE constraint failed: sharedsecret.id"

/-- What an operation leaves: its result, the table, and what it wrote down. -/
structure Outcome (α : Type) where
  /-- The result. -/
  result : Except Error α
  /-- The table afterwards. -/
  table : Table
  /-- The journal entries. -/
  entries : List Entry

namespace Outcome

/-- A failure, which leaves the table alone. -/
def fail {α : Type} (t : Table) (e : Error) : Outcome α := ⟨.error e, t, []⟩

end Outcome

/-- A stamp on the store's clock. -/
def utc (s : Stamp) : Except Error Moment :=
  match s.toUtc with
  | .ok m => .ok m
  | .error _ => .error .outOfCalendar

/-- Texts that all have a UTF-8 form; the first that has none is reported. -/
def encodable : List Text → Except Error Unit
  | [] => .ok ()
  | t :: ts =>
    match Utf8.firstSurrogates t with
    | some e => .error (.unencodable e)
    | none => encodable ts

/-! ## §2. Create -/

/-- A truth value as the journal shows it. -/
def shownBool (b : Bool) : Text := if b then "True" else "False"

/-- The entry of a creation. -/
def createdEntry (h : Header) : Entry :=
  .info ("Created shared secret " ++ h.id ++ " for " ++ h.owner ++ " (single use: "
    ++ shownBool h.singleUse ++ ", expires: " ++ (Stamp.utc h.expiresAt).isoText ++ ")")

/-- The request for a new secret. -/
structure Request where
  /-- Its owner. -/
  owner : Text
  /-- Its envelope. -/
  data : Text
  /-- Its deadline. -/
  expiresAt : Stamp
  /-- Whether one read uses it up. -/
  singleUse : Bool
  deriving DecidableEq, Repr

/-- The moments of creation and deadline of a valid request. -/
def validate (limit : Option Int) (q : Request) (now : Stamp) : Except Error (Moment × Moment) := do
  let now ← utc now
  let expires ← utc q.expiresAt
  if q.data.isEmpty then .error .emptyData
  match limit with
  | some n => if n < q.data.length then .error (.tooLong n)
  | none => pure ()
  if expires ≤ now then .error .notFuture
  return (now, expires)

/-- A new row under a fresh id. The second component says whether the id was used up: it is as
soon as the request is valid. -/
def create (limit : Option Int) (t : Table) (freshId : Text) (q : Request) (now : Stamp) :
    Outcome Text × Bool :=
  match validate limit q now with
  | .error e => (.fail t e, false)
  | .ok (created, expires) =>
    let h : Header := ⟨freshId, q.owner, created, expires, q.singleUse⟩
    match encodable [freshId, q.owner, q.data] with
    | .error e => (.fail t e, true)
    | .ok () =>
      if t.contains freshId then (.fail t .duplicateId, true)
      else (⟨.ok freshId, t.insert ⟨h, some q.data⟩, [createdEntry h]⟩, true)

/-! ## §3. List -/

/-- The views of an owner's secrets, oldest first. -/
def list (t : Table) (owner : Text) (now : Stamp) : Outcome (List View) :=
  match utc now with
  | .error e => .fail t e
  | .ok now =>
    match encodable [owner] with
    | .error e => .fail t e
    | .ok () => ⟨.ok ((t.ofOwner owner).map fun r => r.view now), t, []⟩

/-! ## §4. Read -/

/-- The row of an id, as it is now. -/
def load (t : Table) (id : Text) : Except Error Row :=
  match encodable [id] with
  | .error e => .error e
  | .ok () =>
    match t.find? id with
    | none => .error (.notFound id)
    | some r => .ok r

/-- Decides on a loaded row and writes what the decision asks for. -/
def finish (t : Table) (id : Text) (loaded : Row) (now : Moment) : View × Table × List Entry :=
  let here (r : Row) : Bool := r.header.id = id
  match loaded.view now with
  | .expired h => (.expired h, t.clearWhere here, [])
  | .live h d =>
    if h.singleUse then
      let present (r : Row) : Bool := here r && r.data.isSome
      if t.countWhere present = 0 then
        (.expired h, t.clearWhere present,
          [.warning ("Single use secret " ++ id ++ " was consumed by a concurrent read")])
      else
        (.live h d, t.clearWhere present, [.info ("Consumed single use secret " ++ id)])
    else (.live h d, t, [])

/-- A whole read by id. -/
def get (t : Table) (id : Text) (now : Stamp) : Outcome View :=
  match utc now with
  | .error e => .fail t e
  | .ok now =>
    match load t id with
    | .error e => .fail t e
    | .ok r =>
      let (v, t, es) := finish t id r now
      ⟨.ok v, t, es⟩

/-- Whether a read that loaded a row goes on to write. -/
def clears (loaded : Row) (now : Moment) : Bool :=
  (loaded.view now).isExpired || loaded.header.singleUse

/-- A read that decides on a snapshot loaded earlier. Its id is looked up only to write. -/
def getStale (t : Table) (id : Text) (loaded : Snapshot) (now : Stamp) : Outcome View :=
  match utc now with
  | .error e => .fail t e
  | .ok now =>
    match loaded.toRow with
    | .error _ => .fail t .outOfCalendar
    | .ok r =>
      match if clears r now then encodable [id] else .ok () with
      | .error e => .fail t e
      | .ok () =>
        let (v, t, es) := finish t id r now
        ⟨.ok v, t, es⟩

/-! ## §5. Expire and purge -/

/-- Clears the envelope of an id, if the row belongs to the owner or no owner is given. -/
def expire (t : Table) (id : Text) (owner : Option Text) : Outcome Unit :=
  match encodable (id :: owner.toList) with
  | .error e => .fail t e
  | .ok () =>
    let matching (r : Row) : Bool :=
      r.header.id = id && (match owner with
        | none => true
        | some o => r.header.owner = o)
    ⟨.ok (), t.clearWhere matching,
      [.info ("Expire request for " ++ id ++ " affected " ++ Text.ofNat (t.countWhere matching)
        ++ " row(s)")]⟩

/-- Drops every row that is expired, and says how many there were. -/
def purge (t : Table) (now : Stamp) : Outcome Nat :=
  match utc now with
  | .error e => .fail t e
  | .ok now =>
    let gone (r : Row) : Bool := r.data.isNone || r.header.expiresAt < now
    let n := t.countWhere gone
    ⟨.ok n, t.dropWhere gone, [.info ("Purged " ++ Text.ofNat n ++ " expired shared secret(s)")]⟩

/-- Adds a row as it is, unless its id is taken. -/
def insert (t : Table) (s : Snapshot) : Outcome Unit :=
  match encodable (s.id :: s.owner :: s.data.toList) with
  | .error e => .fail t e
  | .ok () =>
    if t.contains s.id then .fail t .duplicateId else ⟨.ok (), t.insert s.stored, []⟩

end SealedDrop.Store
