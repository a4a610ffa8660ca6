/-
  SealedDrop.Store.Row
  ────────────────────
  **STORED SECRETS, AND WHAT A READER SEES OF THEM.**

  A row is a header, fixed when the secret is created, and the envelope, which
  is there until it is cleared.  What a reader sees at a time is its view:
  live, with the envelope, as long as there is one and the deadline has not
  passed; expired otherwise.  A secret is still live AT its deadline.

  A `Snapshot` is a row as someone loaded it, with times on any clock.

  The `Table` has the rows in the order in which they were inserted, at most one
  for an id.  The writes are the whole vocabulary of the store: insert a row,
  clear the envelopes that a condition picks, drop the rows that a condition
  picks.
-/
import SealedDrop.Calendar.Moment
import SealedDrop.Form.Request

namespace SealedDrop.Store

/-! ## §1. Rows and views -/

/-- What never changes about a secret. -/
structure Header where
  /-- Its id. -/
  id : Text
  /-- Who created it. -/
  owner : Text
  /-- When, in UTC. -/
  createdAt : Moment
  /-- Until when it can be read, in UTC. -/
  expiresAt : Moment
  /-- Whether one read uses it up. -/
  singleUse : Bool
  deriving DecidableEq, Repr

/-- A stored secret. -/
structure Row where
  /-- The fixed part. -/
  header : Header
  /-- The envelope, until it is cleared. -/
  data : Option Text
  deriving DecidableEq, Repr

/-- What a reader sees of a secret. -/
inductive View where
  /-- It can be read: here is the envelope. -/
  | live (header : Header) (data : Text)
  /-- It is gone. -/
  | expired (header : Header)
  deriving DecidableEq, Repr

namespace View

/-- The fixed part of the secret. -/
def header : View → Header
  | .live h _ => h
  | .expired h => h

/-- Whether the secret is gone. -/
def isExpired : View → Bool
  | .live _ _ => false
  | .expired _ => true

/-- The envelope, if it can be read. -/
def data? : View → Option Text
  | .live _ d => some d
  | .expired _ => none

end View

/-- What a reader sees of a row at a time. -/
def Row.view (r : Row) (now : Moment) : View :=
  match r.data with
  | none => .expired r.header
  | some d => if r.header.expiresAt < now then .expired r.header else .live r.header d

/-- The row with its envelope cleared. -/
def Row.clear (r : Row) : Row := { r with data := none }

/-! ## §2. Snapshots -/

/-- A secret as it was loaded, with its times on any clock. -/
structure Snapshot where
  /-- Its id. -/
  id : Text
  /-- Who created it. -/
  owner : Text
  /-- The envelope, unless cleared. -/
  data : Option Text
  /-- When it was created. -/
  createdAt : Stamp
  /-- Until when it can be read. -/
  expiresAt : Stamp
  /-- Whether one read uses it up. -/
  singleUse : Bool
  deriving DecidableEq, Repr

namespace Snapshot

/-- The row of a snapshot on a UTC clock. -/
def toRow (s : Snapshot) : Except Stamp.OutOfCalendar Row := do
  let created ← s.createdAt.toUtc
  let expires ← s.expiresAt.toUtc
  return ⟨⟨s.id, s.owner, created, expires, s.singleUse⟩, s.data⟩

/-- The row that the table keeps of a snapshot: clock readings without their offsets. -/
def stored (s : Snapshot) : Row :=
  ⟨⟨s.id, s.owner, s.createdAt.wall, s.expiresAt.wall, s.singleUse⟩, s.data⟩

/-- Why a snapshot has no view at a stamp. -/
inductive ProjectFault where
  /-- One of its times lies outside the calendar. -/
  | outOfCalendar
  /-- The reader's clock has no known offset. -/
  | unknownOffset
  deriving DecidableEq, Repr

/-- The wording of a fault. -/
def ProjectFault.message : ProjectFault → Text
  | .outOfCalendar => Stamp.OutOfCalendar.message
  | .unknownOffset => "can't compare offset-naive and offset-aware datetimes"

/-- What a reader sees of a snapshot at a stamp. The stamp's instant may lie outside the
calendar. -/
def project (s : Snapshot) (now : Stamp) : Except ProjectFault View :=
  match s.toRow with
  | .error _ => .error .outOfCalendar
  | .ok r =>
    if now.offset.isNone then .error .unknownOffset
    else
      match r.data with
      | none => .ok (.expired r.header)
      | some d =>
        if (r.header.expiresAt.micros : Int) < now.instant then .ok (.expired r.header)
        else .ok (.live r.header d)

end Snapshot

/-! ## §3. Views as documents -/

namespace Header

/-- The common fields of a view. -/
def form (h : Header) : Form.ViewHead :=
  ⟨h.id, h.owner, Stamp.utc h.createdAt, Stamp.utc h.expiresAt, h.singleUse⟩

end Header

namespace View

/-- A view as its owner gets it. -/
def toJson : View → Json
  | .live h d => Form.Document.write (Form.LiveView.mk h.form d)
  | .expired h => Form.Document.write (Form.ExpiredView.mk h.form)

end View

/-- A live secret as an anonymous reader gets it. -/
def publicJson (h : Header) (data : Text) : Json :=
  Form.Document.write
    (Form.PublicView.mk h.id (Stamp.utc h.createdAt) (Stamp.utc h.expiresAt) h.singleUse data)

/-! ## §4. The table -/

/-- The rows of the store, oldest insertion first. -/
abbrev Table := List Row

namespace Table

/-- The row of an id. -/
def find? (t : Table) (id : Text) : Option Row := List.find? (fun r => r.header.id = id) t

/-- Whether there is a row of an id. -/
def contains (t : Table) (id : Text) : Bool := t.any fun r => r.header.id = id

/-- The table with one more row. -/
def insert (t : Table) (r : Row) : Table := t ++ [r]

/-- The table with the envelopes of some rows cleared. -/
def clearWhere (t : Table) (p : Row → Bool) : Table := t.map fun r => if p r then r.clear else r

/-- The table without some rows. -/
def dropWhere (t : Table) (p : Row → Bool) : Table := t.filter fun r => !p r

/-- How many rows a condition picks. -/
def countWhere (t : Table) (p : Row → Bool) : Nat := t.countP p

/-- The rows of an owner, oldest creation first; rows created at one moment stay in order of
insertion. -/
def ofOwner (t : Table) (owner : Text) : List Row :=
  (t.filter fun r => r.header.owner = owner).mergeSort fun a b =>
    decide (a.header.createdAt ≤ b.header.createdAt)

/-- Ids and envelopes, in order of id. -/
def contents (t : Table) : List (Text × Option Text) :=
  (t.map fun r => (r.header.id, r.data)).mergeSort fun a b => Text.le a.1 b.1

end Table

end SealedDrop.Store
