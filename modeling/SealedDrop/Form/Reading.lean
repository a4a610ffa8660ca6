/-
  SealedDrop.Form.Reading
  ───────────────────────
  **READING FIELDS FROM JSON.**

  Fields are read generously: a truth value may be written as 0, 1 or one of a
  few words, a point in time as a text or a count.  Texts are never made from
  anything else.  `record` puts fields together into a record and, for closed
  forms, reports the keys that no field has.
-/
import SealedDrop.Form.Problem
import SealedDrop.Json.Printer

namespace SealedDrop.Form

/-! ## §1. Truth values -/

/-- The words for true and false, in lower case. -/
def boolWords : List (Text × Bool) :=
  [("0", false), ("off", false), ("f", false), ("false", false), ("n", false), ("no", false),
   ("1", true), ("on", true), ("t", true), ("true", true), ("y", true), ("yes", true)]

/-- A truth value written as a text, in any case. -/
def boolOfText (t : Text) : Except Problem Bool :=
  if !t.isScalar then .error .notUnicode
  else
    match boolWords.find? fun w => w.1 = t.lowerAscii with
    | some (_, b) => .ok b
    | none => .error .unreadableBool

/-- A truth value written as a whole number. -/
def boolOfInt (n : Int) : Except Problem Bool :=
  if n = 0 then .ok false
  else if n = 1 then .ok true
  else if Reading.inRange64 n then .error .unreadableBool
  else .error .notBool

/-- Whole doubles that fit strictly between the ends of 64 bits. -/
def int64OfFloat? (x : Float) : Option Int :=
  (Double.toInt? x).bind fun n =>
    if -9223372036854775808 < n ∧ n < 9223372036854775808 then some n else none

/-- A truth value written as a double. -/
def boolOfFloat (x : Float) : Except Problem Bool :=
  match int64OfFloat? x with
  | some n => if n = 0 then .ok false else if n = 1 then .ok true else .error .unreadableBool
  | none => .error .notBool

/-- A truth value. -/
def bool : Json → Except Problem Bool
  | .bool b => .ok b
  | .int n => boolOfInt n
  | .float x => boolOfFloat x
  | .text t => boolOfText t
  | _ => .error .notBool

/-- One truth value and no other; the number equal to it will do. -/
def literal (allowed : Bool) : Json → Except Problem Unit
  | .bool b => if b = allowed then .ok () else .error (.notLiteral allowed)
  | .int n => if n = (if allowed then 1 else 0) then .ok () else .error (.notLiteral allowed)
  | .float x =>
    if Double.toInt? x = some (if allowed then 1 else 0) then .ok ()
    else .error (.notLiteral allowed)
  | _ => .error (.notLiteral allowed)

/-! ## §2. Texts, times and nothing -/

/-- A text. -/
def text : Json → Except Problem Text
  | .text t => .ok t
  | _ => .error .notText

/-- A point in time. -/
def stamp : Json → Except Problem Stamp
  | .text t =>
    if t.isScalar then (Reading.ofText t).mapError .time else .error .notUnicode
  | .int n => (Reading.ofInt n).mapError .time
  | .float x => (Reading.ofFloat x).mapError .time
  | _ => .error (.time .wrongType)

/-- Nothing. -/
def null : Json → Except Problem Unit
  | .null => .ok ()
  | _ => .error .notNull

/-! ## §3. Records -/

/-- The members of an object. -/
abbrev Members := List (Text × Json)

/-- A field that must be there. -/
def field {α : Type} (read : Json → Except Problem α) (o : Members) (name : Text) : Checked α :=
  match Json.find? name o with
  | none => .error [⟨[name], .missing⟩]
  | some v => (read v).mapError fun p => [⟨[name], p⟩]

/-- A field that may be left out. -/
def fieldOr {α : Type} (default : α) (read : Json → Except Problem α) (o : Members) (name : Text) :
    Checked α :=
  match Json.find? name o with
  | none => .ok default
  | some v => (read v).mapError fun p => [⟨[name], p⟩]

/-- No key beyond those of the form. A key that holds a surrogate cannot even be named. -/
def noExtra (names : List Text) (o : Members) : Checked Unit :=
  match o.filter fun (k, _) => !names.contains k with
  | [] => .ok ()
  | ms => .error (ms.map fun (k, _) => ⟨[k], .extra⟩)

/-! ## §4. Forms -/

/-- A record with a form: how it is read from an object and written as one. -/
class Document (α : Type) where
  /-- The title of the form. -/
  title : Text
  /-- The names of the fields, when no others may be there. -/
  closed : Option (List Text)
  /-- The record of an object's fields. -/
  fields : Members → Checked α
  /-- The object of a record. -/
  write : α → Json

/-- The record of a document. -/
def read {α : Type} [Document α] (j : Json) : Except Rejection α :=
  let refuse (fs : List Fault) : Rejection := ⟨Document.title α, fs⟩
  match j with
  | .object o =>
    match Document.closed α with
    | none => (Document.fields o).mapError refuse
    | some names =>
      if o.all fun (k, _) => k.isScalar then
        ((Document.fields o).also (noExtra names o)).mapError refuse
      else .error (refuse [⟨[], .notUnicode⟩])
  | _ => .error (refuse [⟨[], .notRecord (Document.title α)⟩])

/-- The first text of a document, in writing order, that has no UTF-8 form. -/
def firstUnencodable : Json → Option Unencodable
  | .object o => o.findSome? fun (_, v) =>
    match v with
    | .text t => Utf8.firstSurrogates t
    | _ => none
  | _ => none

/-- A record as compact JSON. -/
def dump {α : Type} [Document α] (a : α) : Except Unencodable Text :=
  let j := Document.write a
  match firstUnencodable j with
  | some e => .error e
  | none => .ok (Json.render Json.Style.compact j)

end SealedDrop.Form
