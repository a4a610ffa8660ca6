/-
  SealedDrop.Json.Basic
  ─────────────────────
  **JSON VALUES.**

  Whole numbers keep all their digits and are told apart from numbers written
  with a fraction or an exponent, which are doubles.  An object keeps its
  members in the order in which their names were first written; a name
  written twice keeps its first place and its last value.
-/
import SealedDrop.Number.Double

namespace SealedDrop

/-- A JSON value. -/
inductive Json where
  /-- The value `null`. -/
  | null
  /-- A truth value. -/
  | bool (b : Bool)
  /-- A number written without fraction or exponent. -/
  | int (n : Int)
  /-- Any other number, NaN and the infinities included. -/
  | float (x : Float)
  /-- A string. -/
  | text (t : Text)
  /-- An array. -/
  | list (items : List Json)
  /-- An object, with distinct names. -/
  | object (members : List (Text × Json))
  deriving Inhabited

namespace Json

/-- The value of a name among members. -/
def find? (name : Text) : List (Text × Json) → Option Json
  | [] => none
  | (k, v) :: r => if k = name then some v else find? name r

/-- Members with one set: in place if the name is there, at the end otherwise. -/
def setMember (name : Text) (value : Json) : List (Text × Json) → List (Text × Json)
  | [] => [(name, value)]
  | (k, v) :: r => if k = name then (k, value) :: r else (k, v) :: setMember name value r

/-- Members in writing order, names made distinct. -/
def ofMembers (written : List (Text × Json)) : Json :=
  .object (written.foldl (fun ms (k, v) => setMember k v ms) [])

end Json

end SealedDrop
