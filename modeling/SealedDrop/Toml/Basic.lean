/-
  SealedDrop.Toml.Basic
  ─────────────────────
  **THE VALUES OF A TOML DOCUMENT.**

  A document is a table: names with values, in the order in which they were
  first written.  Dates and times are values of their own, not texts.
-/
import SealedDrop.Calendar.Moment

namespace SealedDrop.Toml

/-- A value. -/
inductive Value where
  /-- A string. -/
  | text (t : Text)
  /-- A whole number. -/
  | int (n : Int)
  /-- A number with fraction or exponent, the infinities and NaN included. -/
  | float (x : Float)
  /-- A truth value. -/
  | bool (b : Bool)
  /-- A date. -/
  | date (d : Date)
  /-- A time of day, in microseconds. -/
  | timeOfDay (micros : Nat)
  /-- A date with a time, and an offset if it has one. -/
  | stamp (s : Stamp)
  /-- An array. -/
  | list (items : List Value)
  /-- A table. -/
  | table (entries : List (Text × Value))
  deriving Inhabited

/-- Names with values; no name stands there twice. -/
abbrev Table := List (Text × Value)

/-- The names that lead from the document to a value. -/
abbrev Key := List Text

namespace Table

/-- The value of a name. -/
def find? (name : Text) : Table → Option Value
  | [] => none
  | (k, v) :: r => if k = name then some v else find? name r

/-- The table with the value of a name set: in place if it is there, at the end otherwise. -/
def set (name : Text) (value : Value) : Table → Table
  | [] => [(name, value)]
  | (k, v) :: r => if k = name then (k, value) :: r else (k, v) :: set name value r

/-- The table changed at the inner table that a key leads to; tables on the way that are not there
are made. Through an array of tables the way leads to its last table, if arrays may be entered at
all. -/
def change (entersArrays : Bool) (f : Table → Option Table) : Key → Table → Option Table
  | [], t => f t
  | k :: r, t =>
    match find? k t with
    | none => (change entersArrays f r []).map fun n => set k (.table n) t
    | some (.table n) => (change entersArrays f r n).map fun n => set k (.table n) t
    | some (.list items) =>
      match entersArrays, items.reverse with
      | true, .table n :: before =>
        (change entersArrays f r n).map fun n => set k (.list (before.reverse ++ [.table n])) t
      | _, _ => none
    | some _ => none

/-- Every name of the second table with its value there, and all other names as in the first. -/
def override (t : Table) (u : Table) : Table := u.foldl (fun t (k, v) => set k v t) t

end Table

/-- Whether a value holds other values. -/
def Value.isNest : Value → Bool
  | .list _ | .table _ => true
  | _ => false

/-- Why a document cannot be read. -/
inductive Fault where
  /-- It breaks the rules of the format. -/
  | malformed
  /-- It holds a decimal number with this many digits, too many to read. -/
  | tooManyDigits (digits : Nat)
  /-- It nests values too deep. -/
  | tooDeep
  deriving DecidableEq, Repr

end SealedDrop.Toml
