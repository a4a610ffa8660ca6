/-
  SealedDrop.Form.Problem
  ───────────────────────
  **WHY A DOCUMENT DOES NOT FIT ITS FORM.**

  A form names the fields of a record and what each may hold.  A document that
  does not fit is refused with ALL its faults, fields in the order of the
  form and unknown keys after them; each fault has a place, a code that
  programs can test, and a sentence for people.
-/
import SealedDrop.Calendar.Reading

namespace SealedDrop.Form

/-- What is wrong at one place. -/
inductive Problem where
  /-- A required field is not there. -/
  | missing
  /-- Not a text. -/
  | notText
  /-- A text that holds a surrogate where it has to be read. -/
  | notUnicode
  /-- Not a truth value, nor anything that could be one. -/
  | notBool
  /-- A text or number that is no truth value. -/
  | unreadableBool
  /-- Not the one truth value allowed here. -/
  | notLiteral (allowed : Bool)
  /-- Something where nothing may be. -/
  | notNull
  /-- No point in time. -/
  | time (fault : TimeFault)
  /-- Not a whole number, nor anything that could be one. -/
  | notInt
  /-- A number with a fraction. -/
  | fractionalInt
  /-- An infinity or no number. -/
  | notFinite
  /-- A text that is no whole number. -/
  | unreadableInt
  /-- A whole number with too many digits. -/
  | oversizedInt
  /-- A number below its minimum. -/
  | below (minimum : Int)
  /-- A key that the form does not have. -/
  | extra
  /-- Not a record of this title. -/
  | notRecord (title : Text)
  deriving DecidableEq, Repr

namespace Problem

/-- The code of a problem. -/
def code : Problem → Text
  | .missing => "missing"
  | .notText => "string_type"
  | .notUnicode => "string_unicode"
  | .notBool => "bool_type"
  | .unreadableBool => "bool_parsing"
  | .notLiteral _ => "literal_error"
  | .notNull => "none_required"
  | .time (.noTimeOrDate _) => "datetime_from_date_parsing"
  | .time (.noTime _) => "datetime_parsing"
  | .time .yearZero => "datetime_parsing"
  | .time .wrongType => "datetime_type"
  | .notInt => "int_type"
  | .fractionalInt => "int_from_float"
  | .notFinite => "finite_number"
  | .unreadableInt => "int_parsing"
  | .oversizedInt => "int_parsing_size"
  | .below _ => "greater_than_equal"
  | .extra => "extra_forbidden"
  | .notRecord _ => "model_type"

/-- The sentence of a problem. -/
def message : Problem → Text
  | .missing => "Field required"
  | .notText => "Input should be a valid string"
  | .notUnicode => "Input should be a valid string, unable to parse raw data as a unicode string"
  | .notBool => "Input should be a valid boolean"
  | .unreadableBool => "Input should be a valid boolean, unable to interpret input"
  | .notLiteral true => "Input should be True"
  | .notLiteral false => "Input should be False"
  | .notNull => "Input should be None"
  | .time (.noTimeOrDate e) => "Input should be a valid datetime or date, " ++ e.message
  | .time (.noTime e) => "Input should be a valid datetime, " ++ e.message
  | .time .yearZero => "Input should be a valid datetime, year 0 is out of range"
  | .time .wrongType => "Input should be a valid datetime"
  | .notInt => "Input should be a valid integer"
  | .fractionalInt => "Input should be a valid integer, got a number with a fractional part"
  | .notFinite => "Input should be a finite number"
  | .unreadableInt => "Input should be a valid integer, unable to parse string as an integer"
  | .oversizedInt => "Unable to parse input string as an integer, exceeded maximum size"
  | .below n => "Input should be greater than or equal to " ++ Text.ofInt n
  | .extra => "Extra inputs are not permitted"
  | .notRecord title => "Input should be a valid dictionary or instance of " ++ title

end Problem

/-- A problem at its place: the field names on the way to it. -/
structure Fault where
  /-- Where it is. -/
  path : List Text
  /-- What it is. -/
  problem : Problem
  deriving DecidableEq, Repr

namespace Fault

/-- The place of a fault, names joined by points. -/
def place (f : Fault) : Text := Text.joinWith "." f.path

/-- The same fault inside a field. -/
def inside (name : Text) (f : Fault) : Fault := { f with path := name :: f.path }

/-- A field name in a sentence; between grave accents if it holds a point itself. -/
def quotedName (name : Text) : Text :=
  if name.contains (CodePoint.ofChar '.') then "\x60" ++ name ++ "\x60" else name

/-- The lines of a fault: its place, unless it is the whole document, and its sentence. -/
def lines (f : Fault) : Text :=
  (if f.path.isEmpty then []
    else Text.ofString "\n" ++ Text.joinWith "." (f.path.map quotedName))
    ++ "\n  " ++ f.problem.message ++ " [type=" ++ f.problem.code ++ "]"

end Fault

/-- A refused document: the title of the form and all faults. -/
structure Rejection where
  /-- The title of the form. -/
  title : Text
  /-- The faults, in order. -/
  faults : List Fault
  deriving DecidableEq, Repr

/-- The wording of a rejection. -/
def Rejection.message (r : Rejection) : Text :=
  Text.ofNat r.faults.length
    ++ (if r.faults.length = 1 then Text.ofString " validation error for "
        else Text.ofString " validation errors for ")
    ++ r.title ++ r.faults.flatMap Fault.lines

/-- A value, or all that is wrong with its document. -/
abbrev Checked (α : Type) := Except (List Fault) α

namespace Checked

/-- Both parts, with the faults of both. -/
def both {α β : Type} (f : Checked (α → β)) (x : Checked α) : Checked β :=
  match f, x with
  | .ok f, .ok x => .ok (f x)
  | .ok _, .error e => .error e
  | .error e, .ok _ => .error e
  | .error e, .error e' => .error (e ++ e')

/-- A check without result after a value. -/
def also {α : Type} (x : Checked α) (check : Checked Unit) : Checked α :=
  both (x.map fun a _ => a) check

end Checked

end SealedDrop.Form
