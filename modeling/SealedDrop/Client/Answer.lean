/-
  SealedDrop.Client.Answer
  ────────────────────────
  **WHAT A CLIENT MAKES OF AN ANSWER.**

  A successful answer is its JSON value.  A failed one becomes an error of the
  client: unknown secret, rejected request, or failed request, with the detail
  that the server gave, or the whole body when it is no JSON.

  The body of an answer is text here.  Octets become text before this, by the
  encoding that the headers name, which is UTF-8 for JSON; so a byte order mark
  is still there, and makes a JSON document unreadable (`Json.read`).  Where the
  headers name no encoding, the transport guesses one from the octets, and that
  guess is left out.
-/
import SealedDrop.Json.Parser
import SealedDrop.Json.Printer

namespace SealedDrop.Client

/-- An answer as it arrives: its status and the text of its body. -/
structure Answer where
  /-- The status. -/
  status : Nat
  /-- The body, decoded. -/
  body : Text

/-- Why an answer has no value. -/
inductive AnswerFault where
  /-- There is no such secret; the detail stands where its id would. -/
  | notFound (detail : Text)
  /-- The request was rejected. -/
  | rejected (detail : Text)
  /-- The request failed otherwise. -/
  | failed (status : Nat) (detail : Text)
  /-- A failed answer whose body is a JSON value of this kind, which has no detail. -/
  | noDetail (kind : Text)
  /-- An answer whose body cannot be read as JSON, and is not taken as it is either. -/
  | unreadable (body : Text) (fault : Json.Fault)

namespace AnswerFault

/-- The wording of a fault. -/
def message : AnswerFault → Text
  | .notFound d => "Shared secret " ++ d ++ " not found"
  | .rejected d => d
  | .failed s d => "Request failed (" ++ Text.ofNat s ++ "): " ++ d
  | .noDetail kind => "'" ++ kind ++ "' object has no attribute 'get'"
  | .unreadable body e => e.message body

end AnswerFault

/-- The kind of a JSON value that is no object. -/
def kindOf : Json → Text
  | .null => "NoneType"
  | .bool _ => "bool"
  | .int _ => "int"
  | .float _ => "float"
  | .text _ => "str"
  | .list _ => "list"
  | .object _ => "dict"

/-- The detail of a failed answer. -/
def detail (body : Text) : Except AnswerFault Text :=
  match Json.read body with
  | .error (.tooDeep isObject) => .error (.unreadable body (.tooDeep isObject))
  | .error _ => .ok body
  | .ok (.object o) =>
    match Json.find? "detail" o with
    | none => .ok []
    | some v => .ok v.shown
  | .ok v => .error (.noDetail (kindOf v))

/-- The value of an answer. -/
def check (a : Answer) : Except AnswerFault Json :=
  if a.status < 400 then
    match Json.read a.body with
    | .ok v => .ok v
    | .error e => .error (.unreadable a.body e)
  else
    match detail a.body with
    | .error e => .error e
    | .ok d =>
      .error (if a.status = 404 then .notFound d
        else if a.status = 400 then .rejected d
        else .failed a.status d)

end SealedDrop.Client
