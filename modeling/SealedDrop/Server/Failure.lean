/-
  SealedDrop.Server.Failure
  ─────────────────────────
  **HOW FAILURES BECOME ERROR ANSWERS.**

  A rejected request is told why; an unknown secret, an expired one and a
  consumed one get the same answer; anything unforeseen is answered with a
  sentence that says nothing.  An error that already is an answer passes.
-/
import SealedDrop.Journal.Entry
import SealedDrop.Store.Operation

namespace SealedDrop.Server

open Journal (Entry)

/-- An error answer: its status and its detail. -/
structure ErrorAnswer where
  /-- The status. -/
  status : Nat
  /-- The detail. -/
  detail : Text
  deriving DecidableEq, Repr

/-- The one detail for secrets that cannot be read. -/
def secretNotFound : Text := "Secret not found"

/-- The answer for secrets that cannot be read. -/
def ErrorAnswer.secretNotFound : ErrorAnswer := ⟨404, Server.secretNotFound⟩

/-- What can go wrong while a request is carried out. -/
inductive Failure where
  /-- An error that already is an answer. -/
  | answered (answer : ErrorAnswer)
  /-- The request asks for something invalid. -/
  | rejected (reason : Text)
  /-- There is no secret of this id. -/
  | notFound (id : Text)
  /-- Anything else. -/
  | unforeseen (reason : Text)
  deriving DecidableEq, Repr

namespace Failure

/-- The answer to a failure. -/
def answer : Failure → ErrorAnswer
  | .answered a => a
  | .rejected reason => ⟨400, reason⟩
  | .notFound _ => .secretNotFound
  | .unforeseen _ => ⟨500, "Internal server error"⟩

/-- What a failure writes into the journal. -/
def entries : Failure → List Entry
  | .answered _ => []
  | .rejected reason => [.info ("Rejected request: " ++ reason)]
  | .notFound id => [.info ("Not found: " ++ id)]
  | .unforeseen reason => [.error ("Failed to process request: " ++ reason)]

/-- The failure of an operation of the store. -/
def ofStore (e : Store.Error) : Failure :=
  match e with
  | .notFound id => .notFound id
  | .emptyData | .tooLong _ | .notFuture => .rejected e.message
  | .outOfCalendar | .unencodable _ | .duplicateId => .unforeseen e.message

end Failure

end SealedDrop.Server
