/-
  SealedDrop.Client.Session
  ─────────────────────────
  **REQUESTS OF A CLIENT AND WHAT THEY COME TO.**

  A client knows an address, and may know the name and the private key that it
  acts under.  It sends a request, goes where redirects send it, and reads the
  last answer.  Nothing is sent twice: a read may use a secret up, so it is
  never tried again.

  The server is a parameter here: any function that takes a state and a
  request to a response and a state.
-/
import SealedDrop.Client.Answer
import SealedDrop.Envelope
import SealedDrop.Form.Request
import SealedDrop.Http.Address
import SealedDrop.Json.Printer
import SealedDrop.Signature

namespace SealedDrop

/-! ## §1. Who asks -/

/-- A client of a server. -/
structure Client where
  /-- The address of the server. -/
  address : Text
  /-- The name it acts under. -/
  username : Option Text
  /-- Its private key. -/
  key : Option Bytes

namespace Client

open Http (Address AddressFault Request Response)
open Form (Document SignedPayload)

/-- Why an operation of a client fails. -/
inductive Fault where
  /-- There is no address to send to. -/
  | address (fault : AddressFault)
  /-- The answer has no value. -/
  | answer (fault : AnswerFault)
  /-- There is no key whose public half could be registered. -/
  | noKey
  /-- There is nobody to act for. -/
  | anonymous
  /-- The password is empty. -/
  | noPassword
  /-- The request does not fit its form. -/
  | rejected (why : Form.Rejection)
  /-- The request has no UTF-8 form. -/
  | unwritable (fault : Unencodable)
  /-- There is no key to seal or to open with. -/
  | noSealing (fault : Envelope.KeyFault)
  /-- The envelope does not open. -/
  | undecryptable
  /-- Too many answers sent the client elsewhere. -/
  | endlessRedirects

/-- The most answers in a row that may send the client elsewhere. -/
def maxRedirects : Nat := 30

/-- The wording of a fault. -/
def Fault.message : Fault → Text
  | .address e => e.message
  | .answer e => e.message
  | .noKey => "'NoneType' object has no attribute 'public_key'"
  | .anonymous => "A username and private key are required"
  | .noPassword => "A password is required"
  | .rejected r => r.message
  | .unwritable e => "Error serializing to JSON: UnicodeEncodeError: " ++ e.message
  | .noSealing e => e.message
  | .undecryptable => Envelope.Error.undecryptable.message
  | .endlessRedirects => "Exceeded " ++ Text.ofNat maxRedirects ++ " redirects."

/-- Whether a fault is one that the client foresees and words for its user. -/
def Fault.isForeseen : Fault → Bool
  | .answer (.notFound _) | .answer (.rejected _) | .answer (.failed _ _) => true
  | .anonymous | .noPassword | .undecryptable => true
  | _ => false

/-! ## §2. Exchanges -/

/-- A request that was answered. -/
structure Exchange where
  /-- The method. -/
  method : Text
  /-- Path and query. -/
  target : Text
  /-- What was sent. -/
  payload : Option SignedPayload
  /-- The status of the answer. -/
  status : Nat
  deriving DecidableEq, Repr

/-- What an operation comes to, with the state of the server after it. -/
structure Outcome (σ α : Type) where
  /-- The value, or why there is none. -/
  result : Except Fault α
  /-- The state of the server. -/
  state : σ
  /-- The exchanges, in order. -/
  exchanges : List Exchange

/-- An operation that fails before anything is sent. -/
def Outcome.unsent {σ α : Type} (s : σ) (e : Fault) : Outcome σ α := ⟨.error e, s, []⟩

/-- An operation whose value goes through one more step. -/
def Outcome.andThen {σ α β : Type} (o : Outcome σ α) (f : α → Except Fault β) : Outcome σ β :=
  { o with result := o.result.bind f }

/-- A server: it takes a state and a request to a response and a state. -/
abbrev Server (σ : Type) := σ → Request → Response × σ

/-- The body of a signed payload. -/
def bodyOf (p : SignedPayload) : Bytes :=
  (Json.render Json.Style.ascii (Document.write p)).flatMap Utf8.encodePoint

/-- A request of a client. -/
def requestOf (host target : Text) : Option SignedPayload → Request
  | none => ⟨"GET", host, target, [], []⟩
  | some p => ⟨"POST", host, target, [("content-type", "application/json")], bodyOf p⟩

/-- The answer that a response carries. -/
def answerOf (r : Response) : Answer :=
  ⟨r.status,
    match r.body with
    | .json j => Json.render Json.Style.compact j
    | .text t => t⟩

/-- Where a response sends the client, method and body unchanged. -/
def redirect? (r : Response) : Option Text :=
  if r.status = 307 then Http.header? "location" r.headers else none

/-- Sends a request, and sends it again to wherever the answer says, `n` times at most. -/
def exchange {σ : Type} (serve : Server σ) (host : Text) (payload : Option SignedPayload) :
    Nat → σ → Text → Outcome σ Answer
  | n, s, target =>
    let q := requestOf host target payload
    let (r, s) := serve s q
    let done : Exchange := ⟨q.method, target, payload, r.status⟩
    match redirect? r with
    | none => ⟨.ok (answerOf r), s, [done]⟩
    | some location =>
      match n with
      | 0 => ⟨.error .endlessRedirects, s, [done]⟩
      | n + 1 =>
        let o := exchange serve host payload n s (Http.redirectTarget location)
        { o with exchanges := done :: o.exchanges }

end Client

end SealedDrop
