/-
  SealedDrop.Server.Unwrap
  ────────────────────────
  **FROM A SIGNED BODY TO A REQUEST THAT CAN BE TRUSTED.**

  A body goes through the same steps for every endpoint:

      octets → text → JSON → signed payload → (signature) → JSON → request

  and the name inside the request must be that of the signer.  Whatever does
  not parse is the caller's fault, and the answer says what was wrong; only a
  document that is nested too deep breaks the server down.  Registration skips
  the signature, since there is no key yet to check it against.
-/
import SealedDrop.Form.Request
import SealedDrop.Json.Encoding
import SealedDrop.Json.Parser
import SealedDrop.Server.Account
import SealedDrop.Server.Failure

namespace SealedDrop.Server

open Form (Document SignedPayload Rejection)

/-- A request that names who makes it. -/
class Signed (α : Type) extends Document α where
  /-- The name inside the request. -/
  signer : α → Text

instance : Signed Form.Registration := ⟨Form.Registration.username⟩
instance : Signed Form.Creation := ⟨Form.Creation.username⟩
instance : Signed Form.Listing := ⟨Form.Listing.username⟩
instance : Signed Form.Expiration := ⟨Form.Expiration.username⟩

/-- Why there is no request in a body that can be trusted. -/
inductive Setback where
  /-- The caller is told. -/
  | answered (answer : ErrorAnswer)
  /-- The server breaks down. -/
  | breakdown
  deriving DecidableEq, Repr

/-- The answer to a body that does not parse. -/
def invalidPayload (why : Text) : ErrorAnswer := ⟨400, "Invalid payload: " ++ why⟩

/-- What becomes of a text that is no JSON document. -/
def unreadable (t : Text) (e : Json.Fault) : Setback :=
  match e with
  | .tooDeep _ => .breakdown
  | e => .answered (invalidPayload (e.message t))

/-- The record of a form in a document. -/
def fitted {α : Type} [Document α] (j : Json) : Except Setback α :=
  (Form.read j : Except Rejection α).mapError fun r => .answered (invalidPayload r.message)

/-- The signed payload in a body. -/
def readBody (body : Bytes) : Except Setback SignedPayload :=
  match Json.textOfBody body with
  | .error e => .error (.answered (invalidPayload e.message))
  | .ok t => (Json.readText t).mapError (unreadable t) |>.bind fitted

/-- Accepts a signed payload whose signer is known and whose signature is right. -/
def authenticate (accounts : Accounts) (p : SignedPayload) : Except Setback Unit :=
  match Utf8.firstSurrogates p.username with
  | some e => .error (.answered (invalidPayload e.message))
  | none =>
    match accounts.find? p.username with
    | none => .error (.answered ⟨404, "User does not exist"⟩)
    | some a =>
      (Signature.check a.publicKey p.signature p.payload).mapError fun r =>
        .answered (if r.isInvalid then ⟨400, r.message⟩ else invalidPayload r.message)

/-- The request inside a signed payload, if it is made in the name of its signer. -/
def openPayload {α : Type} [Signed α] (p : SignedPayload) : Except Setback α := do
  let j ← (Json.read p.payload).mapError (unreadable p.payload)
  let a : α ← fitted j
  if Signed.signer a = p.username then return a
  else .error (.answered ⟨403, "Payload username does not match signer"⟩)

/-- The request in a body, with its signature checked. -/
def unwrap {α : Type} [Signed α] (accounts : Accounts) (body : Bytes) : Except Setback α := do
  let p ← readBody body
  authenticate accounts p
  openPayload p

/-- The request in a body, whoever signed it. -/
def unwrapUnchecked {α : Type} [Signed α] (body : Bytes) : Except Setback α := do
  let p ← readBody body
  openPayload p

end SealedDrop.Server
