/-
  SealedDrop.Client.Operation
  ───────────────────────────
  **WHAT A CLIENT CAN DO.**

  An owner registers a name, shares secrets, lists them and expires them.
  Whoever has a link fetches the envelope behind it, and reveals the secret
  with the password.  Sealing and opening happen here: a password never
  becomes part of a request.

  A request of an owner is signed in three steps: it is fitted to its form,
  written as compact JSON, and that text is signed.
-/
import SealedDrop.Client.Session

namespace SealedDrop.Client

open Http (Address)
open Form (Document SignedPayload)

variable {σ : Type}

/-! ## §1. Signing -/

/-- The name a request of this form is made under; a form has no place for nobody. -/
def author (c : Client) (form : Text) : Except Fault Text :=
  match c.username with
  | some u => .ok u
  | none => .error (.rejected ⟨form, [⟨["username"], .notText⟩]⟩)

/-- A request with its signature. -/
def signed {α : Type} [Document α] (c : Client) (request : α) :
    Except Fault SignedPayload :=
  match c.username, c.key with
  | some username, some key =>
    match Form.dump request with
    | .error e => .error (.unwritable e)
    | .ok payload =>
      match Signature.ofText key payload with
      | .error e => .error (.unwritable e)
      | .ok signature => .ok ⟨payload, signature, username⟩
  | _, _ => .error .anonymous

/-! ## §2. Sending -/

/-- Sends to a path below the address of the server and reads the answer. -/
def send (c : Client) (serve : Server σ) (s : σ) (path : Text)
    (payload : Option SignedPayload) : Outcome σ Json :=
  match Address.ofText (Text.stripRight '/' c.address ++ path) with
  | .error e => .unsent s (.address e)
  | .ok a =>
    (exchange serve a.host payload maxRedirects s a.target).andThen fun answer =>
      (check answer).mapError .answer

/-- Signs a request and sends it. -/
def post {α : Type} [Document α] (c : Client) (serve : Server σ) (s : σ) (path : Text)
    (request : α) : Outcome σ Json :=
  match c.signed request with
  | .error e => .unsent s e
  | .ok p => c.send serve s path (some p)

/-- A member of an answer. -/
def memberOf (name : Text) : Json → Json
  | .object o => (Json.find? name o).getD .null
  | _ => .null

/-- A text member of an answer. -/
def textOf (name : Text) (j : Json) : Text :=
  match memberOf name j with
  | .text t => t
  | _ => []

/-! ## §3. Owners -/

/-- Registers the name and the public key of the client; the value is the number of the account. -/
def register (c : Client) (serve : Server σ) (s : σ) : Outcome σ Json :=
  match c.key with
  | none => .unsent s .noKey
  | some key =>
    match c.author (Document.title Form.Registration) with
    | .error e => .unsent s e
    | .ok u =>
      (c.post serve s "/auth/register"
        (Form.Registration.mk u (Base64.encode (Ed25519.publicKey key)))).andThen fun j =>
          .ok (memberOf "user_id" j)

/-- What is to be shared, and how. -/
structure Deposit where
  /-- The secret. -/
  plaintext : Text
  /-- The password. -/
  password : Text
  /-- The deadline. -/
  expiresAt : Stamp
  /-- Whether one read uses it up. -/
  singleUse : Bool

/-- Seals a secret and stores its envelope; the value is the id. Salt and nonce are drawn before
anything else is looked at but the password. -/
def share (c : Client) (iterations : Int) (serve : Server σ) (s : σ) (d : Deposit)
    (e : Entropy) : Outcome σ Text × Entropy :=
  if d.password.isEmpty then (.unsent s .noPassword, e)
  else
    let (envelope, e) := Envelope.wrapFresh iterations d.plaintext d.password e
    match envelope with
    | .error f => (.unsent s (.noSealing f), e)
    | .ok data =>
      match c.author (Document.title Form.Creation) with
      | .error f => (.unsent s f, e)
      | .ok u =>
        ((c.post serve s "/secret-sharing/create"
          (Form.Creation.mk u data d.expiresAt d.singleUse)).andThen fun j =>
            .ok (textOf "id" j), e)

/-- Lists the secrets of the owner. -/
def list (c : Client) (serve : Server σ) (s : σ) : Outcome σ Json :=
  match c.author (Document.title Form.Listing) with
  | .error e => .unsent s e
  | .ok u => c.post serve s "/secret-sharing/list" (Form.Listing.mk u)

/-- Expires a secret of the owner. -/
def expire (c : Client) (serve : Server σ) (s : σ) (id : Text) : Outcome σ Unit :=
  match c.author (Document.title Form.Expiration) with
  | .error e => .unsent s e
  | .ok u =>
    (c.post serve s "/secret-sharing/expire" (Form.Expiration.mk u id)).andThen fun _ => .ok ()

/-! ## §4. Recipients -/

/-- Fetches a live secret, still sealed. -/
def fetch (c : Client) (serve : Server σ) (s : σ) (id : Text) : Outcome σ Json :=
  c.send serve s ("/secret-sharing/" ++ id) none

/-- Opens an envelope that was fetched. -/
def openEnvelope (iterations : Int) (envelope password : Text) : Except Fault Text :=
  (Envelope.unwrap iterations envelope password).mapError fun r =>
    match r.error with
    | .undecryptable => .undecryptable
    | .noKey e => .noSealing e

/-- Fetches a secret and opens it. -/
def reveal (c : Client) (iterations : Int) (serve : Server σ) (s : σ) (id password : Text) :
    Outcome σ Text :=
  (c.fetch serve s id).andThen fun j => openEnvelope iterations (textOf "data" j) password

end SealedDrop.Client
