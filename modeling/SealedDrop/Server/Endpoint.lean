/-
  SealedDrop.Server.Endpoint
  ──────────────────────────
  **THE FIVE ENDPOINTS.**

  An endpoint takes the records of the server and gives a reply and the
  records afterwards.  A reply is a response or a breakdown: an endpoint that
  breaks down has written nothing, and the caller gets a bare 500.

      POST /auth/register            a new account
      POST /secret-sharing/create    a new secret
      POST /secret-sharing/list      the secrets of the signer
      POST /secret-sharing/expire    clears a secret of the signer
      GET  /secret-sharing/‹id›      reads a secret, for anybody
-/
import SealedDrop.Http.Message
import SealedDrop.Server.Identifier
import SealedDrop.Server.Unwrap

namespace SealedDrop.Server

open Http (Response)

/-- What the server keeps. -/
structure Records where
  /-- The accounts. -/
  accounts : Accounts
  /-- The secrets. -/
  secrets : Store.Table
  /-- How many ids have been used up. -/
  issued : Nat

/-- No accounts and no secrets. -/
def Records.empty : Records := ⟨[], [], 0⟩

/-- What the framework's own pages say about the service. -/
structure Pages where
  /-- The members of the description of its routes. -/
  description : List (Text × Json)
  /-- The text of any other page, by path. -/
  text : Text → Text

/-- Pages that say nothing. -/
def Pages.blank : Pages := ⟨[], fun _ => []⟩

/-- What an endpoint needs to know besides its request. -/
structure Context where
  /-- The greatest length of an envelope. -/
  limit : Option Int
  /-- The ids that new secrets get. -/
  freshId : Nat → Text
  /-- The time of the request. -/
  now : Stamp
  /-- The framework's pages. -/
  pages : Pages

/-- The time of a request; a clock that tells nothing is an unforeseen failure. -/
def Context.time (c : Context) : Except Failure Stamp :=
  match c.now.clock with
  | .ok m => .ok (Stamp.utc m)
  | .error e => .error (.unforeseen e.message)

/-- What an endpoint comes to. -/
inductive Reply where
  /-- A response. -/
  | response (r : Response)
  /-- The endpoint broke down. -/
  | breakdown

/-- The reply of an error answer. -/
def ErrorAnswer.reply (a : ErrorAnswer) : Reply := .response (Response.detail a.status a.detail)

/-- The reply of a failure. -/
def Failure.reply (f : Failure) : Reply := f.answer.reply

/-- The reply of a failed operation of the store. -/
def storeReply (e : Store.Error) : Reply := (Failure.ofStore e).reply

/-- The reply to a body without a request that can be trusted. -/
def Setback.reply : Setback → Reply
  | .answered a => a.reply
  | .breakdown => .breakdown

/-- The reply of a JSON document. -/
def okReply (j : Json) : Reply := .response (Response.json 200 j)

/-- Registers the account in a body. -/
def registerEndpoint (s : Records) (body : Bytes) : Reply × Records :=
  match (unwrapUnchecked body : Except Setback Form.Registration) with
  | .error e => (e.reply, s)
  | .ok q =>
    match register s.accounts q.username q.publicKey with
    | .ok (id, accounts) =>
      (okReply (.object [("message", .text "User registered successfully"), ("user_id", .int id)]),
        { s with accounts })
    | .error .badKey => (ErrorAnswer.reply ⟨400, "Invalid public key"⟩, s)
    | .error .nameTaken => (ErrorAnswer.reply ⟨403, "Username already exists"⟩, s)
    | .error .foreignKey => (.breakdown, s)
    | .error (.unencodable _) => (.breakdown, s)

/-- Creates the secret in a body. -/
def createEndpoint (c : Context) (s : Records) (body : Bytes) : Reply × Records :=
  match (unwrap s.accounts body : Except Setback Form.Creation) with
  | .error e => (e.reply, s)
  | .ok q =>
    match c.time with
    | .error f => (f.reply, s)
    | .ok now =>
      let (o, used) := Store.create c.limit s.secrets (c.freshId s.issued)
        ⟨q.username, q.data, q.expiresAt, q.singleUse⟩ now
      let s := { s with secrets := o.table, issued := if used then s.issued + 1 else s.issued }
      match o.result with
      | .ok id => (okReply (Form.Document.write (Form.Created.mk id)), s)
      | .error e => (storeReply e, s)

/-- Lists the secrets of the signer of a body. -/
def listEndpoint (c : Context) (s : Records) (body : Bytes) : Reply × Records :=
  match (unwrap s.accounts body : Except Setback Form.Listing) with
  | .error e => (e.reply, s)
  | .ok q =>
    match c.time with
    | .error f => (f.reply, s)
    | .ok now =>
      match (Store.list s.secrets q.username now).result with
      | .ok views => (okReply (.list (views.map Store.View.toJson)), s)
      | .error e => (storeReply e, s)

/-- Clears the secret that a body names, if it belongs to the signer. -/
def expireEndpoint (s : Records) (body : Bytes) : Reply × Records :=
  match (unwrap s.accounts body : Except Setback Form.Expiration) with
  | .error e => (e.reply, s)
  | .ok q =>
    let o := Store.expire s.secrets q.id (some q.username)
    let s := { s with secrets := o.table }
    match o.result with
    | .ok () => (okReply (Form.Document.write (Form.Expired.mk true)), s)
    | .error e => (storeReply e, s)

/-- Reads a secret for anybody. -/
def readEndpoint (c : Context) (s : Records) (id : Text) : Reply × Records :=
  if !isIdentifier id then (ErrorAnswer.secretNotFound.reply, s)
  else
    match c.time with
    | .error f => (f.reply, s)
    | .ok now =>
      let o := Store.get s.secrets id now
      let s := { s with secrets := o.table }
      match o.result with
      | .error e => (storeReply e, s)
      | .ok (.expired _) => (ErrorAnswer.secretNotFound.reply, s)
      | .ok (.live h d) => (okReply (Store.publicJson h d), s)

end SealedDrop.Server
