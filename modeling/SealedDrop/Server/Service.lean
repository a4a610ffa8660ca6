/-
  SealedDrop.Server.Service
  ─────────────────────────
  **THE WHOLE SERVICE, REQUEST BY REQUEST.**

  A request passes the rate limiter, then the rules for other origins, then
  the router.  A refusal by the limiter carries no headers of the rules for
  other origins, and neither does the bare answer to a breakdown.
-/
import SealedDrop.Server.Cors
import SealedDrop.Server.RateLimit
import SealedDrop.Server.Route

namespace SealedDrop.Server

open Http (Request Response)

variable {τ : Type} [Sub τ] [LT τ] [DecidableLT τ] [OfNat τ 1]

/-- The bare answer to a breakdown. -/
def breakdownResponse : Response := ⟨500, [], .text "Internal Server Error"⟩

/-- The answer to a client over its limit. -/
def limitedResponse : Response := Response.detail 429 "Too many requests."

/-- Carries out a request behind the limiter. -/
def respond (c : Context) (s : Records) (r : Request) : Response × Records :=
  match preflight? r with
  | some answer => (answer, s)
  | none =>
    match dispatch c s r with
    | (.response a, s) => (a.withHeaders (originHeaders r), s)
    | (.breakdown, s) => (breakdownResponse, s)

/-- The records of the server and the lanes of its clients. -/
structure State (τ : Type) where
  /-- The records. -/
  records : Records
  /-- The lanes. -/
  lanes : RateLimit.State τ

/-- A server that has seen nothing. -/
def State.empty {τ : Type} : State τ := ⟨Records.empty, []⟩

/-- A request with where it comes from and what the monotonic clock shows. -/
structure Delivery (τ : Type) where
  /-- The request. -/
  request : Request
  /-- The address of the client, if it has one. -/
  client : Option Text
  /-- The reading of the monotonic clock. -/
  tick : τ

/-- Carries out a request. -/
def serve (p : RateLimit.Policy τ) (c : Context) (s : State τ) (d : Delivery τ) :
    Response × State τ :=
  let (ok, lanes) := RateLimit.step p s.lanes ⟨d.client, d.request.method, d.tick⟩
  if ok then
    let (a, records) := respond c s.records d.request
    (a, ⟨records, lanes⟩)
  else (limitedResponse, ⟨s.records, lanes⟩)

end SealedDrop.Server
