/-
  SealedDrop.Server.Cors
  ──────────────────────
  **CALLS FROM OTHER ORIGINS.**

  Every origin may call, with credentials, any known method and any headers;
  only private-network access is not granted.  A pre-flight request is
  answered here and never reaches the endpoints.
-/
import SealedDrop.Http.Message

namespace SealedDrop.Server

open Http (Headers Request Response header?)

/-- The methods that other origins may use. -/
def crossOriginMethods : List Text :=
  ["DELETE", "GET", "HEAD", "OPTIONS", "PATCH", "POST", "PUT", "QUERY"]

/-- What every pre-flight answer depends on. -/
def preflightVary : Text :=
  "Origin, Access-Control-Request-Method, Access-Control-Request-Headers, "
    ++ "Access-Control-Request-Private-Network"

/-- The answer to a pre-flight request from an origin for a method. -/
def preflightAnswer (origin method : Text) (hs : Headers) : Response :=
  let failures : List Text :=
    (if crossOriginMethods.contains method then [] else [Text.ofString "method"])
      ++ (if (header? "access-control-request-private-network" hs).isSome then
        [Text.ofString "private-network"] else [])
  let echoed : Headers :=
    match header? "access-control-request-headers" hs with
    | some v => [("access-control-allow-headers", v)]
    | none => []
  let granted : Headers :=
    [("access-control-allow-credentials", "true"),
     ("access-control-allow-methods", Text.joinWith ", " crossOriginMethods),
     ("access-control-allow-origin", origin), ("access-control-max-age", "600"),
     ("vary", preflightVary)]
  let headers := granted ++ echoed
  if failures.isEmpty then ⟨200, headers, .text "OK"⟩
  else ⟨400, headers, .text ("Disallowed CORS " ++ Text.joinWith ", " failures)⟩

/-- The answer to a request, if it is a pre-flight request. -/
def preflight? (r : Request) : Option Response :=
  match header? "origin" r.headers, header? "access-control-request-method" r.headers with
  | some origin, some method =>
    if r.method = "OPTIONS" then some (preflightAnswer origin method r.headers) else none
  | _, _ => none

/-- The headers that every other answer gets. -/
def originHeaders (r : Request) : Headers :=
  match header? "origin" r.headers with
  | none => [("vary", "Origin")]
  | some origin =>
    [("access-control-allow-credentials", "true"), ("access-control-allow-origin", origin),
     ("vary", "Origin")]

end SealedDrop.Server
