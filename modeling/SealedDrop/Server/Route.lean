/-
  SealedDrop.Server.Route
  ───────────────────────
  **FROM A PATH TO AN ENDPOINT.**

  The routes are tried in order.  The first one whose path AND method fit
  takes the request.  If only paths fit, the first of those says which method
  it would have taken.  If none fits, the path is tried once more with its
  trailing slashes removed, or with one added; if that fits a path, the client
  is sent there.

  Some paths lead to pages about the service, which the framework writes: a
  description of the routes in JSON, and texts for readers.  What they say is
  left open (`Pages`); it depends on the path, and never on the records.
-/
import SealedDrop.Server.Endpoint

namespace SealedDrop.Server

open Http (Request Response)

/-- The endpoints, in the order in which they are tried. -/
inductive Route where
  /-- A new account. -/
  | register
  /-- A new secret. -/
  | create
  /-- The secrets of the signer. -/
  | list
  /-- Clearing a secret of the signer. -/
  | expire
  /-- Reading a secret. -/
  | read
  deriving DecidableEq, Repr

namespace Route

/-- All routes, in order. -/
def all : List Route := [.register, .create, .list, .expire, .read]

/-- The method of a route. -/
def method : Route → Text
  | .read => "GET"
  | _ => "POST"

/-- The path of a route without parameters. -/
def fixedPath : Route → Text
  | .register => "/auth/register"
  | .create => "/secret-sharing/create"
  | .list => "/secret-sharing/list"
  | .expire => "/secret-sharing/expire"
  | .read => "/secret-sharing/"

/-- Whether a path is a fixed one, which may be followed by one line feed. -/
def isFixed (path fixed : Text) : Bool := path = fixed || path = fixed ++ "\n"

/-- The parameter of a path that fits a route: nothing for a fixed path, and one nonempty segment
for a read. -/
def fit? (r : Route) (path : Text) : Option Text :=
  match r with
  | .read =>
    match Text.dropLiteral? r.fixedPath path with
    | none => none
    | some rest =>
      if rest.isEmpty || rest.contains (CodePoint.ofChar '/') then none else some rest
  | _ => if isFixed path r.fixedPath then some [] else none

end Route

/-- Where a request goes. -/
inductive Destination where
  /-- To a route, with its parameter. -/
  | route (r : Route) (parameter : Text)
  /-- To a page about the service. -/
  | page
  /-- Nowhere: the path would take another method. -/
  | otherMethod (allowed : Text)
  /-- Nowhere: another path would fit. -/
  | otherPath (path : Text)
  /-- Nowhere. -/
  | nowhere
  deriving DecidableEq, Repr

/-- The path with trailing slashes removed, or with one added if it has none. -/
def toggleSlash (path : Text) : Text :=
  if Text.endsWith path "/" then Text.stripRight '/' path else path ++ "/"

/-- The path of the description of the routes. -/
def descriptionPath : Text := "/openapi.json"

/-- The paths of the framework's pages about the service. -/
def pagePaths : List Text := [descriptionPath, "/docs", "/docs/oauth2-redirect", "/redoc"]

/-- The methods that a page takes. -/
def pageMethods : List Text := ["GET", "HEAD"]

/-- Whether a path is that of a page. -/
def isPage (path : Text) : Bool := pagePaths.any (Route.isFixed path)

/-- Whether a path fits a page or some route. -/
def fitsSome (path : Text) : Bool := isPage path || Route.all.any fun r => (r.fit? path).isSome

/-- Where a method and a path lead. -/
def destination (method path : Text) : Destination :=
  let fits := Route.all.filterMap fun r => (r.fit? path).map fun p => (r, p)
  match fits.find? fun f => f.1.method = method with
  | some (r, p) => .route r p
  | none =>
    match fits with
    | (r, _) :: _ => .otherMethod r.method
    | [] =>
      if isPage path then
        if pageMethods.contains method then .page
        else .otherMethod (Text.joinWith ", " pageMethods)
      else
        let other := toggleSlash path
        if path ≠ "/" ∧ fitsSome other then .otherPath other else .nowhere

/-- The page at a path. -/
def Pages.body (p : Pages) (path : Text) : Http.Body :=
  if Route.isFixed path descriptionPath then .json (.object p.description) else .text (p.text path)

/-- Carries out a request at its route. -/
def runRoute (c : Context) (s : Records) (r : Route) (parameter : Text) (body : Bytes) :
    Reply × Records :=
  match r with
  | .register => registerEndpoint s body
  | .create => createEndpoint c s body
  | .list => listEndpoint c s body
  | .expire => expireEndpoint s body
  | .read => readEndpoint c s parameter

/-- The address a client is sent to. -/
def redirectAddress (r : Request) (path : Text) : Text :=
  let address := "http://" ++ r.knownHost ++ Percent.encode Http.isPathSign path
  Http.quoteAddress (if r.query.isEmpty then address else address ++ "?" ++ r.query)

/-- Carries out a request. -/
def dispatch (c : Context) (s : Records) (r : Request) : Reply × Records :=
  match destination r.method r.path with
  | .route route parameter => runRoute c s route parameter r.body
  | .page => (.response ⟨200, [], c.pages.body r.path⟩, s)
  | .otherMethod allowed =>
    (.response ((Response.detail 405 "Method Not Allowed").withHeaders [("allow", allowed)]), s)
  | .otherPath path => (.response ⟨307, [("location", redirectAddress r path)], .text []⟩, s)
  | .nowhere => (.response (Response.detail 404 "Not Found"), s)

end SealedDrop.Server
