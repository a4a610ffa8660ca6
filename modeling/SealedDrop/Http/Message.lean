/-
  SealedDrop.Http.Message
  ───────────────────────
  **REQUESTS AND RESPONSES.**

  A request names its target as it was sent: a path, in which percent escapes
  stand for octets, and possibly a query.  A response carries the headers that
  matter to callers and a body that is either JSON or plain text.
-/
import SealedDrop.Json.Basic
import SealedDrop.Text.Percent

namespace SealedDrop.Http

/-! ## §1. Messages -/

/-- Header names, in lower case, with their values. -/
abbrev Headers := List (Text × Text)

/-- A request. -/
structure Request where
  /-- The method. -/
  method : Text
  /-- The host it was sent to. -/
  host : Text
  /-- Path and query as they were sent. -/
  target : Text
  /-- The headers. -/
  headers : Headers
  /-- The body. -/
  body : Bytes

/-- The value of a header. -/
def header? (name : Text) (hs : Headers) : Option Text :=
  (hs.find? fun h => h.1 = name).map (·.2)

/-- The body of a response. -/
inductive Body where
  /-- A JSON document. -/
  | json (value : Json)
  /-- Plain text. -/
  | text (value : Text)

/-- A response. -/
structure Response where
  /-- The status. -/
  status : Nat
  /-- The headers. -/
  headers : Headers
  /-- The body. -/
  body : Body

namespace Response

/-- A JSON document with its status. -/
def json (status : Nat) (value : Json) : Response := ⟨status, [], .json value⟩

/-- An error with its detail. -/
def detail (status : Nat) (text : Text) : Response :=
  json status (.object [("detail", .text text)])

/-- The response with more headers. -/
def withHeaders (r : Response) (hs : Headers) : Response := { r with headers := r.headers ++ hs }

end Response

/-! ## §2. Targets -/

namespace Request

/-- The path with its escapes resolved. -/
def path (r : Request) : Text := Percent.decode (r.target.takeWhile (· ≠ CodePoint.ofChar '?'))

/-- The query as it was sent. -/
def query (r : Request) : Text := (r.target.dropWhile (· ≠ CodePoint.ofChar '?')).drop 1

end Request

/-! ## §3. Signs of an address -/

/-- Signs that may stand in the part before a host. -/
def isUserSign (c : CodePoint) : Bool :=
  Percent.isUnreserved c || List.contains (Text.ofString "!$&'()*+,;=:") c

/-- Signs that may stand in a path. -/
def isPathSign (c : CodePoint) : Bool := isUserSign c || List.contains (Text.ofString "@/") c

/-- Signs that may stand in a query. -/
def isQuerySign (c : CodePoint) : Bool := isPathSign c || c = CodePoint.ofChar '?'

/-- Signs that may stand anywhere in a whole address, escapes included. -/
def isAddressSign (c : CodePoint) : Bool :=
  isQuerySign c || List.contains (Text.ofString "%#[]") c

/-- A whole address with everything unusual escaped. -/
def quoteAddress (t : Text) : Text := Percent.encode isAddressSign t

/-! ## §4. Hosts -/

/-- Whether a text can stand between the slashes and the path of an address: a host by name or in
brackets, possibly with a port. -/
def isHost (t : Text) : Bool :=
  match Text.dropLiteral? "[" t with
  | some r =>
    match Text.cutAt? ']' r with
    | none => false
    | some (inner, rest) =>
      !inner.isEmpty && inner.all isBracketSign && isPort rest
  | none =>
    let name := t.takeWhile (· ≠ CodePoint.ofChar ':')
    !name.isEmpty && Percent.isEscaped name && name.all isNameSign && isPort (t.drop name.length)
where
  isBracketSign (c : CodePoint) : Bool :=
    c.hexDigit?.isSome || c = CodePoint.ofChar ':' || c = CodePoint.ofChar '.'
  isNameSign (c : CodePoint) : Bool :=
    (isUserSign c && c ≠ CodePoint.ofChar ':') || c = CodePoint.ofChar '%'
  isPort : Text → Bool
    | [] => true
    | c :: r => c = CodePoint.ofChar ':' && r.all CodePoint.isDigit

/-- The host under which a client knows the server: what its header says, if that is a host. -/
def Request.knownHost (r : Request) : Text := ((header? "host" r.headers).filter isHost).getD r.host

end SealedDrop.Http
