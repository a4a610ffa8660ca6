/-
  SealedDrop.Http.Address
  ───────────────────────
  **WHERE A CLIENT SENDS A REQUEST.**

  A client is given an address as people type it, and sends to a normal form
  of it:

      scheme ":" "//" authority path "?" query "#" fragment

  Dot segments of the path are resolved, what may not stand in an address is
  escaped, escapes that are not needed are undone, and the fragment stays with
  the client.  An address without scheme or host is refused, and so is a
  scheme other than the two of the web.
-/
import SealedDrop.Http.Label
import SealedDrop.Http.Message
import SealedDrop.Text.Numeral
import SealedDrop.Text.Printable

namespace SealedDrop.Http

/-! ## §1. Escapes -/

/-- The digits of escapes in upper case. -/
def upperEscapes (t : Text) : Text :=
  go t 0
where
  /-- `pending` digits still belong to the last escape. -/
  go : Text → Nat → Text
    | [], _ => []
    | c :: r, k + 1 => c.toUpperAscii :: go r k
    | c :: r, 0 => c :: go r (if c = '%' ∧ Percent.startsWithOctet r then 2 else 0)

/-- A part of an address in which everything that is not allowed is escaped. Its percent signs
are kept when all of them start escapes, and are escaped themselves otherwise. -/
def escapePart (allowed : CodePoint → Bool) (t : Text) : Text :=
  let keep := Percent.isEscaped t
  (upperEscapes t).flatMap fun (c : CodePoint) =>
    if allowed c || (keep && c = CodePoint.ofChar '%') then [c]
    else Percent.encode (fun _ => false) [c]

/-- An address with the escapes undone that stand for unreserved signs; nothing when two letters
or digits after a percent sign are not hexadecimal. -/
def releaseUnreserved? (t : Text) : Option Text :=
  go t 0
where
  /-- `skip` code points still belong to the last escape. -/
  go : Text → Nat → Option Text
    | [], _ => some []
    | _ :: r, k + 1 => go r k
    | c :: r, 0 =>
      if c = '%' then
        match r with
        | a :: b :: _ =>
          match Percent.octet? r with
          | some n =>
            let d := CodePoint.ofNat n.toNat
            if Percent.isUnreserved d then (go r 2).map (d :: ·) else (go r 0).map (c :: ·)
          | none =>
            if (a.isLetter || a.isDigit) && (b.isLetter || b.isDigit) then none
            else (go r 0).map (c :: ·)
        | _ => (go r 0).map (c :: ·)
      else (go r 0).map (c :: ·)

/-- The normal form of the escapes of a whole address. -/
def requote (t : Text) : Text :=
  match releaseUnreserved? t with
  | some t => quoteAddress t
  | none => quoteAddress (t.flatMap fun (c : CodePoint) => if c = '%' then "%25" else [c])

/-! ## §2. Paths -/

/-- Segments with the dots resolved: one dot stays, two dots go up. The segments kept so far are
in reverse. -/
def resolveSegments : List Text → List Text → List Text
  | kept, [] => kept.reverse
  | kept, s :: r =>
    if s = "." then resolveSegments kept r
    else if s = ".." then resolveSegments kept.tail r
    else resolveSegments (s :: kept) r

/-- A path with its dot segments resolved; a slash at its start and one implied by dots at its
end are kept. -/
def resolveDots (path : Text) : Text :=
  let kept := resolveSegments [] (Text.splitOn '/' path)
  let front : List Text :=
    if Text.startsWith path "/" then
      match kept with
      | [] => [[]]
      | s :: _ => if s.isEmpty then [] else [[]]
    else []
  let back : List Text :=
    if Text.endsWith path "/." || Text.endsWith path "/.." then [[]] else []
  Text.joinWith "/" (front ++ kept ++ back)

/-! ## §3. Hosts -/

/-- Four runs of up to three digits. -/
def isIpv4 (t : Text) : Bool :=
  let parts := Text.splitOn '.' t
  parts.length = 4 && parts.all fun p => 1 ≤ p.length && p.length ≤ 3 && p.all CodePoint.isDigit

/-- Up to four hexadecimal digits. -/
def isGroup (t : Text) : Bool :=
  1 ≤ t.length && t.length ≤ 4 && t.all fun c => c.hexDigit?.isSome

/-- How many groups of sixteen bits a list of parts stands for; the last part may be written like
an address of four octets. -/
def groupCount? : List Text → Option Nat
  | [] => some 0
  | [p] => if isGroup p then some 1 else if isIpv4 p then some 2 else none
  | p :: q :: r => if isGroup p then (groupCount? (q :: r)).map (· + 1) else none

/-- The parts between colons. -/
def colonParts (t : Text) : List Text := if t.isEmpty then [] else Text.splitOn ':' t

/-- The parts before and after the first pair of colons. -/
def cutAtPair? : Text → Option (Text × Text)
  | [] => none
  | c :: r =>
    if Text.startsWith (c :: r) "::" then some ([], r.drop 1)
    else (cutAtPair? r).map fun (a, b) => (c :: a, b)

/-- An address of eight groups, in which one pair of colons may stand for some of them. -/
def isIpv6 (t : Text) : Bool :=
  match cutAtPair? t with
  | none => groupCount? (colonParts t) = some 8
  | some (a, b) =>
    (colonParts a).all isGroup &&
      match groupCount? (colonParts b) with
      | none => false
      | some n => (colonParts a).length + n ≤ 7

/-- The name of a zone after an address. -/
def isZone (t : Text) : Bool :=
  !t.isEmpty && Percent.isEscaped t
    && t.all fun c => Percent.isUnreserved c || c = CodePoint.ofChar '%'

/-- A host in brackets. -/
def isBracketed (t : Text) : Bool :=
  match Text.cutAt? '%' t with
  | none => isIpv6 t
  | some (a, zone) => isIpv6 a && isZone zone

/-- A host by name, as far as the marks of an address tell. -/
def isHostName (t : Text) : Bool :=
  Percent.isEscaped t && t.all fun c => !List.contains (Text.ofString "[]:/?#") c

/-- A bracketed host whose zone, if it has one, follows a single sign. -/
def plainZone (host : Text) : Text :=
  match Text.cutAt? '%' host with
  | none => host
  | some (front, zone) =>
    match Text.dropLiteral? "25" zone with
    | none => host
    | some rest => if rest = "]" then host else front ++ "%" ++ rest

/-- What stands before the path. -/
structure Authority where
  /-- Who asks. -/
  user : Option Text
  /-- The host. -/
  host : Text
  /-- The port. -/
  port : Option Nat
  deriving DecidableEq, Repr

/-- A port behind a colon, or nothing at all; a line feed may follow. Zeros in front count for
nothing, and the colon may stand alone. -/
def port? (t : Text) : Option (Option Nat) :=
  match (if Text.endsWith t "\n" then t.dropLast else t) with
  | [] => some none
  | c :: typed =>
    let digits := typed.dropWhile (· = CodePoint.ofChar '0')
    if c ≠ CodePoint.ofChar ':' ∨ 5 < digits.length then none
    else if typed.isEmpty then some none
    else if digits.isEmpty then some (some 0)
    else (Text.toNat? digits).map some

/-- Host and port. -/
def hostPort? (t : Text) : Option (Text × Option Nat) :=
  match Text.dropLiteral? "[" t with
  | some r =>
    match Text.cutAt? ']' r with
    | none => none
    | some (inner, rest) =>
      if isBracketed inner then (port? rest).map fun p => ("[" ++ inner ++ "]", p) else none
  | none =>
    let host := t.takeWhile (· ≠ CodePoint.ofChar ':')
    if isHostName host then (port? (t.drop host.length)).map fun p => (host, p) else none

/-- An authority as it stands in an address. -/
def Authority.text (a : Authority) : Text :=
  let user : Text := match a.user with
    | none => []
    | some u => u ++ "@"
  let port : Text := match a.port with
    | none => []
    | some n => if n = 0 then [] else ":" ++ Text.ofNat n
  user ++ a.host ++ port

/-- An authority in normal form. -/
def Authority.escaped (a : Authority) : Authority :=
  { a with
    user := a.user.map (escapePart isUserSign)
    host := if Text.startsWith a.host "[" then plainZone a.host else Text.lowerAscii a.host }

/-! ## §4. Addresses -/

/-- Where a request goes. -/
structure Address where
  /-- Host and port. -/
  host : Text
  /-- Path and query. -/
  target : Text
  deriving DecidableEq, Repr

/-- Why nothing can be sent to an address. -/
inductive AddressFault where
  /-- What should be host and port is neither. -/
  | noAuthority (typed : Text)
  /-- The port is too great. -/
  | farPort (address : Text)
  /-- A blank or a control sign in a host. -/
  | signInHost (host : Text) (sign : CodePoint)
  /-- An escaped control sign in a host. -/
  | escapeInHost (host : Text) (escape : Text)
  /-- A part of a host that is no label. -/
  | noLabel (part : Text)
  /-- It has no scheme. -/
  | noScheme (address : Text)
  /-- It has no host. -/
  | noHost (address : Text)
  /-- Its host starts with a sign that no host starts with, or cannot be written in ASCII. -/
  | badLabel
  /-- Its scheme is not one of the web. -/
  | foreignScheme (address : Text)
  deriving DecidableEq, Repr

/-- The wording of a fault. -/
def AddressFault.message : AddressFault → Text
  | .noAuthority t => unreadable (Text.quoted t ++ " is not a valid host or port")
  | .farPort t => unreadable t
  | .signInHost h c =>
    unreadable ("Host " ++ Text.quoted h ++ " contains invalid character " ++ Text.quoted [c])
  | .escapeInHost h e =>
    unreadable ("Host " ++ Text.quoted h
      ++ " contains invalid percent-encoded control character " ++ Text.quoted e)
  | .noLabel t => unreadable ("Name " ++ labelQuoted t ++ " is not a valid IDNA label")
  | .noScheme t =>
    "Invalid URL " ++ Text.quoted t ++ ": No scheme supplied. Perhaps you meant https://" ++ t
      ++ "?"
  | .noHost t => "Invalid URL " ++ Text.quoted t ++ ": No host supplied"
  | .badLabel => "URL has an invalid label."
  | .foreignScheme t => "No connection adapters were found for " ++ Text.quoted t
where
  unreadable (t : Text) : Text := "Failed to parse: " ++ t
  labelQuoted (t : Text) : Text := "'" ++ t ++ "'"

/-- The scheme and what follows its colon. -/
def scheme? (t : Text) : Option (Text × Text) :=
  match Text.cutAt? ':' t with
  | none => none
  | some (s, rest) =>
    match s with
    | [] => none
    | c :: r =>
      if c.isLetter && r.all (fun c => c.isLetter || c.isDigit || c = CodePoint.ofChar '+'
        || c = CodePoint.ofChar '-') then some (Text.lowerAscii s, rest) else none

/-- The parts of an address, taken apart at its marks. -/
structure Parts where
  /-- The scheme. -/
  scheme : Option Text
  /-- What follows two slashes. -/
  authority : Option Text
  /-- The path. -/
  path : Text
  /-- What follows the question mark. -/
  query : Text
  /-- What follows the number sign. -/
  fragment : Text

/-- Whether a sign ends an authority. -/
def endsAuthority (c : CodePoint) : Bool := List.contains (Text.ofString "\\/?#") c

/-- Takes an address apart; one that starts with neither a scheme nor a slash starts with its
authority. -/
def Parts.ofText (t : Text) : Parts :=
  let (scheme, rest) : Option Text × Text :=
    match scheme? t with
    | some (s, r) => (some s, r)
    | none => (none, if Text.startsWith t "/" then t else "//" ++ t)
  let (authority, rest) : Option Text × Text :=
    match Text.dropLiteral? "//" rest with
    | some r =>
      (some (r.takeWhile fun c => !endsAuthority c), r.dropWhile fun c => !endsAuthority c)
    | none => (none, rest)
  let path := rest.takeWhile fun c => c ≠ CodePoint.ofChar '?' && c ≠ CodePoint.ofChar '#'
  let rest := rest.drop path.length
  let (query, fragment) : Text × Text :=
    match rest with
    | [] => ([], [])
    | c :: r =>
      if c = '?' then
        let q := r.takeWhile (· ≠ CodePoint.ofChar '#')
        (q, (r.drop q.length).drop 1)
      else ([], r)
  ⟨scheme, authority, path, query, fragment⟩

/-- A path that starts with a slash. -/
def rooted (path : Text) : Text := if Text.startsWith path "/" then path else "/" ++ path

/-- The whole of an address. -/
def Parts.text (p : Parts) (scheme : Text) (a : Authority) : Text :=
  scheme ++ "://" ++ a.text ++ rooted p.path
    ++ (if p.query.isEmpty then [] else (Text.ofString "?") ++ p.query)
    ++ (if p.fragment.isEmpty then [] else (Text.ofString "#") ++ p.fragment)

/-- The parts with dots resolved and everything escaped that has to be. -/
def Parts.escaped (p : Parts) : Parts :=
  { p with
    path := escapePart isPathSign (resolveDots p.path)
    query := escapePart isQuerySign p.query
    fragment := escapePart isQuerySign p.fragment }

/-- Path and query. -/
def Parts.target (p : Parts) : Text :=
  if p.query.isEmpty then rooted p.path else rooted p.path ++ "?" ++ p.query

/-- Whether a scheme is one of the web. -/
def isWebScheme (s : Text) : Bool := s = "http" || s = "https"

/-- A blank or a control sign of ASCII. -/
def isControl (n : Nat) : Bool := n ≤ 0x20 || n = 0x7F

/-- The first escape of a control sign other than a blank. -/
def controlEscape? : Text → Option Text
  | [] => none
  | c :: r =>
    let isHit : Bool := match Percent.octet? r with
      | some b => c = CodePoint.ofChar '%' && b != 0x20 && isControl b.toNat
      | none => false
    if isHit then some (c :: r.take 2) else controlEscape? r

/-- Checks a host of the web. -/
def checkHost (host : Text) : Except AddressFault Unit :=
  match host.find? fun c => isControl c.val with
  | some c => .error (.signInHost host c)
  | none =>
    match controlEscape? host with
    | some e => .error (.escapeInHost host e)
    | none =>
      match (Text.splitOn '.' host).find? fun l => !Label.isValid l with
      | some l => .error (.noLabel l)
      | none => .ok ()

/-- The authority of a typed text. -/
def Authority.ofText (address : Text) (isWeb : Bool) (t : Text) :
    Except AddressFault Authority := do
  let afterAt := Text.afterLast '@' t
  let user := (t.take (t.length - afterAt.length)).dropLast
  match hostPort? afterAt with
  | none => throw (.noAuthority afterAt)
  | some (host, port) =>
    if port.any (65535 < ·) then throw (.farPort address)
    if isWeb then checkHost host
    return ⟨if user.isEmpty then none else some user, host, port⟩

/-- The address of its parts; the text is what was typed. -/
def Address.ofParts (t : Text) (p : Parts) : Except AddressFault Address := do
  let authority ← match p.authority.filter fun a => !a.isEmpty with
    | none => pure none
    | some a => (Authority.ofText t (p.scheme.all isWebScheme) a).map some
  match p.scheme, authority with
  | none, _ => throw (.noScheme t)
  | some _, none => throw (.noHost t)
  | some s, some a =>
    if a.host.isEmpty then throw (.noHost t)
    if Text.startsWith a.host "*" || Text.startsWith a.host "." then throw .badLabel
    if !isWebScheme s then
      match (if a.host.isAscii then some a.host else Label.asciiHost? a.host) with
      | none => throw .badLabel
      | some host => throw (.foreignScheme (requote (p.text s { a with host })))
    let a := a.escaped
    return ⟨a.host, (Parts.ofText (requote (p.escaped.text s a))).target⟩

/-- The address that a typed text stands for. Only what starts like an address of the web is
taken apart; anything else with a colon in it has a scheme that nobody serves. -/
def Address.ofText (t : Text) : Except AddressFault Address :=
  let t := t.dropWhile Text.isBlank
  if t.contains (CodePoint.ofChar ':') && !Text.startsWith (Text.lowerAscii t) "http" then
    .error (.foreignScheme t)
  else Address.ofParts t (Parts.ofText t)

/-- A path without the mark of a parameter that is left empty. -/
def dropEmptyParameter (path : Text) : Text :=
  let segment := Text.afterLast '/' path
  if (segment.dropWhile (· ≠ CodePoint.ofChar ';')).length = 1 then path.dropLast else path

/-- The target that an answer sends the client to. -/
def redirectTarget (location : Text) : Text :=
  let p := Parts.ofText (requote location)
  { p with path := dropEmptyParameter p.path }.target

end SealedDrop.Http
