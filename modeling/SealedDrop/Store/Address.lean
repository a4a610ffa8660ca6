/-
  SealedDrop.Store.Address
  ────────────────────────
  **WHERE THE TABLES ARE KEPT.**

  An address names a driver and a place, and may say more:

      driver "://" user ":" password "@" host ":" port "/" place "?" options

  The tables of this service live in memory; such an address has no place, or
  the place `:memory:`, and nothing that belongs to a host.  Opening tables
  checks an address from its start to its end: that it can be read, that its
  driver is at hand, that it names no host, that its options make sense.

  An address is shown without its password.
-/
import SealedDrop.Journal.Entry
import SealedDrop.Store.Driver
import SealedDrop.Text.Mark
import SealedDrop.Text.Numeral
import SealedDrop.Text.Percent
import SealedDrop.Text.Word

namespace SealedDrop.Store

/-! ## §1. Addresses -/

/-- An address taken apart. -/
structure Address where
  /-- The name of the driver. -/
  driver : Text
  /-- Who asks. -/
  user : Option Text
  /-- The password. -/
  password : Option Text
  /-- The host. -/
  host : Option Text
  /-- The port. -/
  port : Option Int
  /-- The place, if one is named. -/
  place : Option Text
  /-- The options, as they were given. -/
  options : List (Text × Text)
  deriving DecidableEq, Repr

/-- Why there are no tables at an address. -/
inductive AddressFault where
  /-- The text is no address. -/
  | unreadable
  /-- A port or an option is no whole number. -/
  | numeral (fault : Text.NumeralFault)
  /-- There is no port after its colon. -/
  | noPort
  /-- There is no such extension. -/
  | noExtension (name : Text)
  /-- The name of the driver has several plus signs. -/
  | severalConnectors
  /-- There is no such driver. -/
  | noDriver (name : Text)
  /-- The driver needs a component that is not there. -/
  | noComponent (name : Text)
  /-- An address in memory that names a host. -/
  | hostInMemory (address : Text)
  /-- The address cannot be shown. -/
  | unencodable (fault : Unencodable)
  /-- An option is no truth value. -/
  | notTruth (typed : Text)
  /-- An option is no number. -/
  | notNumber (typed : Text)
  /-- An option is a whole number out of range. -/
  | farNumber
  /-- An option that is a number is given several times. -/
  | severalNumbers (isWhole : Bool)
  /-- There is no place, and it is to be an address of its own, with options or without. -/
  | noPlace (hasOptions : Bool)
  deriving DecidableEq, Repr

/-- The wording of a fault. -/
def AddressFault.message : AddressFault → Text
  | .unreadable => "Could not parse SQLAlchemy URL from given URL string"
  | .numeral e => e.message
  | .noPort => "Port argument must be an integer or None"
  | .noExtension name => "Can't load plugin: sqlalchemy.plugins:" ++ name
  | .severalConnectors => "too many values to unpack (expected 2)"
  | .noDriver name => "Can't load plugin: sqlalchemy.dialects:" ++ name
  | .noComponent name => "No module named " ++ Text.quoted name
  | .hostInMemory a =>
    "Invalid SQLite URL: " ++ a
      ++ "\nValid SQLite URL forms are:\n sqlite:///:memory: (or, sqlite://)"
      ++ "\n sqlite:///relative/path/to/file.db\n sqlite:////absolute/path/to/file.db"
  | .unencodable e => e.message
  | .notTruth t => "String is not true/false: " ++ Text.quoted t
  | .notNumber t => "could not convert string to float: " ++ Text.quoted t
  | .farNumber => "Python int too large to convert to C int"
  | .severalNumbers true =>
    "int() argument must be a string, a bytes-like object or a real number, not 'tuple'"
  | .severalNumbers false => "float() argument must be a string or a real number, not 'tuple'"
  | .noPlace true => "unsupported operand type(s) for +=: 'NoneType' and 'str'"
  | .noPlace false => "expected str, bytes or os.PathLike object, not NoneType"

namespace Address

/-! ## §2. Reading -/

/-- A sign that may stand in the name of a driver. -/
def isNameSign (c : CodePoint) : Bool :=
  c.isDigit || c.isLetter || c = CodePoint.ofChar '_' || c = CodePoint.ofChar '+'
    || (Text.isWordPoint c && !Text.isMark c)

/-- The part before a host: user, password and what follows.  A password goes up to the first sign
that ends it, a user alone up to the last one before a colon or slash. -/
def userPart (t : Text) : Option Text × Option Text × Text :=
  let run := t.takeWhile fun c => c ≠ CodePoint.ofChar ':' && c ≠ CodePoint.ofChar '/'
  let alone : Option Text × Option Text × Text :=
    let after := Text.afterLast '@' run
    if after = run then (none, none, t)
    else (some (run.take (run.length - after.length - 1)), none, after ++ t.drop run.length)
  match t.drop run.length with
  | c :: r =>
    if c = ':' then
      match Text.cutAt? '@' r with
      | some (password, rest) => (some run, some password, rest)
      | none => alone
    else alone
  | [] => alone

/-- A host in brackets, with what follows: everything up to the last bracket before a slash. -/
def bracketedHost? (t : Text) : Option (Text × Text) := do
  let r ← Text.dropLiteral? "[" t
  let run := r.takeWhile fun c => c ≠ CodePoint.ofChar '/' && c ≠ CodePoint.ofChar '?'
  let after := Text.afterLast ']' run
  let host := run.take (run.length - after.length - 1)
  if after = run ∨ host.isEmpty then none else some (host, after ++ r.drop run.length)

/-- The host, with what follows. -/
def hostPart (t : Text) : Option Text × Text :=
  match bracketedHost? t with
  | some (host, rest) => (some host, rest)
  | none =>
    let host := t.takeWhile fun c =>
      c ≠ CodePoint.ofChar '/' && c ≠ CodePoint.ofChar ':' && c ≠ CodePoint.ofChar '?'
    (if host.isEmpty then none else some host, t.drop host.length)

/-- The part behind a sign, up to one of some others, with what follows; it may be left out. -/
def partAfter (sign : CodePoint) (ends : Text) (t : Text) : Option Text × Text :=
  match t with
  | c :: r =>
    if c = sign then
      let part := r.takeWhile fun c => !List.contains ends c
      (some part, r.drop part.length)
    else (none, t)
  | [] => (none, [])

/-- A text between the marks of options: plus signs stand for spaces. -/
def decodeOption (t : Text) : Text := Percent.decode (Text.replacePoint '+' ' ' t)

/-- The options of a query; what has no value is left out. -/
def optionsOf (query : Text) : List (Text × Text) :=
  (Text.splitOn '&' query).filterMap fun o =>
    match Text.cutAt? '=' o with
    | some (k, v) => if v.isEmpty then none else some (decodeOption k, decodeOption v)
    | none => none

/-- A port as it was typed. -/
def readPort : Option Text → Except AddressFault (Option Int)
  | none => .ok none
  | some t =>
    if t.isEmpty then .error .noPort
    else ((Text.readInt t).mapError .numeral).map some

/-- The address that a text stands for; what follows the parts of an address counts for nothing. -/
def ofText (t : Text) : Except AddressFault Address :=
  let driver := t.takeWhile isNameSign
  match driver.isEmpty, Text.dropLiteral? "://" (t.drop driver.length) with
  | false, some rest =>
    let (user, password, rest) := userPart rest
    let (host, rest) := hostPart rest
    let (port, rest) := partAfter ':' "/?" rest
    let (place, rest) := partAfter '/' "?" rest
    let (query, _) := partAfter '?' "\n" rest
    (readPort port).map fun port =>
      ⟨driver, user.map Percent.decode, password.map Percent.decode, host, port,
        place.map Percent.decode, optionsOf (query.getD [])⟩
  | _, _ => .error .unreadable

/-! ## §3. Showing -/

/-- A part of an address as it is shown: everything escaped but the signs that need no escape and a
few others. -/
def escape (others : Text) (t : Text) : Except Unencodable Text :=
  (Utf8.encode t).map fun _ =>
    Percent.encode (fun c => Percent.isUnreserved c || List.contains others c) t

/-- A text between the marks of options as it is shown. -/
def escapeOption (t : Text) : Except Unencodable Text :=
  (escape " " t).map (Text.replacePoint ' ' '+')

/-- The options as they are shown: in the order of their names. -/
def optionsText (options : List (Text × Text)) : Except Unencodable Text := do
  let shown ← (options.mergeSort fun a b => Text.le a.1 b.1).mapM fun (k, v) => do
    return (← escapeOption k) ++ "=" ++ (← escapeOption v)
  return if shown.isEmpty then [] else CodePoint.ofChar '?' :: Text.joinWith "&" shown

/-- A part that may be missing as it is shown, between two signs. -/
def shown (front back : Text) (show? : Text → Except Unencodable Text) :
    Option Text → Except Unencodable Text
  | none => .ok []
  | some t => (show? t).map fun s => front ++ s ++ back

/-- An address as it is shown; the password is hidden. -/
def text (a : Address) : Except Unencodable Text := do
  let mark : Text := if a.password.isSome then Text.ofString ":***@" else "@"
  let user ← shown "" mark (escape " +") a.user
  let place ← shown "/" "" (escape " +/") a.place
  let options ← optionsText a.options
  let host : Text := match a.host with
    | none => []
    | some h => if h.contains (CodePoint.ofChar ':') then "[" ++ h ++ "]" else h
  let port : Text := match a.port with
    | none => []
    | some n => ":" ++ Text.ofInt n
  return a.driver ++ "://" ++ user ++ host ++ port ++ place ++ options

/-! ## §4. Opening -/

/-- The values of an option. -/
def valuesOf (a : Address) (name : Text) : List Text :=
  (a.options.filter fun o => o.1 = name).map (·.2)

/-- The driver of an address. -/
def findDriver (a : Address) : Except AddressFault Driver :=
  let plus := CodePoint.ofChar '+'
  if 1 < (a.driver.filter (· = plus)).length then .error .severalConnectors
  else
    match Driver.ofName? a.driver with
    | some d => .ok d
    | none => .error (.noDriver (Text.replacePoint plus '.' a.driver))

/-- Whether an address names a host, or anything that belongs to one. -/
def namesHost (a : Address) : Bool :=
  let isNamed (t : Option Text) : Bool := t.any fun t => !t.isEmpty
  isNamed a.user || isNamed a.password || isNamed a.host || a.port.any (· ≠ 0)

/-- The words for true. -/
def trueWords : List Text := ["true", "yes", "on", "y", "t", "1"]

/-- The words for false. -/
def falseWords : List Text := ["false", "no", "off", "n", "f", "0"]

/-- A truth value among the options; one that is given several times is true. -/
def truthOption (a : Address) (name : Text) : Except AddressFault Bool :=
  match a.valuesOf name with
  | [] => .ok false
  | [v] =>
    let word := Text.lowerAscii (Text.trim Text.isBlank v)
    if trueWords.contains word then .ok true
    else if falseWords.contains word then .ok false
    else .error (.notTruth word)
  | _ => .ok true

/-- Checks a number among the options. -/
def numberOption (a : Address) (name : Text) : Except AddressFault Unit :=
  match a.valuesOf name with
  | [] => .ok ()
  | [v] => if Text.isNumber v then .ok () else .error (.notNumber v)
  | _ => .error (.severalNumbers false)

/-- A whole number among the options; zero stands for one that is not given. -/
def wholeOption (a : Address) (name : Text) : Except AddressFault Int :=
  match a.valuesOf name with
  | [] => .ok 0
  | [v] => (Text.readInt v).mapError .numeral
  | _ => .error (.severalNumbers true)

/-- Whether a whole number is one of 32 bits. -/
def isWord (n : Int) : Bool := -0x80000000 ≤ n && n < 0x80000000

/-- The options that say how to connect; all others belong to the place. -/
def connectOptions : List Text :=
  ["uri", "timeout", "isolation_level", "detect_types", "check_same_thread", "cached_statements"]

/-- Checks the options of an address in memory: first that they can be read, then that there is a
place to open, then that numbers are in range. -/
def checkOptions (a : Address) : Except AddressFault Unit := do
  let isAddress ← a.truthOption "uri"
  a.numberOption "timeout"
  let types ← a.wholeOption "detect_types"
  let _ ← a.truthOption "check_same_thread"
  let statements ← a.wholeOption "cached_statements"
  if isAddress && a.place.isNone then
    throw (.noPlace (a.options.any fun o => !connectOptions.contains o.1))
  if !isWord types || !isWord statements then throw .farNumber

/-- The place of tables in memory. -/
def memoryPlace : Text := ":memory:"

/-- Whether the tables are kept in memory. -/
def isInMemory (a : Address) : Bool :=
  a.place.all (fun p => p.isEmpty || p = memoryPlace)
    || a.valuesOf "mode" = [Text.ofString "memory"]

end Address

/-- How connections to the tables are shared. -/
inductive Sharing where
  /-- One connection for all. -/
  | single
  /-- One connection for each thread. -/
  | perThread
  /-- Some connections for whoever asks first. -/
  | queued
  deriving DecidableEq, Repr

/-- The addresses whose tables would be lost with any second connection. -/
def plainAddresses : List Text := ["sqlite://", "sqlite:///:memory:"]

/-- Checks that there can be tables at an address. -/
def checkAddress (address : Text) : Except AddressFault Address := do
  let a ← Address.ofText address
  match a.valuesOf "plugin" with
  | name :: _ => throw (.noExtension name)
  | [] => pure ()
  match ← a.findDriver with
  | .needs component => throw (.noComponent component)
  | .atHand => pure ()
  if a.namesHost then
    throw (.hostInMemory (← a.text.mapError .unencodable))
  a.checkOptions
  return a

/-- The tables at an address: how connections are shared, and what the journal says. -/
def openTables (address : Text) : Except AddressFault (Sharing × Journal.Entry) := do
  let a ← checkAddress address
  let sharing := if plainAddresses.contains address then Sharing.single
    else if a.isInMemory then .perThread else .queued
  return (sharing, .debug ("Database ready: " ++ (← a.text.mapError .unencodable)))

/-! ## §5. The tables -/

/-- A column: its name, what it holds, whether it may be empty, whether it is the key. -/
structure Column where
  /-- Its name. -/
  name : Text
  /-- What it holds. -/
  holds : Text
  /-- Whether it may be empty. -/
  optional : Bool
  /-- Whether it is the key. -/
  key : Bool
  deriving DecidableEq, Repr

/-- The tables of the service with their columns. -/
def schema : List (Text × List Column) :=
  [("sharedsecret",
    [⟨"id", "VARCHAR", false, true⟩, ⟨"owner_id", "VARCHAR", false, false⟩,
     ⟨"data", "VARCHAR", true, false⟩, ⟨"created_at", "DATETIME", false, false⟩,
     ⟨"expires_at", "DATETIME", false, false⟩, ⟨"single_use", "BOOLEAN", false, false⟩]),
   ("user",
    [⟨"id", "INTEGER", false, true⟩, ⟨"username", "VARCHAR", false, false⟩,
     ⟨"public_key", "BLOB", false, false⟩])]

end SealedDrop.Store
