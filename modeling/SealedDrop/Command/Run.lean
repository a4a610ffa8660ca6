/-
  SealedDrop.Command.Run
  ──────────────────────
  **CARRYING OUT A COMMAND LINE.**

  A command works at a desk: a server within reach, a directory with key
  files, a stream of random octets, and a person who answers prompts.  It
  leaves the desk changed and ends with an exit status, or it breaks off with
  a fault that nobody words for the user.  What was done before a fault stays
  done: a key that was written stays written, and a request that was answered
  stays answered.

  A path that leads to a file is read, whatever the file holds.  A path that
  leads to a free name has the key of that name generated, and the file takes
  three steps: it is created, its octets are written, and its mode is set.

  A command may also be STOPPED from outside, at any step: the user interrupts
  it, or the disk is full.  A CUT tells how many steps are taken until then, and
  how many octets of a file if one is being written.

      pass    — the next step, unless it is where the command is stopped
      saveKey — the three steps of a key file
      loadKey — the key in a file, or a new one
-/
import SealedDrop.Client.Operation
import SealedDrop.Directory
import SealedDrop.Command.Invocation
import SealedDrop.Link
import SealedDrop.Server.Endpoint
import SealedDrop.Store.Address
import SealedDrop.Store.Tamper

namespace SealedDrop.Command

open Client (Exchange)

/-! ## §1. The desk -/

/-- Where a command is stopped from outside: it is killed there, or the system lets it down. -/
structure Cut where
  /-- The steps that are taken until then. -/
  steps : Nat
  /-- The octets that are written by then, if it happens while a file is written. -/
  octets : Nat
  deriving DecidableEq, Repr

/-- What a command works with, and what it has said and asked so far. -/
structure Desk (σ : Type) where
  /-- The server. -/
  server : σ
  /-- The directory, in its tree. -/
  disk : Directory
  /-- The random octets. -/
  entropy : Entropy
  /-- The answers to the next prompts. -/
  answers : List Text
  /-- The prompts so far. -/
  asked : List Text
  /-- What was printed so far. -/
  printed : Text
  /-- The exchanges so far. -/
  exchanges : List Exchange
  /-- Where the command is stopped, if it is. -/
  cut : Option Cut

/-- Why a command breaks off. -/
inductive Crash where
  /-- It is stopped from outside, at its `Cut`. -/
  | stopped
  /-- The client failed in a way it does not foresee. -/
  | client (fault : Client.Fault)
  /-- The key file cannot be read or written. -/
  | file (fault : FileFault)
  /-- The key file holds no key. -/
  | badKey
  /-- Nobody answers a prompt. -/
  | unanswered
  /-- The clock tells nothing. -/
  | clock (fault : Stamp.ClockFault)
  /-- A deadline lies outside the calendar. -/
  | outOfCalendar
  /-- A duration has more days than a duration can have. -/
  | tooManyDays (days : Int)
  /-- A duration has more days than can be counted. -/
  | uncountableDays
  /-- There are no tables at an address. -/
  | noTables (fault : Store.AddressFault)
  /-- The tables at an address are not those of the service. -/
  | foreignTables
  /-- The store failed. -/
  | store (error : Store.Error)
  /-- The envelope cannot be tampered with. -/
  | tamper (fault : Store.TamperFault)

/-- The wording of a crash. -/
def Crash.message : Crash → Text
  | .stopped => []
  | .client e => e.message
  | .file e => e.message
  | .badKey => "An Ed25519 private key is 32 bytes long"
  | .unanswered => "no more prompts"
  | .clock e => e.message
  | .outOfCalendar => Stamp.OutOfCalendar.message
  | .tooManyDays n => "days=" ++ Text.ofInt n ++ "; must have magnitude <= 999999999"
  | .uncountableDays => "Python int too large to convert to C int"
  | .noTables e => e.message
  | .foreignTables => "no such table: sharedsecret"
  | .store e => e.message
  | .tamper e => e.message

/-- How a command ends before its last step. -/
inductive Ending where
  /-- With an exit status. -/
  | exit (status : Nat)
  /-- With a fault. -/
  | crash (why : Crash)

/-- A step of a command. -/
abbrev Step (σ α : Type) := ExceptT Ending (StateM (Desk σ)) α

variable {σ : Type}

/-- Breaks off. -/
def breakOff {α : Type} (c : Crash) : Step σ α := throw (.crash c)

/-- The next step is taken, unless it is where the command is stopped. -/
def pass : Step σ Unit := do
  match (← get).cut with
  | none => return ()
  | some ⟨0, _⟩ => breakOff .stopped
  | some ⟨n + 1, octets⟩ => modify fun d => { d with cut := some ⟨n, octets⟩ }

/-- Prints a text. -/
def say (t : Text) : Step σ Unit := do
  pass
  modify fun d => { d with printed := d.printed ++ t }

/-- Asks the person at the desk. -/
def ask (label : Text) : Step σ Text := do
  pass
  modify fun d => { d with asked := d.asked ++ [label] }
  match (← get).answers with
  | [] => breakOff .unanswered
  | a :: r =>
    modify fun d => { d with answers := r }
    return a

/-- Does something with the client; a fault that the client foresees is told to the user. The command
may be stopped before anything is sent, and when the server has answered. -/
def attempt {α : Type} (f : σ → Entropy → Client.Outcome σ α × Entropy) : Step σ α := do
  pass
  let d ← get
  let (o, entropy) := f d.server d.entropy
  set { d with server := o.state, entropy, exchanges := d.exchanges ++ o.exchanges }
  pass
  match o.result with
  | .ok a => return a
  | .error e =>
    if e.isForeseen then
      say ("[!] " ++ e.message ++ "\n")
      throw (.exit 1)
    else breakOff (.client e)

/-- Does something with the client that needs no random octets. -/
def attemptPlainly {α : Type} (f : σ → Client.Outcome σ α) : Step σ α :=
  attempt fun s e => (f s, e)

/-! ## §2. Keys -/

/-- The length of a private key. -/
def keySize : Nat := 32

/-- Draws a new key. -/
def drawKey : Step σ Bytes := do
  let d ← get
  let (key, entropy) := d.entropy.draw keySize
  set { d with entropy }
  return key

/-- Creates a file without octets. -/
def createFile (l : Location) : Step σ Unit := do
  pass
  modify fun d => { d with disk := d.disk.create ⟨l, [], Mode.readable⟩ }

/-- Writes the octets of a file. A command that is stopped here leaves the first of them. -/
def fillFile (l : Location) (octets : Bytes) : Step σ Unit := do
  match (← get).cut with
  | some ⟨0, n⟩ =>
    modify fun d => { d with disk := d.disk.change l fun f => { f with content := octets.take n } }
    breakOff .stopped
  | _ =>
    pass
    modify fun d => { d with disk := d.disk.change l fun f => { f with content := octets } }

/-- Sets the mode of a file. -/
def setMode (l : Location) (m : Mode) : Step σ Unit := do
  pass
  modify fun d => { d with disk := d.disk.change l fun f => { f with mode := m } }

/-- Saves a key, for the owner alone. -/
def saveKey (l : Location) (key : Bytes) : Step σ Unit := do
  createFile l
  fillFile l key
  setMode l Mode.ownerOnly

/-- The key in the file that a path leads to; a free name gets a new key. -/
def loadKey (p : Path) : Step σ Bytes := do
  match p.flaw? with
  | some e =>
    let _ ← drawKey
    breakOff (.file e)
  | none =>
    match (← get).disk.locate p with
    | .directory => breakOff (.file (.isDirectory p.text))
    | .file f => if f.content.length = keySize then return f.content else breakOff .badKey
    | .overlong => breakOff (.file (.overlong p.text))
    | .belowFile =>
      let _ ← drawKey
      breakOff (.file (.notDirectory p.text))
    | .nowhere =>
      let _ ← drawKey
      breakOff (.file (.missing p.text))
    | .free l =>
      let key ← drawKey
      saveKey l key
      say ("[+] Generated new signing key: " ++ p.text ++ "\n")
      return key

/-! ## §3. Owners and recipients -/

/-- What commands are carried out with. -/
structure Setting (σ : Type) where
  /-- The server at an address. -/
  serve : Client.Server σ
  /-- The rounds of password stretching. -/
  iterations : Int
  /-- What the clock shows. -/
  now : Stamp
  /-- The public address in links. -/
  publicUrl : Text
  /-- The address of the usual server. -/
  usualServer : Text

/-- The most days of a duration. -/
def maxDays : Int := 999999999

/-- The time that a clock tells. -/
def readClock (s : Stamp) : Step σ Moment := do
  match s.clock with
  | .ok m => return m
  | .error e => breakOff (.clock e)

/-- The moment so many seconds after another. -/
def deadline (now : Moment) (seconds : Int) : Except Crash Moment :=
  let days := seconds.fdiv 86400
  if days < -2147483648 ∨ 2147483647 < days then .error .uncountableDays
  else if days < -maxDays ∨ maxDays < days then .error (.tooManyDays days)
  else
    match Moment.ofMicros? (now.micros + seconds * microsPerSecond) with
    | some m => .ok m
    | none => .error .outOfCalendar

/-- Whether a member of a listed secret is true. -/
def isSet (name : Text) (j : Json) : Bool :=
  match Client.memberOf name j with
  | .bool b => b
  | _ => false

/-- The line of a listed secret. -/
def listLine (j : Json) : Text :=
  Client.textOf "id" j ++ "  " ++ (if isSet "expired" j then "expired" else "live")
    ++ (if isSet "single_use" j then Text.ofString " single-use" else []) ++ "  expires "
    ++ Client.textOf "expires_at" j ++ "\n"

/-- The lines of a list of secrets. -/
def listLines : Json → Text
  | .list items => items.flatMap listLine
  | _ => []

/-- An errand of an owner. -/
def runErrand (e : Setting σ) (c : Client) (username : Text) : Errand → Step σ Unit
  | .register => do
    let number ← attemptPlainly (c.register e.serve)
    say ("[✔] Registered '" ++ username ++ "' (id " ++ number.shown ++ ")\n")
  | .share seconds singleUse => do
    let plaintext ← ask "Secret: "
    let password ← ask "Password: "
    let now ← readClock e.now
    match deadline now seconds with
    | .error f => breakOff f
    | .ok expiresAt =>
      let id ← attempt fun s entropy =>
        c.share e.iterations e.serve s ⟨plaintext, password, Stamp.utc expiresAt, singleUse⟩ entropy
      say (Link.ofId e.publicUrl id ++ "\n")
  | .list => do
    let secrets ← attemptPlainly (c.list e.serve)
    say (listLines secrets)
  | .expire linkOrId => do
    attemptPlainly fun s => c.expire e.serve s (Link.toId linkOrId)
    say "[✔] Expired\n"

/-- A task of a user. -/
def runTask (e : Setting σ) (server : Text) : Task → Step σ Unit
  | .reveal linkOrId => do
    let password ← ask "Password: "
    let t ← attemptPlainly fun s =>
      Client.reveal ⟨server, none, none⟩ e.iterations e.serve s (Link.toId linkOrId) password
    say (t ++ "\n")
  | .own username keyFile errand => do
    let key ← loadKey (Path.ofText keyFile)
    runErrand e ⟨server, some username, some key⟩ username errand

/-- What a line asks for, or the end of a line that asks for nothing. -/
def understand {α : Type} (line : Except Stop α) : Step σ α := do
  match line with
  | .ok a => return a
  | .error (.help screen) =>
    say screen
    throw (.exit 0)
  | .error .misuse => throw (.exit 2)

/-- The command line for owners and recipients. -/
def shareCommand (e : Setting σ) (args : List Text) : Step σ Unit := do
  let i ← understand (Invocation.ofArguments e.usualServer args)
  runTask e i.server i.task

/-! ## §4. Keepers of the tables -/

/-- Breaks off when there can be no tables at an address. -/
def findTables (address : Option Text) : Step σ Unit := do
  match address with
  | none => return ()
  | some a =>
    match Store.checkAddress a with
    | .error f => breakOff (.noTables f)
    | .ok _ => return ()

/-- Breaks off when other tables are meant: none but those of the service hold secrets. -/
def ownTables (address : Option Text) : Step σ Unit := do
  if address.isSome then breakOff .foreignTables

/-- The command line that purges expired secrets. The tables are part of the server. -/
def purgeCommand (table : σ → Store.Table) (setTable : Store.Table → σ → σ) (clock : Stamp)
    (args : List Text) : Step σ Unit := do
  let address ← understand (purgeOf args)
  findTables address
  let now ← readClock clock
  ownTables address
  pass
  let d ← get
  let o := Store.purge (table d.server) (Stamp.utc now)
  set { d with server := setTable o.table d.server }
  match o.result with
  | .error f => breakOff (.store f)
  | .ok n => say ("[✔] Purged " ++ Text.ofNat n ++ " expired shared secret(s)\n")

/-- The command line that tampers with an envelope. -/
def tamperCommand (table : σ → Store.Table) (setTable : Store.Table → σ → σ)
    (args : List Text) : Step σ Unit := do
  let (id, address) ← understand (tamperOf args)
  findTables address
  ownTables address
  pass
  let d ← get
  match Store.tamper (table d.server) id with
  | .error f => breakOff (.tamper f)
  | .ok (t, new) =>
    set { d with server := setTable new d.server }
    say t

/-- How a command ends. -/
def Step.ending (r : Except Ending Unit) : Ending :=
  match r with
  | .ok () => .exit 0
  | .error e => e

/-- Carries out a command at a desk. -/
def Step.perform (s : Step σ Unit) (d : Desk σ) : Ending × Desk σ :=
  let (r, d) := s.run.run d
  (Step.ending r, d)

end SealedDrop.Command
