/-
  SealedDrop.Command.Invocation
  ─────────────────────────────
  **WHAT THE COMMAND LINES ASK FOR.**

  There are three programs: one for owners and recipients of secrets, one that
  purges expired secrets, and one that tampers with an envelope as a drill.
  Secrets and passwords are never part of a command line.
-/
import SealedDrop.Command.Line

namespace SealedDrop.Command

/-! ## §1. The program for owners and recipients -/

/-- What an owner asks for. -/
inductive Errand where
  /-- Registering a name. -/
  | register
  /-- Sharing a secret for so many seconds. -/
  | share (seconds : Int) (singleUse : Bool)
  /-- Listing what is shared. -/
  | list
  /-- Expiring a secret. -/
  | expire (linkOrId : Text)
  deriving DecidableEq, Repr

/-- What a user asks for. -/
inductive Task where
  /-- An errand in the name of an owner, whose key is in a file. -/
  | own (username keyFile : Text) (errand : Errand)
  /-- Revealing a secret. -/
  | reveal (linkOrId : Text)
  deriving DecidableEq, Repr

/-- A task and the server it is meant for. -/
structure Invocation where
  /-- The address of the server. -/
  server : Text
  /-- The task. -/
  task : Task
  deriving DecidableEq, Repr

/-- How long a secret is shared unless the line says otherwise, in seconds. -/
def defaultSeconds : Int := 3600

/-- The help of a line, from its usage, its positional part and the options besides the one for
help. -/
def screenOf (usage : Text) (about words : List Text) (options : List Text) : Text :=
  let part (title : Text) (lines : List Text) : Text :=
    if lines.isEmpty then [] else "\n" ++ title ++ lines.flatMap (· ++ Text.ofString "\n")
  "usage: " ++ usage ++ "\n" ++ part [] about ++ part "positional arguments:\n" words
    ++ part "options:\n" options

/-- The option for the server. -/
def serverFlag : Flag := ⟨["--server"], .text, false⟩

/-- The option for the key file. -/
def keyFlag : Flag := ⟨["--key"], .text, true⟩

/-- The option for the duration. -/
def secondsFlag : Flag := ⟨["--expires-in"], .number, false⟩

/-- The option for secrets that one read uses up. -/
def singleUseFlag : Flag := ⟨["--single-use"], .nothing, false⟩

/-- The line before the name of a task: the task and all that belongs to it is its last word. -/
def taskShape : Shape where
  flags := [serverFlag]
  words := 1
  isOpen := true
  screen := screenOf
    ("share_secret.py [-h] [--server SERVER]\n"
      ++ "                       \x7bregister,share,list,expire,reveal\x7d ...")
    ["Share secrets end-to-end encrypted"] ["  \x7bregister,share,list,expire,reveal\x7d"]
    ["  -h, --help            show this help message and exit",
     "  --server SERVER       Server base URL"]

/-- The help of an owner's line without options of its own. -/
def ownerScreen (usage : Text) (words : List Text) : Text :=
  screenOf usage [] words
    ["  -h, --help  show this help message and exit", "  --key KEY   Ed25519 private key file"]

/-- The line of a registration. -/
def registerShape : Shape where
  flags := [keyFlag]
  words := 1
  isOpen := false
  screen := ownerScreen "share_secret.py register [-h] --key KEY username" ["  username"]

/-- The line for sharing a secret. -/
def shareShape : Shape where
  flags := [keyFlag, secondsFlag, singleUseFlag]
  words := 1
  isOpen := false
  screen := screenOf
    ("share_secret.py share [-h] --key KEY [--expires-in EXPIRES_IN]\n"
      ++ "                             [--single-use]\n"
      ++ "                             username")
    [] ["  username"]
    ["  -h, --help            show this help message and exit",
     "  --key KEY             Ed25519 private key file", "  --expires-in EXPIRES_IN",
     "                        Seconds", "  --single-use"]

/-- The line of a listing. -/
def listShape : Shape where
  flags := [keyFlag]
  words := 1
  isOpen := false
  screen := ownerScreen "share_secret.py list [-h] --key KEY username" ["  username"]

/-- The line for expiring a secret. -/
def expireShape : Shape where
  flags := [keyFlag]
  words := 2
  isOpen := false
  screen := ownerScreen "share_secret.py expire [-h] --key KEY username secret"
    ["  username", "  secret      Secret id or share URL"]

/-- The line for revealing a secret. -/
def revealShape : Shape where
  flags := []
  words := 1
  isOpen := false
  screen := screenOf "share_secret.py reveal [-h] secret" []
    ["  secret      Secret id or share URL"] ["  -h, --help  show this help message and exit"]

/-- The first word of a line. -/
def Reading.first (r : Reading) : Text := r.words.headD []

/-- The second word of a line. -/
def Reading.second (r : Reading) : Text := r.words.tail.headD []

/-- The task of an owner's line. -/
def ownTask (r : Reading) (errand : Errand) : Task :=
  .own r.first ((r.setting? keyFlag.name).getD []) errand

/-- The duration that a line asks for. -/
def secondsOf (r : Reading) : Int :=
  ((r.setting? secondsFlag.name).bind Text.toInt?).getD defaultSeconds

/-- The task that a name and its line stand for. -/
def taskOf (name : Text) (args : List Text) : Except Stop Task :=
  if name = "register" then (read registerShape args).map fun r => ownTask r .register
  else if name = "share" then
    (read shareShape args).map fun r => ownTask r (.share (secondsOf r) (r.has singleUseFlag.name))
  else if name = "list" then (read listShape args).map fun r => ownTask r .list
  else if name = "expire" then (read expireShape args).map fun r => ownTask r (.expire r.second)
  else if name = "reveal" then (read revealShape args).map fun r => .reveal r.first
  else .error .misuse

/-- What a line asks for; without a server it is meant for the usual one. What is wrong with the
task shows before anything left over in front of it. -/
def Invocation.ofArguments (usual : Text) (args : List Text) : Except Stop Invocation := do
  let r ← scan taskShape args
  match r.words with
  | [] => .error .misuse
  | name :: rest =>
    let task ← taskOf name rest
    if r.leftover then .error .misuse
    else return ⟨(r.setting? serverFlag.name).getD usual, task⟩

/-! ## §2. The programs for keepers of the tables -/

/-- The option for other tables. -/
def tablesFlag : Flag := ⟨["--db"], .text, false⟩

/-- The address of other tables, unless it is empty. -/
def tablesOf (r : Reading) : Option Text :=
  match r.setting? tablesFlag.name with
  | some (c :: t) => some (c :: t)
  | _ => none

/-- The line of a purge. -/
def purgeShape : Shape where
  flags := [tablesFlag]
  words := 0
  isOpen := false
  screen := screenOf "purge_expired_secrets.py [-h] [--db DB]" ["Delete expired shared secrets"] []
    ["  -h, --help  show this help message and exit", "  --db DB     Database URL override"]

/-- The line of a drill. -/
def tamperShape : Shape where
  flags := [tablesFlag]
  words := 1
  isOpen := false
  screen := screenOf "corrupt_shared_secret.py [-h] [--db DB] secret_id"
    ["Simulate tampering with a stored secret envelope"]
    ["  secret_id   Id of the secret to modify"]
    ["  -h, --help  show this help message and exit", "  --db DB     Database URL override"]

/-- Which tables a purge is for. -/
def purgeOf (args : List Text) : Except Stop (Option Text) := (read purgeShape args).map tablesOf

/-- Which secret a drill is for, and in which tables. -/
def tamperOf (args : List Text) : Except Stop (Text × Option Text) :=
  (read tamperShape args).map fun r => (r.first, tablesOf r)

end SealedDrop.Command
