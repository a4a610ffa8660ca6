/-
  SealedDrop.Command.Session
  ──────────────────────────
  **COMMAND LINES ONE AFTER THE OTHER.**

  A session is a service, a directory with key files and a stream of random
  octets, on which command lines work in turn.  Each line is an ORDER: a
  program, its arguments, the answers at hand for its prompts, the time at
  which it is given, and the step at which it is stopped from outside, if it
  is.  Reports tell what each of them printed and how it ended.

      Session.run     — one order
      Script.ofLines  — orders as lines of text: a command line, and below it
                        the answers, each after a sign of its own

  Readings of the monotonic clock are values of any type that the limiter can
  work with; the programs use doubles.
-/
import SealedDrop.Command.Run
import SealedDrop.Server.Service

namespace SealedDrop.Command

/-! ## §1. Orders -/

/-- The programs. -/
inductive Program where
  /-- The one for owners and recipients. -/
  | share
  /-- The one that purges expired secrets. -/
  | purge
  /-- The one that tampers with an envelope. -/
  | tamper
  deriving DecidableEq, Repr

namespace Program

/-- The name of a program. -/
def name : Program → Text
  | .share => "share_secret"
  | .purge => "purge_expired_secrets"
  | .tamper => "corrupt_shared_secret"

/-- The program of a name. -/
def ofName? (t : Text) : Option Program :=
  [share, purge, tamper].find? fun p => p.name = t

end Program

/-- A command line and the circumstances in which it is given. -/
structure Order (τ : Type := Float) where
  /-- The program. -/
  program : Program
  /-- Its arguments. -/
  args : List Text
  /-- The answers to its prompts. -/
  answers : List Text
  /-- The time. -/
  clock : Stamp
  /-- The reading of the monotonic clock. -/
  tick : τ
  /-- Where it is stopped from outside, if it is. -/
  cut : Option Cut

/-- What was seen of an order. -/
structure Report where
  /-- How it ended. -/
  ending : Ending
  /-- What it printed. -/
  printed : Text
  /-- What it asked. -/
  asked : List Text
  /-- What went between client and server. -/
  exchanges : List Client.Exchange

/-! ## §2. Sessions -/

/-- What stays the same during a session. -/
structure Surroundings (τ : Type := Float) where
  /-- The limits on requests. -/
  policy : RateLimit.Policy τ
  /-- The greatest length of an envelope. -/
  limit : Option Int
  /-- The ids that new secrets get. -/
  freshId : Nat → Text
  /-- The rounds of password stretching. -/
  iterations : Int
  /-- The public address in links. -/
  publicUrl : Text
  /-- The address of the usual server. -/
  usualServer : Text
  /-- The framework's pages about the service. -/
  pages : Server.Pages

/-- What command lines work on. -/
structure Session (τ : Type := Float) where
  /-- The service. -/
  service : Server.State τ
  /-- The directory, in its tree. -/
  disk : Directory
  /-- The random octets. -/
  entropy : Entropy

namespace Session

variable {τ : Type}

/-- The address from which command lines reach the service. -/
def client : Text := "127.0.0.1"

/-- The service with other secrets. -/
def withSecrets (t : Store.Table) (s : Server.State τ) : Server.State τ :=
  { s with records := { s.records with secrets := t } }

/-- The secrets of the service. -/
def secrets (s : Server.State τ) : Store.Table := s.records.secrets

variable [Sub τ] [LT τ] [DecidableLT τ] [OfNat τ 1]

/-- The service as it answers at the time of an order. -/
def serveAt (e : Surroundings τ) (o : Order τ) : Client.Server (Server.State τ) := fun s q =>
  Server.serve e.policy ⟨e.limit, e.freshId, o.clock, e.pages⟩ s ⟨q, some client, o.tick⟩

/-- The command that an order gives. -/
def command (e : Surroundings τ) (o : Order τ) : Step (Server.State τ) Unit :=
  match o.program with
  | .share => shareCommand ⟨serveAt e o, e.iterations, o.clock, e.publicUrl, e.usualServer⟩ o.args
  | .purge => purgeCommand secrets withSecrets o.clock o.args
  | .tamper => tamperCommand secrets withSecrets o.args

/-- Carries out an order. -/
def run (e : Surroundings τ) (s : Session τ) (o : Order τ) : Report × Session τ :=
  let (ending, d) :=
    (command e o).perform ⟨s.service, s.disk, s.entropy, o.answers, [], [], [], o.cut⟩
  (⟨ending, d.printed, d.asked, d.exchanges⟩, ⟨d.server, d.disk, d.entropy⟩)

/-- Carries out orders in turn. -/
def runAll (e : Surroundings τ) (s : Session τ) : List (Order τ) → List Report × Session τ
  | [] => ([], s)
  | o :: r =>
    let (report, s) := run e s o
    let (reports, s) := runAll e s r
    (report :: reports, s)

end Session

/-! ## §3. Scripts -/

/-- A command line of a script with its answers. -/
structure Script.Line where
  /-- The words of the line. -/
  words : List Text
  /-- The answers below it. -/
  answers : List Text
  deriving DecidableEq, Repr

namespace Script

/-- The sign before an answer. -/
def answerSign : Text := "> "

/-- The words of a line. -/
def wordsOf (t : Text) : List Text := (Text.splitOn ' ' t).filter fun w => !w.isEmpty

/-- The command lines among lines of text; answers above the first one are lost, and so are
empty lines. -/
def ofLines (lines : List Text) : List Line :=
  (lines.foldl
    (fun (done : List Line) t =>
      match Text.dropLiteral? answerSign t, done with
      | some a, l :: r => { l with answers := l.answers ++ [a] } :: r
      | some _, [] => []
      | none, done => if (wordsOf t).isEmpty then done else ⟨wordsOf t, []⟩ :: done) []).reverse

/-- The order of a command line given at some time, if it names a program. -/
def Line.order? (clock : Stamp) (tick : Float) (l : Line) : Option Order :=
  match l.words with
  | [] => none
  | w :: args => (Program.ofName? w).map fun p => ⟨p, args, l.answers, clock, tick, none⟩

end Script

end SealedDrop.Command
