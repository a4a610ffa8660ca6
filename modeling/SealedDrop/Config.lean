/-
  SealedDrop.Config
  ─────────────────
  **THE CONFIGURATION OF THE SERVICE.**

  A configuration is a TOML document with one table for each part of the
  service.  It comes from a shared file, and a specific file may replace whole
  tables of it.  Keys that the configuration does not know are left alone.
-/
import SealedDrop.Directory
import SealedDrop.Form.Whole
import SealedDrop.Journal.Entry
import SealedDrop.Text.Numeral
import SealedDrop.Toml.Document

namespace SealedDrop

open Form (Checked Problem)
open Toml (Table Value)

/-! ## §1. The parts -/

namespace Config

/-- What the service is called. -/
structure General where
  /-- The title. -/
  title : Text
  deriving DecidableEq, Repr

/-- Where the tables are kept. -/
structure Database where
  /-- The address. -/
  path : Text
  deriving DecidableEq, Repr

/-- Where files are written. -/
structure Paths where
  /-- The directory of the journal. -/
  logs : Text
  deriving DecidableEq, Repr

/-- What is written down. -/
structure Logging where
  /-- The rank from which on entries are written. -/
  level : Int
  deriving DecidableEq, Repr

/-- What may be shared, and where links lead. -/
structure Sharing where
  /-- The greatest length of an envelope. -/
  maxDataLength : Int
  /-- The public address. -/
  publicUrl : Text
  deriving DecidableEq, Repr

/-- How many requests a client may make. -/
structure RateLimit where
  /-- The length of a lock-out, in seconds. -/
  timeoutPeriod : Int
  /-- The requests of a second. -/
  requestsPerSecond : Int
  deriving DecidableEq, Repr

/-- Where the service listens. -/
structure Network where
  /-- The host. -/
  host : Text
  /-- The port. -/
  port : Int
  /-- Whether it starts anew when its files change. -/
  reload : Bool
  /-- How many requests a client may make. -/
  rateLimit : RateLimit
  deriving DecidableEq, Repr

end Config

/-- The configuration. -/
structure Config where
  /-- What the service is called. -/
  general : Config.General
  /-- Where the tables are kept. -/
  database : Config.Database
  /-- Where files are written. -/
  paths : Config.Paths
  /-- What is written down. -/
  logging : Config.Logging
  /-- What may be shared. -/
  sharing : Config.Sharing
  /-- Where the service listens. -/
  network : Config.Network
  deriving DecidableEq, Repr

namespace Config

/-- What may be shared unless configured otherwise. -/
def Sharing.usual : Sharing := ⟨65536, "http://127.0.0.1:8000"⟩

/-! ## §2. Values -/

/-- A text. -/
def text : Value → Except Problem Text
  | .text t => .ok t
  | _ => .error .notText

/-- A truth value. -/
def bool : Value → Except Problem Bool
  | .bool b => .ok b
  | .int n => Form.boolOfInt n
  | .float x => Form.boolOfFloat x
  | .text t => Form.boolOfText t
  | _ => .error .notBool

/-- A whole number. -/
def int : Value → Except Problem Int
  | .bool b => .ok (if b then 1 else 0)
  | .int n => .ok n
  | .float x => Form.intOfFloat x
  | .text t => Form.intOfText t
  | _ => .error .notInt

/-- The name of the kind of a value that cannot be the name of a level. -/
def foreignKind? : Value → Option Text
  | .float _ => some "float"
  | .list _ => some "list"
  | .table _ => some "dict"
  | .date _ => some "datetime.date"
  | .timeOfDay _ => some "datetime.time"
  | .stamp _ => some "datetime.datetime"
  | .text _ | .int _ | .bool _ => none

/-- A letter in upper case, as far as the names of levels have letters: besides those of ASCII,
only the dotless i becomes one of them. -/
def upperLetter (c : CodePoint) : CodePoint :=
  if c.val = 0x131 then CodePoint.ofChar 'I' else c.toUpperAscii

/-- A level, by its rank or by its name in any case; an unknown name stands for the usual level. -/
def level : Value → Except Problem Int
  | .text t => .ok ((Journal.Level.ofName? (t.map upperLetter)).getD .info).rank
  | v => int v

/-! ## §3. Tables -/

/-- An entry that must be there. -/
def entry {α : Type} (read : Value → Except Problem α) (name : Text) (t : Table) : Checked α :=
  match Table.find? name t with
  | none => .error [⟨[name], .missing⟩]
  | some v => (read v).mapError fun p => [⟨[name], p⟩]

/-- An entry that may be left out. -/
def entryOr {α : Type} (default : α) (read : Value → Except Problem α) (name : Text) (t : Table) :
    Checked α :=
  match Table.find? name t with
  | none => .ok default
  | some _ => entry read name t

/-- A table inside a table, of this title. -/
def part {α : Type} (title : Text) (read : Table → Checked α) (name : Text) (t : Table) :
    Checked α :=
  match Table.find? name t with
  | none => .error [⟨[name], .missing⟩]
  | some (.table inner) => (read inner).mapError (List.map (Form.Fault.inside name))
  | some _ => .error [⟨[name], .notRecord title⟩]

/-- A table inside a table that may be left out. -/
def partOr {α : Type} (default : α) (title : Text) (read : Table → Checked α) (name : Text)
    (t : Table) : Checked α :=
  match Table.find? name t with
  | none => .ok default
  | some _ => part title read name t

/-- The least length that envelopes may be limited to. -/
def leastDataLength : Int := 1

/-- What may be shared. -/
def sharingOf (t : Table) : Checked Sharing :=
  Checked.both ((entryOr Sharing.usual.maxDataLength
      (fun v => (int v).bind (Form.atLeast leastDataLength)) "max_data_length" t).map Sharing.mk)
    (entryOr Sharing.usual.publicUrl text "public_url" t)

/-- How many requests a client may make. -/
def rateLimitOf (t : Table) : Checked RateLimit :=
  Checked.both ((entry int "timeout_period" t).map RateLimit.mk) (entry int "requests_per_second" t)

/-- Where the service listens. -/
def networkOf (t : Table) : Checked Network :=
  Checked.both (Checked.both (Checked.both ((entry text "host" t).map Network.mk)
    (entry int "port" t)) (entry bool "reload" t)) (part "RateLimit" rateLimitOf "rate_limit" t)

/-- A configuration, with all that is wrong with it. -/
def ofTable (t : Table) : Checked Config :=
  Checked.both (Checked.both (Checked.both (Checked.both (Checked.both
    ((part "General" (fun t => (entry text "title" t).map General.mk) "general" t).map Config.mk)
    (part "Database" (fun t => (entry text "path" t).map Database.mk) "database" t))
    (part "Paths" (fun t => (entry text "logs" t).map Paths.mk) "paths" t))
    (part "Logging" (fun t => (entry level "level" t).map Logging.mk) "logging" t))
    (partOr Sharing.usual "Sharing" sharingOf "sharing" t))
    (part "Network" networkOf "network" t)

/-- The kind of a level that is neither a number nor a text. -/
def foreignLevel? (t : Table) : Option Text :=
  match Table.find? "logging" t with
  | some (.table inner) => (Table.find? "level" inner).bind foreignKind?
  | _ => none

/-! ## §4. Loading -/

/-- Why there is no configuration. -/
inductive Refusal where
  /-- A file cannot be read. -/
  | file (fault : FileFault)
  /-- A file is no UTF-8 text. -/
  | undecodable (fault : Undecodable)
  /-- A file is no document. -/
  | document (fault : Toml.Fault)
  /-- The level is neither a number nor a text. -/
  | foreignLevel (kind : Text)
  /-- The documents do not make a configuration. -/
  | rejected (why : Form.Rejection)

/-- The wording of a refusal; that of a malformed document is left open. -/
def Refusal.message : Refusal → Text
  | .file e => e.message
  | .undecodable e => e.message
  | .document .malformed => []
  | .document (.tooManyDigits n) => Text.overlongNumeral n
  | .document .tooDeep => "maximum recursion depth exceeded"
  | .foreignLevel kind => "'" ++ kind ++ "' object has no attribute 'upper'"
  | .rejected r => r.message

/-- The document in a file. -/
def readFile (d : Directory) (path : Text) : Except Refusal Table :=
  match d.read? (Path.ofText path) with
  | .error e => .error (.file e)
  | .ok f =>
    match Utf8.decode f.content with
    | .error e => .error (.undecodable e)
    | .ok t => (Toml.read t).mapError .document

/-- The configuration of a table. -/
def validate (t : Table) : Except Refusal Config :=
  match foreignLevel? t with
  | some kind => .error (.foreignLevel kind)
  | none => (ofTable t).mapError fun fs => .rejected ⟨"Config", fs⟩

/-- The file that is read unless another one is named. -/
def usualFile : Text := "config.toml"

/-- Where a configuration is looked for. -/
structure Sources where
  /-- The shared file, if the caller names one. -/
  shared : Option Text
  /-- The shared file that the environment names, if it does. -/
  environment : Option Text
  /-- The specific file; an empty path names none. -/
  specific : Option Text

/-- The shared file: the caller goes before the environment. -/
def Sources.sharedFile (s : Sources) : Text := (s.shared <|> s.environment).getD usualFile

/-- The specific file. -/
def Sources.specificFile? (s : Sources) : Option Text := s.specific.filter fun p => !p.isEmpty

/-- The configuration of a shared file, whose tables a specific file may replace. -/
def load (d : Directory) (s : Sources) : Except Refusal Config := do
  let t ← readFile d s.sharedFile
  match s.specificFile? with
  | none => validate t
  | some path =>
    let u ← readFile d path
    validate (Table.override t u)

end Config

end SealedDrop
