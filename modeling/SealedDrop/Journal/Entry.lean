/-
  SealedDrop.Journal.Entry
  ────────────────────────
  **WHAT THE SERVICE SAYS ABOUT ITSELF.**

  An entry is a severity and a text.  Every operation returns its entries
  beside its result, so that what is written down is part of its meaning; how
  entries are laid out and where they go is the business of the other modules
  of this folder.
-/
import SealedDrop.Text.Basic

namespace SealedDrop.Journal

/-- The severities that have a name. -/
inductive Level where
  /-- Detail for tracing. -/
  | debug
  /-- Normal operation. -/
  | info
  /-- Something was refused or looks wrong. -/
  | warning
  /-- An operation failed. -/
  | error
  /-- The service cannot go on. -/
  | critical
  deriving DecidableEq, Repr

namespace Level

/-- The rank of a severity. -/
def rank : Level → Int
  | .debug => 10
  | .info => 20
  | .warning => 30
  | .error => 40
  | .critical => 50

/-- The name of a severity. -/
def name : Level → Text
  | .debug => "DEBUG"
  | .info => "INFO"
  | .warning => "WARNING"
  | .error => "ERROR"
  | .critical => "CRITICAL"

/-- All severities, least first. -/
def all : List Level := [.debug, .info, .warning, .error, .critical]

/-- The severity of a rank. -/
def ofRank? (n : Int) : Option Level := all.find? fun l => l.rank = n

/-- The severity of a name. -/
def ofName? (t : Text) : Option Level := all.find? fun l => l.name = t

end Level

/-- One thing said. -/
structure Entry where
  /-- How grave it is. -/
  level : Level
  /-- What it says. -/
  text : Text
  deriving DecidableEq, Repr

namespace Entry

/-- A normal event. -/
def info (t : Text) : Entry := ⟨.info, t⟩

/-- A refusal. -/
def warning (t : Text) : Entry := ⟨.warning, t⟩

/-- A failure. -/
def error (t : Text) : Entry := ⟨.error, t⟩

/-- A detail. -/
def debug (t : Text) : Entry := ⟨.debug, t⟩

end Entry

end SealedDrop.Journal
