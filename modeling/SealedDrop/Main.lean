/-
  SealedDrop.Main
  ───────────────
  **A SESSION AT THE TERMINAL.**

      sealeddrop [TIME]

  Command lines come from standard input, one on a line, each followed by the
  answers to its prompts on lines that start with a sign.  They work on a
  service of their own, which is empty at first and gone at the end.  What
  they print goes to standard output, prompts and complaints to standard
  error; the exit status is that of the last of them.

  The time of day is an argument; by default it is the start of 1970.
-/
import SealedDrop.Command.Session
import SealedDrop.Crypto.Sha256
import SealedDrop.Server.Identifier

namespace SealedDrop.Main

open Command

/-- The lines of a stream. -/
partial def readLines (input : IO.FS.Stream) (done : List Text) : IO (List Text) := do
  let line ← input.getLine
  if line.isEmpty then return done.reverse
  readLines input (Text.stripRight '\n' (Text.ofString line) :: done)

/-- What the terminal shows of a text; half of a surrogate pair is shown as a question mark. -/
def shown (t : Text) : String :=
  String.ofList (t.map fun c => c.toChar?.getD '?')

/-- The moment at which the time of day starts to be counted. -/
def epoch : Stamp := Stamp.utc ((Moment.ofMicros? Moment.epoch).getD Moment.first)

/-- The surroundings of a session whose ids come from a seed. -/
def surroundings (seed : Bytes) : Surroundings where
  policy := ⟨10, 30⟩
  limit := some 65536
  freshId := fun n =>
    Server.identifierOf ((Sha256.hash (seed ++ Sha256.bigEndian 8 n)).take 16)
  iterations := Envelope.defaultIterations
  publicUrl := "http://127.0.0.1:8000"
  usualServer := "http://127.0.0.1:8000"
  pages := .blank

/-- How many random octets a command line may draw. -/
def entropyPerLine : Nat := 1024

/-- Some random octets. -/
def randomOctets (n : Nat) : IO Bytes := do
  let bytes ← IO.getRandomBytes (USize.ofNat n)
  return bytes.toList

/-- The seconds on the monotonic clock. -/
def monotonicSeconds : IO Float := do
  return Double.ofInt (← IO.monoMsNow) / 1000

/-- Shows a report, and gives its exit status. -/
def showReport (r : Report) : IO UInt32 := do
  for label in r.asked do
    IO.eprint (shown label)
  IO.print (shown r.printed)
  match r.ending with
  | .exit n => return UInt32.ofNat n
  | .crash c =>
    IO.eprintln (shown c.message)
    return 1

/-- Carries out the lines of a script. -/
def runLines (e : Surroundings) (clock : Stamp) (s : Session) (lines : List Script.Line) :
    IO UInt32 := do
  let mut session := s
  let mut status : UInt32 := 0
  for line in lines do
    let octets := (← randomOctets entropyPerLine).toArray
    match line.order? clock (← monotonicSeconds) with
    | none =>
      IO.eprintln "no such program"
      status := 2
    | some o =>
      let (report, next) :=
        Session.run e { session with entropy := ⟨fun i => octets.getD i 0, 0⟩ } o
      session := next
      status ← showReport report
  return status

end SealedDrop.Main

/-- Carries out the command lines on standard input. -/
def main (args : List String) : IO UInt32 := do
  let clock := (args.head?.bind fun t => SealedDrop.Stamp.ofIso? t).getD SealedDrop.Main.epoch
  let seed ← SealedDrop.Main.randomOctets 32
  let lines ← SealedDrop.Main.readLines (← IO.getStdin) []
  SealedDrop.Main.runLines (SealedDrop.Main.surroundings seed) clock
    ⟨SealedDrop.Server.State.empty, ⟨[], [], []⟩, ⟨fun _ => 0, 0⟩⟩ (SealedDrop.Command.Script.ofLines lines)
