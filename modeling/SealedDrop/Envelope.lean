/-
  SealedDrop.Envelope
  ───────────────────
  **A SECRET SEALED UNDER A PASSWORD.**

  An envelope is the base64 text of

      salt (16 octets) ‖ nonce (12 octets) ‖ sealed text ‖ tag (16 octets)

  where the sealing key is stretched from the password with the salt.  The
  server stores envelopes and never sees a password or a plaintext.

  Opening can fail in four ways.  Three of them (no base64, too short, not
  authentic) are told apart only in the journal: whoever opens gets one and
  the same error, so a wrong password looks like a damaged envelope.  The
  fourth, that there is no key, is a fault of the caller: the password has no
  UTF-8 form, or it is not to be stretched at all.

  Salt and nonce are random.  Everything random in a run is drawn from one
  stream (`Entropy`), which is used up from the front, so a run is a function of
  the stream, and no octet is ever drawn twice (`Entropy.draw_position`).
-/
import SealedDrop.Codec
import SealedDrop.Crypto.Gcm
import SealedDrop.Crypto.Sha256
import SealedDrop.Journal.Entry

namespace SealedDrop

/-! ## §1. Random octets -/

/-- An endless stream of octets and how far it is used up. -/
structure Entropy where
  /-- The octet at each place. -/
  octet : Nat → UInt8
  /-- The number of octets already drawn. -/
  position : Nat

namespace Entropy

/-- The next `n` octets. -/
def draw (n : Nat) (e : Entropy) : Bytes × Entropy :=
  ((List.range n).map fun i => e.octet (e.position + i), { e with position := e.position + n })

theorem draw_position (n : Nat) (e : Entropy) : (e.draw n).2.position = e.position + n := rfl

theorem length_draw (n : Nat) (e : Entropy) : (e.draw n).1.length = n := by simp [draw]

end Entropy

end SealedDrop

namespace SealedDrop.Envelope

open Journal (Entry)

/-! ## §2. Layout -/

/-- The length of the salt. -/
def saltSize : Nat := 16

/-- The length of the nonce. -/
def nonceSize : Nat := 12

/-- The rounds of password stretching unless configured otherwise. -/
def defaultIterations : Int := 250000

/-- The shortest raw envelope: one of the empty text. -/
def minimalSize : Nat := saltSize + nonceSize + Gcm.tagSize

/-! ## §3. Sealing -/

/-- Why nothing can be sealed or opened under a password. -/
inductive KeyFault where
  /-- There are no rounds of stretching. -/
  | noRounds
  /-- The number of rounds is negative. -/
  | negativeRounds
  /-- The number of rounds is not one of a machine. -/
  | tooManyRounds
  /-- The password, or the text to seal, has no UTF-8 form. -/
  | unencodable (fault : Unencodable)
  deriving DecidableEq, Repr

/-- The wording of a fault. -/
def KeyFault.message : KeyFault → Text
  | .noRounds => "iterations must be greater than or equal to 1."
  | .negativeRounds => "can't convert negative int to unsigned"
  | .tooManyRounds => "int too big to convert"
  | .unencodable e => e.message

/-- The octets of a text to seal, or of a password. -/
def octetsOf (t : Text) : Except KeyFault Bytes := (Utf8.encode t).mapError .unencodable

/-- The key of a password under a salt.  This is told of numbers of rounds up to those of a signed
number of 32 bits, and of those that no machine word holds; between the two it is left open. -/
def deriveKey (iterations : Int) (password : Text) (salt : Bytes) : Except KeyFault Bytes :=
  if iterations < 0 then .error .negativeRounds
  else if 0x10000000000000000 ≤ iterations then .error .tooManyRounds
  else if iterations = 0 then .error .noRounds
  else (octetsOf password).map fun p => Sha256.stretch p salt iterations.toNat

/-- The envelope of a text. -/
def wrap (iterations : Int) (salt nonce : Bytes) (plaintext password : Text) :
    Except KeyFault Text := do
  let key ← deriveKey iterations password salt
  let text ← octetsOf plaintext
  return Base64.encode (salt ++ nonce ++ Gcm.encrypt key nonce text)

/-- The envelope of a text under fresh salt and nonce, drawn in this order. -/
def wrapFresh (iterations : Int) (plaintext password : Text) (e : Entropy) :
    Except KeyFault Text × Entropy :=
  let (salt, e) := e.draw saltSize
  let (nonce, e) := e.draw nonceSize
  (wrap iterations salt nonce plaintext password, e)

/-! ## §4. Opening -/

/-- Why an envelope does not open. -/
inductive Refusal where
  /-- It is no base64. -/
  | notBase64
  /-- It has only this many octets. -/
  | tooShort (size : Nat)
  /-- The tag is wrong, or what it seals is no text. -/
  | notAuthentic
  /-- There is no key to open it with. -/
  | noKey (fault : KeyFault)
  deriving DecidableEq, Repr

/-- What the one who opens is told. -/
inductive Error where
  /-- The envelope cannot be opened. -/
  | undecryptable
  /-- There is no key to open it with. -/
  | noKey (fault : KeyFault)
  deriving DecidableEq, Repr

/-- The wording of an error. -/
def Error.message : Error → Text
  | .undecryptable => "Unable to decrypt secret"
  | .noKey e => e.message

namespace Refusal

/-- The error of a refusal. -/
def error : Refusal → Error
  | .noKey e => .noKey e
  | _ => .undecryptable

/-- What a refusal writes into the journal. -/
def entries : Refusal → List Entry
  | .notBase64 => [.warning "Envelope is not valid base64"]
  | .tooShort n => [.warning ("Envelope too short: " ++ Text.ofNat n ++ " bytes")]
  | .notAuthentic => [.warning "Envelope authentication failed"]
  | .noKey _ => []

end Refusal

/-- The text of a raw envelope. -/
def unwrapRaw (iterations : Int) (raw : Bytes) (password : Text) : Except Refusal Text :=
  if raw.length < minimalSize then .error (.tooShort raw.length)
  else
    let salt := raw.take saltSize
    let nonce := (raw.drop saltSize).take nonceSize
    let body := raw.drop (saltSize + nonceSize)
    match deriveKey iterations password salt with
    | .error e => .error (.noKey e)
    | .ok key =>
      match Gcm.decrypt? key nonce body with
      | none => .error .notAuthentic
      | some text =>
        match Utf8.decode text with
        | .error _ => .error .notAuthentic
        | .ok t => .ok t

/-- The text of an envelope, or why there is none. -/
def unwrap (iterations : Int) (envelope password : Text) : Except Refusal Text :=
  match Base64.decode? envelope with
  | none => .error .notBase64
  | some raw => unwrapRaw iterations raw password

end SealedDrop.Envelope
