/-
  SealedDrop.Signature
  ────────────────────
  **CHECKING WHO SIGNED.**

  A signature travels as base64 text.  It is accepted exactly when it is
  strict base64 of octets that verify, under the signer's public key, over
  the UTF-8 form of the signed text.  A text with no UTF-8 form, or a
  signature that is not even ASCII, is a malformed request rather than a
  wrong signature.
-/
import SealedDrop.Codec
import SealedDrop.Crypto.Ed25519
import SealedDrop.Journal.Entry

namespace SealedDrop.Signature

open Journal (Entry)

/-- The length of a public key. -/
def keySize : Nat := 32

/-- Why a signature is not accepted. -/
inductive Refusal where
  /-- The key does not have the right length. -/
  | badKey
  /-- The signature is not ASCII. -/
  | notAscii
  /-- The signature is no base64. -/
  | notBase64
  /-- The signed text has no UTF-8 form. -/
  | unencodable (fault : Unencodable)
  /-- The signature belongs to another text or another key. -/
  | mismatch
  deriving DecidableEq, Repr

namespace Refusal

/-- A wrong signature, as opposed to a malformed request. -/
def isInvalid : Refusal → Bool
  | .notBase64 | .mismatch => true
  | _ => false

/-- The wording of a refusal; wrong signatures are not told apart. -/
def message : Refusal → Text
  | .badKey => "An Ed25519 public key is 32 bytes long"
  | .notAscii => "string argument should contain only ASCII characters"
  | .unencodable e => e.message
  | .notBase64 | .mismatch => "Invalid signature"

/-- What a refusal writes into the journal. -/
def entries : Refusal → List Entry
  | .notBase64 => [.warning "Signature verification failed: Error"]
  | .mismatch => [.warning "Signature verification failed: InvalidSignature"]
  | _ => []

end Refusal

/-- The entry of an accepted signature. -/
def acceptedEntry : Entry := .info "Signature verification successful."

/-- Accepts a signature of a text, or says why not. -/
def check (key : Bytes) (signature text : Text) : Except Refusal Unit :=
  if key.length ≠ keySize then .error .badKey
  else if !signature.isAscii then .error .notAscii
  else
    match Base64.decode? signature with
    | none => .error .notBase64
    | some octets =>
      match Utf8.encode text with
      | .error e => .error (.unencodable e)
      | .ok message => if Ed25519.verify key octets message then .ok () else .error .mismatch

/-- The signature of a text, in base64. -/
def ofText (seed : Bytes) (text : Text) : Except Unencodable Text :=
  (Utf8.encode text).map fun message => Base64.encode (Ed25519.sign seed message)

end SealedDrop.Signature
