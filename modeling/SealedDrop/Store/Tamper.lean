/-
  SealedDrop.Store.Tamper
  ───────────────────────
  **FLIPPING ONE BIT OF A STORED ENVELOPE.**

  A drill for the readers of envelopes: the last octet of a stored envelope,
  which belongs to its tag, is changed in one bit.  Opening the envelope
  afterwards has to fail like a wrong password does; flipping again restores
  the text that was there.
-/
import SealedDrop.Codec
import SealedDrop.Store.Operation

namespace SealedDrop.Store

/-- Why an envelope cannot be tampered with. -/
inductive TamperFault where
  /-- The id has no UTF-8 form. -/
  | unencodable (fault : Unencodable)
  /-- The envelope is not even loosely base64. -/
  | notBase64 (fault : Base64.LenientFault)
  /-- The envelope holds no octets. -/
  | empty
  deriving DecidableEq, Repr

/-- The wording of a fault. -/
def TamperFault.message : TamperFault → Text
  | .unencodable e => e.message
  | .notBase64 e => e.message
  | .empty => "bytearray index out of range"

/-- Octets with the lowest bit of the last one flipped. -/
def flipLast (b : Bytes) : Option Bytes :=
  match b.reverse with
  | [] => none
  | x :: r => some ((x ^^^ 1) :: r).reverse

/-- An envelope with its last octet changed. -/
def tamperText (envelope : Text) : Except TamperFault Text :=
  match Base64.decodeLenient envelope with
  | .error e => .error (.notBase64 e)
  | .ok b =>
    match flipLast b with
    | none => .error .empty
    | some b => .ok (Base64.encode b)

/-- Changes the envelope of an id; the text says what was done. -/
def tamper (t : Table) (id : Text) : Except TamperFault (Text × Table) :=
  match Utf8.firstSurrogates id with
  | some e => .error (.unencodable e)
  | none =>
    match (t.find? id).bind Row.data with
    | none => .ok ("[!] No live shared secret: " ++ id ++ "\n", t)
    | some d =>
      match tamperText d with
      | .error e => .error e
      | .ok d =>
        .ok ("[✔] Tampered envelope of shared secret '" ++ id ++ "'\n",
          t.map fun r => if r.header.id = id then { r with data := some d } else r)

end SealedDrop.Store
