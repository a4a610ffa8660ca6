/-
  SealedDrop.Proofs.Client.Signing
  ────────────────────────────────
  **WHAT A CLIENT SIGNS, THE SERVER TRUSTS.**

  A request goes through two layers of JSON and a signature, and comes out of
  the same layers in reverse.  Nothing is lost on the way, whatever the request
  is, as long as it is written as a flat object and its form reads it back; that
  verification accepts what signing makes is the one thing assumed of the
  signature scheme (`SignsSoundly`).

  Main results:
    • `signed_eq` — what a client signs,
    • `readBody_bodyOf` — the payload in the body of a request,
    • `unwrap_signed` — the request in it.
-/
import SealedDrop.Client.Operation
import SealedDrop.Proofs.Codec.Base64
import SealedDrop.Proofs.Form.Request
import SealedDrop.Proofs.Server.Trust

namespace SealedDrop.Server

open Form (Document SignedPayload WritesFlat)
open Json (Style)

/-- Verification accepts what signing makes of a text. -/
def SignsSoundly (seed : Bytes) (t : Text) : Prop :=
  Ed25519.verify (Ed25519.publicKey seed) (Ed25519.sign seed (t.flatMap Utf8.encodePoint))
    (t.flatMap Utf8.encodePoint) = true

/-- The text that a request is signed as. -/
def textOf {α : Type} [Document α] (q : α) : Text := Json.render Style.compact (Document.write q)

/-- The payload that a signer makes of a request. -/
def payloadOf {α : Type} [Document α] (seed : Bytes) (u : Text) (q : α) : SignedPayload :=
  ⟨textOf q, Base64.encode (Ed25519.sign seed ((textOf q).flatMap Utf8.encodePoint)), u⟩

section Signing

variable {α : Type} {c : Client} {u : Text} {seed : Bytes}

/-- **A client signs the compact text of a request.** -/
theorem signed_eq [Document α] {q : α} (hname : c.username = some u) (hkey : c.key = some seed)
    (hq : WritesFlat q) : c.signed q = .ok (payloadOf seed u q) := by
  unfold Client.signed
  rw [hname, hkey]
  dsimp only
  rw [hq.dump]
  dsimp only
  unfold Signature.ofText
  rw [Utf8.encode_of_isScalar hq.isScalar]
  rfl

theorem writesFlat_payloadOf [Document α] {q : α} (hu : u.isScalar = true) (hq : WritesFlat q) :
    WritesFlat (payloadOf seed u q) :=
  Form.writesFlat_payload hq.isScalar (Text.isScalar_of_isAscii (Base64.isAscii_encode _)) hu

/-- **The payload of a body is read out of it.** -/
theorem readBody_bodyOf {p : SignedPayload} (hp : WritesFlat p) :
    readBody (Client.bodyOf p) = .ok p := by
  unfold readBody Client.bodyOf
  rw [hp.textOfBody]
  dsimp only
  rw [hp.readText_render Style.readable_ascii]
  exact fitted_eq_ok_iff.mpr (Form.read_write_payload p)

/-- **What a client signs in the name of an account, the server takes out of the body again.** -/
theorem unwrap_signed [Signed α] {q : α} {accounts : Accounts} {a : Account}
    (ha : accounts.find? u = some a) (hpublic : a.publicKey = Ed25519.publicKey seed)
    (hsize : a.publicKey.length = Signature.keySize) (hu : u.isScalar = true) (hq : WritesFlat q)
    (hread : Form.read (Document.write q) = .ok q) (hsigner : Signed.signer q = u)
    (hsound : SignsSoundly seed (textOf q)) :
    unwrap accounts (Client.bodyOf (payloadOf seed u q)) = .ok q := by
  refine unwrap_eq_ok_iff.mpr ⟨_, readBody_bodyOf (writesFlat_payloadOf hu hq), ?_, ?_⟩
  · refine authenticate_eq_ok_iff.mpr ⟨hu, a, ha, ?_⟩
    refine Signature.check_eq_ok_iff.mpr ⟨hsize, Base64.isAscii_encode _, _, _,
      Base64.decode?_encode _, Utf8.encode_of_isScalar hq.isScalar, ?_⟩
    -- the account holds the public half of the key that signed
    rw [hpublic]
    exact hsound
  · exact openPayload_eq_ok_iff.mpr
      ⟨_, hq.read_render Style.readable_compact, hread, hsigner⟩

end Signing

end SealedDrop.Server
