/-
  SealedDrop.Proofs.Server.Trust
  ──────────────────────────────
  **WHEN A BODY IS TRUSTED.**

  `unwrap` is a chain of checks in a fixed order: `readBody`, `authenticate`,
  `openPayload`, and that the request is in the name of the signer.  Each link
  gets one lemma that says exactly when it holds.  Put together: a request comes
  out of a body iff the body carries a payload whose signature verifies under
  the key stored for its signer, and the request inside names that signer.

  Main results:
    • `authenticate_eq_ok_iff` — when a signer is accepted,
    • `unwrap_eq_ok_iff` — when a request comes out of a body,
    • `asks_of_unwrap` — whoever's request comes out has signed it.
-/
import SealedDrop.Proofs.Result
import SealedDrop.Proofs.Signature
import SealedDrop.Server.Unwrap

namespace SealedDrop.Server

open Form (SignedPayload)

/-- **A signer is accepted iff the name is registered and the signature is accepted under its key.** -/
theorem authenticate_eq_ok_iff {accounts : Accounts} {p : SignedPayload} :
    authenticate accounts p = .ok () ↔
      p.username.isScalar = true ∧ ∃ a, accounts.find? p.username = some a
        ∧ Signature.check a.publicKey p.signature p.payload = .ok () := by
  unfold authenticate
  rw [← Utf8.firstSurrogates_eq_none_iff]
  cases Utf8.firstSurrogates p.username with
  | some e => simp
  | none =>
    cases accounts.find? p.username with
    | none => simp
    | some a => simp

theorem fitted_eq_ok_iff {α : Type} [Form.Document α] {j : Json} {q : α} :
    fitted j = .ok q ↔ Form.read j = .ok q :=
  Result.mapError_eq_ok_iff

section Unwrap

variable {α : Type} [Signed α] {accounts : Accounts} {body : Bytes} {p : SignedPayload} {q : α}

/-- **A request comes out of a payload iff its text is the form of it and it names the signer.** -/
theorem openPayload_eq_ok_iff :
    openPayload p = .ok q ↔
      ∃ j, Json.read p.payload = .ok j ∧ Form.read j = .ok q ∧ Signed.signer q = p.username := by
  unfold openPayload
  simp only [Result.bind_eq_ok_iff, Result.mapError_eq_ok_iff, fitted_eq_ok_iff]
  constructor
  · rintro ⟨j, hj, a, ha, hname⟩
    split at hname
    next heq =>
      injection hname with hname
      subst hname
      exact ⟨j, hj, ha, heq⟩
    next => cases hname
  · rintro ⟨j, hj, hq, hname⟩
    exact ⟨j, hj, q, hq, if_pos hname⟩

/-- **A request comes out of a body iff every link of the chain holds.** -/
theorem unwrap_eq_ok_iff :
    unwrap accounts body = .ok q ↔
      ∃ p, readBody body = .ok p ∧ authenticate accounts p = .ok () ∧ openPayload p = .ok q := by
  unfold unwrap
  simp only [Result.bind_eq_ok_iff]
  constructor
  · rintro ⟨p, hbody, _, hauth, hopen⟩
    exact ⟨p, hbody, hauth, hopen⟩
  · rintro ⟨p, hbody, hauth, hopen⟩
    exact ⟨p, hbody, (), hauth, hopen⟩

/-- A body asks for something in a name: it carries a payload signed in that name, the signature
verifies over the octets of the payload's text under the key that is stored for the name, and the
request inside is made in the same name. -/
def Asks (accounts : Accounts) (name : Text) (body : Bytes) (q : α) : Prop :=
  ∃ p a octets message, readBody body = .ok p ∧ p.username = name
    ∧ accounts.find? name = some a ∧ Base64.decode? p.signature = some octets
    ∧ Utf8.encode p.payload = .ok message ∧ Ed25519.verify a.publicKey octets message = true
    ∧ (∃ j, Json.read p.payload = .ok j ∧ Form.read j = .ok q) ∧ Signed.signer q = name

/-- **Whoever's request comes out of a body has signed it.** -/
theorem asks_of_unwrap (h : unwrap accounts body = .ok q) :
    Asks accounts (Signed.signer q) body q := by
  obtain ⟨p, hbody, hauth, hopen⟩ := unwrap_eq_ok_iff.mp h
  obtain ⟨_, a, ha, hcheck⟩ := authenticate_eq_ok_iff.mp hauth
  obtain ⟨_, _, octets, message, hoctets, hmessage, hverify⟩ := Signature.check_eq_ok_iff.mp hcheck
  obtain ⟨j, hj, hq, hname⟩ := openPayload_eq_ok_iff.mp hopen
  rw [← hname] at ha
  exact ⟨p, a, octets, message, hbody, hname.symm, ha, hoctets, hmessage, hverify, ⟨j, hj, hq⟩,
    rfl⟩

end Unwrap

end SealedDrop.Server
