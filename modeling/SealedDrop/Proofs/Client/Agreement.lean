/-
  SealedDrop.Proofs.Client.Agreement
  ──────────────────────────────────
  **CLIENT AND SERVER AGREE ON EVERY REQUEST.**

  `Client.signed` can sign any request that its form can hold, and `unwrap` makes
  of the body that is sent the very request that was signed: the same texts, the
  same truth value, the same reading of the clock with the same offset.  What
  is asked of the request is that its texts have a UTF-8 form and that the
  offset of its deadline can be written; what is asked of the server is that it
  holds the account that the client signs for.

  Main results:
    • `find?_of_holds` — the account that the server looks up is the one it holds,
    • `agree_of_survives` — agreement on any request that survives being written and read,
    • `client_server_agree` — agreement on creations, listings and expirations.
-/
import Mathlib.Data.List.Nodup
import SealedDrop.Proofs.Client.Signing

namespace SealedDrop.Server

open Form (Document WritesFlat)

/-! ## §1. The account of a signer -/

/-- The accounts hold a name with a key: they are told apart by their names, and one of them has
both. -/
structure Accounts.Holds (accounts : Accounts) (u : Text) (key : Bytes) : Prop where
  /-- No name is registered twice. -/
  distinct : (accounts.map Account.username).Nodup
  /-- The name is registered with the key. -/
  held : ∃ a ∈ accounts, a.username = u ∧ a.publicKey = key

/-- **The account of a name is the one that is held.** -/
theorem find?_of_holds {accounts : Accounts} {u : Text} {key : Bytes} (h : accounts.Holds u key) :
    ∃ a, accounts.find? u = some a ∧ a.publicKey = key := by
  obtain ⟨a, ha, hname, hkey⟩ := h.held
  cases hfind : accounts.find? u with
  | none =>
    have hnone := List.find?_eq_none.mp hfind a ha
    rw [hname] at hnone
    simp at hnone
  | some b =>
    have hb : b.username = u := by simpa using List.find?_some hfind
    -- both accounts have the name, so they are the same one
    have hsame : b = a := List.inj_on_of_nodup_map h.distinct (List.mem_of_find?_eq_some hfind) ha
      (hb.trans hname.symm)
    subst hsame
    exact ⟨b, rfl, hkey⟩

/-! ## §2. Agreement -/

section Agreement

variable {α : Type} [Signed α] {accounts : Accounts} {c : Client} {u : Text} {seed : Bytes} {q : α}

/-- A request survives: it is written as a flat object, and its form reads the same one there. -/
structure Survives (q : α) : Prop where
  /-- It is written as a flat object. -/
  flat : WritesFlat q
  /-- It is read back. -/
  back : Form.read (Document.write q) = .ok q

/-- Client and server agree on a request: the client signs it, and the server makes the same request
of the body that is sent. -/
def Agree (accounts : Accounts) (c : Client) (q : α) : Prop :=
  ∃ p, c.signed q = .ok p ∧ unwrap accounts (Client.bodyOf p) = .ok q

/-- **Client and server agree on every request that survives.** -/
theorem agree_of_survives (hname : c.username = some u) (hkey : c.key = some seed)
    (hu : u.isScalar = true) (hholds : accounts.Holds u (Ed25519.publicKey seed))
    (hq : Survives q) (hsigner : Signed.signer q = u) (hsound : SignsSoundly seed (textOf q)) :
    Agree accounts c q := by
  obtain ⟨a, ha, hpublic⟩ := find?_of_holds hholds
  have hsize : a.publicKey.length = Signature.keySize := by
    rw [hpublic]
    exact Ed25519.length_publicKey seed
  -- the payload is the same on both sides: its text is what is signed and what is verified
  exact ⟨payloadOf seed u q, signed_eq hname hkey hq.flat,
    unwrap_signed ha hpublic hsize hu hq.flat hq.back hsigner hsound⟩

end Agreement

/-! ## §3. Every request of an owner -/

/-- **Client and server agree on every request of an owner.**  The server holds the name of the
client with the public half of its key; the texts of the request have a UTF-8 form, the offset of a
deadline is one of whole minutes if there is one, and verification accepts the signature of the
request's own text.  Then the server reads the request that the client signed, field by field. -/
theorem client_server_agree (accounts : Accounts) (c : Client) (u : Text) (seed : Bytes)
    (hname : c.username = some u) (hkey : c.key = some seed) (hu : u.isScalar = true)
    (hholds : accounts.Holds u (Ed25519.publicKey seed)) :
    (∀ q : Form.Creation, q.username = u → q.data.isScalar = true →
      Reading.WholeMinutes q.expiresAt.offset → SignsSoundly seed (textOf q) → Agree accounts c q)
    ∧ (∀ q : Form.Listing, q.username = u → SignsSoundly seed (textOf q) → Agree accounts c q)
    ∧ ∀ q : Form.Expiration, q.username = u → q.id.isScalar = true →
      SignsSoundly seed (textOf q) → Agree accounts c q := by
  refine ⟨?creation, ?listing, ?expiration⟩
  case creation =>
    intro q hsigner hdata hoffset hsound
    have husername : q.username.isScalar = true := hsigner.symm ▸ hu
    exact agree_of_survives hname hkey hu hholds
      ⟨Form.writesFlat_creation husername hdata hoffset, Form.read_write_creation hoffset⟩
      hsigner hsound
  case listing =>
    intro q hsigner hsound
    have husername : q.username.isScalar = true := hsigner.symm ▸ hu
    exact agree_of_survives hname hkey hu hholds
      ⟨Form.writesFlat_listing husername, Form.read_write_listing q⟩ hsigner hsound
  case expiration =>
    intro q hsigner hid hsound
    have husername : q.username.isScalar = true := hsigner.symm ▸ hu
    exact agree_of_survives hname hkey hu hholds
      ⟨Form.writesFlat_expiration husername hid, Form.read_write_expiration q⟩ hsigner hsound

/-- A client whose name is not ASCII. -/
def zoe : Client := ⟨"http://drop", some "zoë", some (List.replicate 32 9)⟩

/-- What the client signs verifies, request by request. -/
theorem signsSoundly_zoe :
    SignsSoundly (List.replicate 32 9) (textOf (Form.Creation.mk "zoë" "\"\\/\u0007😀"
        ⟨⟨1234567, by decide⟩, some (-12600)⟩ true))
      ∧ SignsSoundly (List.replicate 32 9) (textOf (Form.Listing.mk "zoë"))
      ∧ SignsSoundly (List.replicate 32 9) (textOf (Form.Expiration.mk "zoë" "00\u2028")) := by
  unfold SignsSoundly
  set_option maxRecDepth 100000 in decide +kernel

/-- Agreement on a creation with quotes, a control character and a sign beyond the basic plane in
its text, whose deadline has microseconds and an offset of minus three and a half hours, and on a
listing and an expiration of the same owner. -/
theorem client_server_agree_zoe :
    let accounts : Accounts := [⟨1, "alice", List.replicate 32 0⟩,
      ⟨2, "zoë", Ed25519.publicKey (List.replicate 32 9)⟩]
    Agree accounts zoe (Form.Creation.mk "zoë" "\"\\/\u0007😀"
      ⟨⟨1234567, by decide⟩, some (-12600)⟩ true)
    ∧ Agree accounts zoe (Form.Listing.mk "zoë")
    ∧ Agree accounts zoe (Form.Expiration.mk "zoë" "00\u2028") := by
  intro accounts
  have hholds : accounts.Holds "zoë" (Ed25519.publicKey (List.replicate 32 9)) :=
    ⟨by decide, _, List.mem_cons_of_mem _ List.mem_cons_self, rfl, rfl⟩
  obtain ⟨hcreation, hlisting, hexpiration⟩ := client_server_agree accounts zoe "zoë"
    (List.replicate 32 9) rfl rfl (by decide) hholds
  refine ⟨hcreation _ rfl (by decide) ?_ signsSoundly_zoe.1,
    hlisting _ rfl signsSoundly_zoe.2.1, hexpiration _ rfl (by decide) signsSoundly_zoe.2.2⟩
  -- minus three and a half hours are whole minutes
  intro o ho
  injection ho with ho
  subst ho
  decide

end SealedDrop.Server
