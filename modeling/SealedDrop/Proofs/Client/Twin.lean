/-
  SealedDrop.Proofs.Client.Twin
  ─────────────────────────────
  **WHAT A CLIENT SENDS OF A SECRET.**

  Two secrets of one length are sealed to twins, and the creations that a client
  signs of them differ in the twins and in the signatures.  A server makes the
  same of both: it accepts the signature of either or of neither, because it
  judges a signature by the key, and then it finds two creations that differ in
  their envelopes at most.

  That verification judges by the key is what is assumed of the signature scheme
  (`TellsKeys`): what a seed has signed is accepted under its own public half,
  and under no other key.

  Main results:
    • `wrapFresh_like` — two secrets of one length are sealed to twins,
    • `check_signed`, `authenticate_like` — their signatures are judged alike,
    • `bodiesLike_signedCreation` — a server makes the same of both creations,
    • `signed_like` — a client signs both, or neither for the same reason.
-/
import SealedDrop.Proofs.Client.Sharing
import SealedDrop.Proofs.Server.Twin

namespace SealedDrop.Server

open Client (Deposit)
open Form (Creation Document SignedPayload WritesFlat)
open Json (Style)
open Result (Like)
open Store (Twin)

/-! ## §1. Sealing -/

/-- Two secrets to share that could be one another: the same deadline and the same use, plaintexts
of one length in UTF-8, and passwords that are there; none of the four texts holds a surrogate. -/
structure DepositLike (d d' : Deposit) : Prop where
  expiresAt : d.expiresAt = d'.expiresAt
  singleUse : d.singleUse = d'.singleUse
  length : (d.plaintext.flatMap Utf8.encodePoint).length
    = (d'.plaintext.flatMap Utf8.encodePoint).length
  plaintexts : d.plaintext.isScalar = true ∧ d'.plaintext.isScalar = true
  passwords : (d.password ≠ [] ∧ d.password.isScalar = true)
    ∧ d'.password ≠ [] ∧ d'.password.isScalar = true

/-- Whether there is a key does not depend on the password, as long as it has a form. -/
theorem deriveKey_like (n : Int) {password password' : Text} (h : password.isScalar = true)
    (h' : password'.isScalar = true) (salt salt' : Bytes) :
    Like (fun _ _ => True) (Envelope.deriveKey n password salt)
      (Envelope.deriveKey n password' salt') := by
  have hoctets : ∀ t : Text, t.isScalar = true →
      Envelope.octetsOf t = .ok (t.flatMap Utf8.encodePoint) := fun t ht =>
    Envelope.octetsOf_eq_ok_iff.mpr (Utf8.encode_of_isScalar ht)
  unfold Envelope.deriveKey
  rw [hoctets _ h, hoctets _ h']
  split
  next => exact .error _
  next =>
    split
    next => exact .error _
    next =>
      split
      next => exact .error _
      next => exact .ok trivial

section Sealing

variable {d d' : Deposit} {salt salt' nonce nonce' : Bytes}

/-- Two secrets of one length have envelopes of one length. -/
theorem wrap_like (n : Int) (hd : DepositLike d d') (hsalt : salt.length = Envelope.saltSize)
    (hsalt' : salt'.length = Envelope.saltSize) (hnonce : nonce.length = Envelope.nonceSize)
    (hnonce' : nonce'.length = Envelope.nonceSize) :
    Like Twin (Envelope.wrap n salt nonce d.plaintext d.password)
      (Envelope.wrap n salt' nonce' d'.plaintext d'.password) := by
  have htext : Envelope.octetsOf d.plaintext = .ok (d.plaintext.flatMap Utf8.encodePoint) :=
    Envelope.octetsOf_eq_ok_iff.mpr (Utf8.encode_of_isScalar hd.plaintexts.1)
  have htext' : Envelope.octetsOf d'.plaintext = .ok (d'.plaintext.flatMap Utf8.encodePoint) :=
    Envelope.octetsOf_eq_ok_iff.mpr (Utf8.encode_of_isScalar hd.plaintexts.2)
  unfold Envelope.wrap
  rw [htext, htext']
  refine (deriveKey_like n hd.passwords.1.2 hd.passwords.2.2 salt salt').bind ?_
  intro key key' _
  refine .ok (Store.twin_encode ?_ ?_)
  · -- the salt alone is sixteen octets
    intro hnil
    have hlength := congrArg List.length hnil
    rw [List.length_append, List.length_append, hsalt, List.length_nil] at hlength
    unfold Envelope.saltSize at hlength
    omega
  · simp only [List.length_append, Gcm.length_encrypt, hsalt, hsalt', hnonce, hnonce', hd.length]

/-- **Two secrets of one length are sealed to twins**, whatever is drawn for salt and nonce. -/
theorem wrapFresh_like (n : Int) (hd : DepositLike d d') (e e' : Entropy) :
    Like Twin (Envelope.wrapFresh n d.plaintext d.password e).1
      (Envelope.wrapFresh n d'.plaintext d'.password e').1 :=
  wrap_like n hd (e.length_draw Envelope.saltSize) (e'.length_draw Envelope.saltSize)
    ((e.draw Envelope.saltSize).2.length_draw Envelope.nonceSize)
    ((e'.draw Envelope.saltSize).2.length_draw Envelope.nonceSize)

end Sealing

/-! ## §2. Signatures -/

/-- Verification tells keys apart on a text: what a seed has signed is accepted under a key iff the
key is the public half of the seed. -/
def TellsKeys (key seed : Bytes) (t : Text) : Prop :=
  Ed25519.verify key (Ed25519.sign seed (t.flatMap Utf8.encodePoint)) (t.flatMap Utf8.encodePoint)
    = decide (key = Ed25519.publicKey seed)

instance (key seed : Bytes) (t : Text) : Decidable (TellsKeys key seed t) :=
  inferInstanceAs (Decidable (_ = _))

/-- **A signature is judged by the key it was made with.** -/
theorem check_signed {key seed : Bytes} {t : Text} (ht : t.isScalar = true)
    (htells : TellsKeys key seed t) :
    Signature.check key (Base64.encode (Ed25519.sign seed (t.flatMap Utf8.encodePoint))) t =
      if key.length ≠ Signature.keySize then .error .badKey
      else if key = Ed25519.publicKey seed then .ok () else .error .mismatch := by
  unfold TellsKeys at htells
  unfold Signature.check
  split
  next => rfl
  next =>
    rw [if_neg (by rw [Base64.isAscii_encode]; simp), Base64.decode?_encode,
      Utf8.encode_of_isScalar ht]
    dsimp only
    rw [htells]
    by_cases hkey : key = Ed25519.publicKey seed
    · rw [if_pos hkey, if_pos (decide_eq_true hkey)]
    · rw [if_neg hkey, if_neg (by simp [hkey])]

/-! ## §3. Creations -/

section Creations

variable {accounts : Accounts} {seed : Bytes} {u : Text} {q q' : Creation}

/-- The signer of a creation is judged by the keys, if a signature over it is. -/
def Judges (accounts : Accounts) (seed : Bytes) (q : Creation) : Prop :=
  ∀ a ∈ accounts.find? q.username, TellsKeys a.publicKey seed (textOf q)

instance (accounts : Accounts) (seed : Bytes) (q : Creation) : Decidable (Judges accounts seed q) :=
  inferInstanceAs (Decidable (∀ a ∈ accounts.find? q.username, _))

/-- What is signed of a creation, in the name that stands in it. -/
abbrev signedCreation (seed : Bytes) (q : Creation) : SignedPayload := payloadOf seed q.username q

/-- **The signers of two creations are accepted or refused alike.** -/
theorem authenticate_like (h : CreationLike q q') (hq : WritesFlat q) (hq' : WritesFlat q')
    (hjudges : Judges accounts seed q) (hjudges' : Judges accounts seed q') :
    authenticate accounts (signedCreation seed q)
      = authenticate accounts (signedCreation seed q') := by
  unfold authenticate signedCreation payloadOf
  dsimp only
  rw [← h.username]
  cases Utf8.firstSurrogates q.username with
  | some e => rfl
  | none =>
    dsimp only
    cases hfind : accounts.find? q.username with
    | none => rfl
    | some a =>
      -- what the key of the account says of the two signatures is the same
      have htells : TellsKeys a.publicKey seed (textOf q) := hjudges a hfind
      have htells' : TellsKeys a.publicKey seed (textOf q') := hjudges' a (h.username ▸ hfind)
      dsimp only
      rw [check_signed (t := textOf q) hq.isScalar htells,
        check_signed (t := textOf q') hq'.isScalar htells']

/-- What the form makes of a written creation hangs on the deadline only. -/
theorem read_creation (q : Creation) :
    (Form.read (Document.write q) : Except Form.Rejection Creation) =
      ((Form.stamp (.text q.expiresAt.wireText)).mapError fun p =>
        ⟨Document.title Creation, [⟨["expires_at"], p⟩]⟩).map
          fun t => ⟨q.username, q.data, t, q.singleUse⟩ := by
  show (Form.Checked.also (Form.Checked.both (Form.Checked.both
    (.ok (Creation.mk q.username q.data))
    ((Form.stamp (.text q.expiresAt.wireText)).mapError fun p => [⟨["expires_at"], p⟩]))
    (.ok q.singleUse)) (.ok ())).mapError _ = _
  cases Form.stamp (.text q.expiresAt.wireText) with
  | error p => rfl
  | ok t => rfl

theorem fitted_like (h : CreationLike q q') :
    Like CreationLike (fitted (Document.write q) : Except Setback Creation)
      (fitted (Document.write q')) := by
  unfold fitted
  rw [read_creation, read_creation, h.expiresAt]
  refine Like.mapError ?_ _
  cases (Form.stamp (.text q'.expiresAt.wireText)).mapError fun p =>
      (⟨Document.title Creation, [⟨["expires_at"], p⟩]⟩ : Form.Rejection) with
  | error r => exact .error r
  | ok t => exact .ok ⟨h.username, h.data, rfl, h.singleUse⟩

/-- No other form takes a creation, for reasons that lie in its names. -/
theorem fitted_registration (q : Creation) :
    (fitted (Document.write q) : Except Setback Form.Registration) =
      .error (.answered (invalidPayload (Form.Rejection.message
        ⟨Document.title Form.Registration, [⟨["public_key"], .missing⟩]⟩))) :=
  rfl

theorem fitted_listing (q : Creation) :
    (fitted (Document.write q) : Except Setback Form.Listing) = .error (.answered (invalidPayload
      (Form.Rejection.message ⟨Document.title Form.Listing, [⟨["data"], .extra⟩,
        ⟨["expires_at"], .extra⟩, ⟨["single_use"], .extra⟩]⟩))) :=
  rfl

theorem fitted_expiration (q : Creation) :
    (fitted (Document.write q) : Except Setback Form.Expiration) = .error (.answered (invalidPayload
      (Form.Rejection.message ⟨Document.title Form.Expiration, [⟨["id"], .missing⟩,
        ⟨["data"], .extra⟩, ⟨["expires_at"], .extra⟩, ⟨["single_use"], .extra⟩]⟩))) :=
  rfl

section Opening

variable {α : Type} [Signed α]

/-- The request inside a signed creation, if it is made in the name of its signer. -/
theorem openPayload_signedCreation (hq : WritesFlat q) :
    (openPayload (signedCreation seed q) : Except Setback α) =
      (fitted (Document.write q)).bind fun a => if Signed.signer a = q.username then .ok a
        else .error (.answered ⟨403, "Payload username does not match signer"⟩) := by
  unfold openPayload
  rw [show (signedCreation seed q).payload = Json.render Style.compact (Document.write q) from rfl,
    hq.read_render Style.readable_compact]
  rfl

theorem unwrap_signedCreation (hu : q.username.isScalar = true) (hq : WritesFlat q) :
    (unwrap accounts (Client.bodyOf (signedCreation seed q)) : Except Setback α) =
      (authenticate accounts (signedCreation seed q)).bind fun _ =>
        openPayload (signedCreation seed q) := by
  unfold unwrap
  rw [readBody_bodyOf (writesFlat_payloadOf hu hq)]
  rfl

theorem unwrapUnchecked_signedCreation (hu : q.username.isScalar = true) (hq : WritesFlat q) :
    (unwrapUnchecked (Client.bodyOf (signedCreation seed q)) : Except Setback α) =
      openPayload (signedCreation seed q) := by
  unfold unwrapUnchecked
  rw [readBody_bodyOf (writesFlat_payloadOf hu hq)]
  rfl

end Opening

/-- **A server makes the same of two creations**, but for their envelopes. -/
theorem bodiesLike_signedCreation (h : CreationLike q q') (hu : q.username.isScalar = true)
    (hq : WritesFlat q) (hq' : WritesFlat q') (hjudges : Judges accounts seed q)
    (hjudges' : Judges accounts seed q') :
    BodiesLike accounts (Client.bodyOf (signedCreation seed q))
      (Client.bodyOf (signedCreation seed q')) := by
  have hu' : q'.username.isScalar = true := h.username ▸ hu
  -- the signer is found, or is not, in the same way; only the form of creations takes the payload
  have hsigner := authenticate_like h hq hq' hjudges hjudges'
  refine ⟨?registration, ?creation, ?listing, ?expiration⟩
  case registration =>
    rw [unwrapUnchecked_signedCreation hu hq, unwrapUnchecked_signedCreation hu' hq',
      openPayload_signedCreation hq, openPayload_signedCreation hq', fitted_registration,
      fitted_registration]
    rfl
  case creation =>
    rw [unwrap_signedCreation hu hq, unwrap_signedCreation hu' hq', hsigner]
    refine Like.bind (.refl (P := fun _ _ => True) (fun _ => trivial) _) ?_
    intro _ _ _
    rw [openPayload_signedCreation hq, openPayload_signedCreation hq', ← h.username]
    refine (fitted_like h).bind ?_
    intro a a' ha
    show Like CreationLike (if a.username = q.username then .ok a else _)
      (if a'.username = q.username then .ok a' else _)
    rw [← ha.username]
    split
    next => exact .ok ha
    next => exact .error _
  case listing =>
    rw [unwrap_signedCreation hu hq, unwrap_signedCreation hu' hq', hsigner,
      openPayload_signedCreation hq, openPayload_signedCreation hq', fitted_listing, fitted_listing]
    rfl
  case expiration =>
    rw [unwrap_signedCreation hu hq, unwrap_signedCreation hu' hq', hsigner,
      openPayload_signedCreation hq, openPayload_signedCreation hq', fitted_expiration,
      fitted_expiration]
    rfl

end Creations

/-! ## §4. What is signed -/

section Signing

variable {c : Client} {q q' : Creation}

/-- The first text of a creation without a UTF-8 form. -/
theorem firstUnencodable_creation (q : Creation) : Form.firstUnencodable (Document.write q) =
    (Utf8.firstSurrogates q.username).or ((Utf8.firstSurrogates q.data).or
      (Utf8.firstSurrogates q.expiresAt.wireText)) := by
  show Form.firstUnencodable (.object [("username", .text q.username), ("data", .text q.data),
    ("expires_at", .text q.expiresAt.wireText), ("single_use", .bool q.singleUse)]) = _
  unfold Form.firstUnencodable
  simp only [List.findSome?_cons, List.findSome?_nil]
  cases Utf8.firstSurrogates q.username with
  | some e => rfl
  | none =>
    cases Utf8.firstSurrogates q.data with
    | some e => rfl
    | none => cases Utf8.firstSurrogates q.expiresAt.wireText <;> rfl

theorem firstUnencodable_like (h : CreationLike q q') :
    Form.firstUnencodable (Document.write q) = Form.firstUnencodable (Document.write q') := by
  have hdata : Utf8.firstSurrogates q.data = Utf8.firstSurrogates q'.data := by
    rcases h.data.storable with hsame | ⟨hleft, hright⟩
    · rw [hsame]
    · rw [Utf8.firstSurrogates_eq_none_iff.mpr hleft, Utf8.firstSurrogates_eq_none_iff.mpr hright]
  rw [firstUnencodable_creation, firstUnencodable_creation, h.username, hdata, h.expiresAt]

/-- A creation that has a UTF-8 form is written as a flat object. -/
theorem writesFlat_of_encodable (h : Form.firstUnencodable (Document.write q) = none) :
    q.username.isScalar = true ∧ WritesFlat q := by
  rw [firstUnencodable_creation, Option.or_eq_none_iff, Option.or_eq_none_iff,
    Utf8.firstSurrogates_eq_none_iff, Utf8.firstSurrogates_eq_none_iff,
    Utf8.firstSurrogates_eq_none_iff] at h
  obtain ⟨husername, hdata, htime⟩ := h
  exact ⟨husername, .of_values ["username", "data", "expires_at", "single_use"] rfl rfl (by decide)
    ⟨.text husername, .text hdata, .text htime, .bool _⟩⟩

/-- **A client signs both of two creations**, or neither for the same reason. -/
theorem signed_like (h : CreationLike q q') (hname : c.username = some q.username) :
    (∃ e, c.signed q = .error e ∧ c.signed q' = .error e)
    ∨ ∃ seed, c.key = some seed ∧ q.username.isScalar = true ∧ WritesFlat q ∧ WritesFlat q'
      ∧ c.signed q = .ok (signedCreation seed q) ∧ c.signed q' = .ok (signedCreation seed q') := by
  cases hkey : c.key with
  | none =>
    refine .inl ⟨.anonymous, ?_, ?_⟩
    · unfold Client.signed
      rw [hname, hkey]
    · unfold Client.signed
      rw [hname, hkey]
  | some seed =>
    -- both creations have a text that cannot be written, or neither has
    have hsame := firstUnencodable_like h
    cases hfirst : Form.firstUnencodable (Document.write q) with
    | some e =>
      rw [hfirst] at hsame
      refine .inl ⟨.unwritable e, ?_, ?_⟩
      · unfold Client.signed Form.dump
        rw [hname, hkey]
        dsimp only
        rw [hfirst]
      · unfold Client.signed Form.dump
        rw [hname, hkey]
        dsimp only
        rw [← hsame]
    | none =>
      obtain ⟨hu, hq⟩ := writesFlat_of_encodable hfirst
      obtain ⟨_, hq'⟩ := writesFlat_of_encodable (hsame ▸ hfirst)
      exact .inr ⟨seed, rfl, hu, hq, hq', signed_eq hname hkey hq,
        signed_eq (h.username ▸ hname) hkey hq'⟩

end Signing

end SealedDrop.Server
