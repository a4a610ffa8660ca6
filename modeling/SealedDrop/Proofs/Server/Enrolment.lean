/-
  SealedDrop.Proofs.Server.Enrolment
  ──────────────────────────────────
  **WHO IS ENROLLED.**

  A registration is posted like any other request, but `registerEndpoint` checks no
  signature (`unwrapUnchecked`), so all that speaks for it is what it says: a
  name, and the text of a key.  The server enrols whoever offers a key under a
  free name and turns down the rest:

      a key under a free name            200, one account more
      no key, or no text of a key        400
      a key under a name that is taken   403

  Two of its checks can break down, though, and nothing behind them turns that
  into an answer: a text of a key beyond ASCII is not looked at, and a name that
  has no UTF-8 form cannot be looked up.

      Offers              — the payload of a signer holds the text of a key
      OffersKey           — that text is strict base64 of a key
      BreaksRegistration  — what breaks the server down
      Enrolment           — what the answer and the records have to do with it

  Main results:
    • `enrols_registerEndpoint` — how the endpoint ends,
    • `registration_enrols` — every posted registration, in every state,
    • `registration_breaks_down` — a text of a key that breaks the server down.
-/
import SealedDrop.Proofs.Server.Breakdown
import SealedDrop.Proofs.Server.Registration

namespace SealedDrop

open Form (SignedPayload)

/-! ## §1. What a payload offers -/

namespace Form

/-- **A document is a registration iff it is an object with two texts**, whatever else it holds. -/
theorem read_registration_iff {j : Json} {q : Registration} :
    read j = .ok q ↔ ∃ o, j = .object o ∧ Json.find? "username" o = some (.text q.username)
      ∧ Json.find? "public_key" o = some (.text q.publicKey) := by
  obtain ⟨username, publicKey⟩ := q
  rw [read_eq_ok_iff]
  constructor
  · rintro ⟨o, rfl, hfields, _⟩
    obtain ⟨make, key, hmake, hkey, hq⟩ := Checked.both_eq_ok_iff.mp hfields
    obtain ⟨name, hname, rfl⟩ := Result.map_eq_ok_iff.mp hmake
    injection hq with husername hpublicKey
    subst husername hpublicKey
    exact ⟨o, rfl, field_text_eq_ok_iff.mp hname, field_text_eq_ok_iff.mp hkey⟩
  · rintro ⟨o, rfl, hname, hkey⟩
    -- the form is open, so no other member is asked about
    refine ⟨o, rfl, ?_, fun names hclosed => nomatch hclosed⟩
    have hmake : (field text o "username").map Registration.mk = .ok (Registration.mk username) :=
      Result.map_eq_ok_iff.mpr ⟨_, field_text_eq_ok_iff.mpr hname, rfl⟩
    exact Checked.both_eq_ok_iff.mpr ⟨_, _, hmake, field_text_eq_ok_iff.mpr hkey, rfl⟩

end Form

namespace Server

open Http (Request Response)

/-- The payload of a signer holds the text of a key, in the name of the signer. -/
def Offers (p : SignedPayload) (publicKey : Text) : Prop :=
  ∃ o, Json.read p.payload = .ok (.object o)
    ∧ Json.find? "username" o = some (.text p.username)
    ∧ Json.find? "public_key" o = some (.text publicKey)

/-- If the payload of a signer names anybody, it names the signer. -/
def Agrees (p : SignedPayload) : Prop :=
  ∀ o name, Json.read p.payload = .ok (.object o) →
    Json.find? "username" o = some (.text name) → name = p.username

/-- The payload of a signer is nested too deep. -/
def IsDeep (p : SignedPayload) : Prop :=
  ∃ isObject, Json.read p.payload = .error (.tooDeep isObject)

/-- The payload of a signer offers a key. -/
def OffersKey (p : SignedPayload) (key : Bytes) : Prop :=
  ∃ publicKey, Offers p publicKey ∧ IsKey publicKey key

section Payloads

variable {p : SignedPayload} {publicKey publicKey' : Text} {key : Bytes}

/-- A payload offers one key. -/
theorem Offers.unique (h : Offers p publicKey) (h' : Offers p publicKey') :
    publicKey = publicKey' := by
  obtain ⟨o, hread, _, hkey⟩ := h
  obtain ⟨o', hread', _, hkey'⟩ := h'
  rw [hread] at hread'
  injection hread' with hobject
  injection hobject with hmembers
  subst hmembers
  rw [hkey] at hkey'
  injection hkey' with htext
  injection htext

/-- And it is not nested too deep. -/
theorem Offers.not_isDeep (h : Offers p publicKey) : ¬ IsDeep p := by
  obtain ⟨o, hread, _⟩ := h
  rintro ⟨isObject, hdeep⟩
  rw [hread] at hdeep
  cases hdeep

/-- The text of a key that is offered is ASCII. -/
theorem OffersKey.isAscii (h : OffersKey p key) (h' : Offers p publicKey) :
    publicKey.isAscii = true := by
  obtain ⟨publicKey', hoffers, hkey⟩ := h
  rw [h'.unique hoffers]
  exact hkey.spells.isAscii

/-- A registration comes out of a payload iff the payload offers its key in the signer's name. -/
theorem openPayload_eq_ok_iff_offers {q : Form.Registration} :
    openPayload p = .ok q ↔ q.username = p.username ∧ Offers p q.publicKey := by
  rw [openPayload_eq_ok_iff]
  constructor
  · rintro ⟨j, hread, hform, hname⟩
    obtain ⟨o, rfl, husername, hkey⟩ := Form.read_registration_iff.mp hform
    have hname : q.username = p.username := hname
    rw [hname] at husername
    exact ⟨hname, o, hread, husername, hkey⟩
  · rintro ⟨hname, o, hread, husername, hkey⟩
    refine ⟨.object o, hread, Form.read_registration_iff.mpr ⟨o, rfl, ?_, hkey⟩, hname⟩
    rw [hname]
    exact husername

/-- **A payload that agrees with its signer and offers no key is called invalid, unless it is nested too
deep.** -/
theorem openPayload_of_agrees (hagrees : Agrees p) {e : Setback}
    (h : (openPayload p : Except Setback Form.Registration) = .error e) :
    (IsDeep p ∧ e = .breakdown) ∨ (¬ IsDeep p ∧ ∃ why, e = .answered (invalidPayload why)) := by
  cases e with
  | breakdown => exact .inl ⟨openPayload_eq_breakdown_iff.mp h, rfl⟩
  | answered a =>
    have hshallow : ¬ IsDeep p := by
      intro hdeep
      rw [openPayload_eq_breakdown_iff.mpr hdeep] at h
      cases h
    refine .inr ⟨hshallow, ?_⟩
    unfold openPayload at h
    rcases Result.bind_eq_error_iff.mp h with hread | ⟨j, hread, hrest⟩
    · obtain ⟨f, hf, hanswer⟩ := Result.mapError_eq_error_iff.mp hread
      cases f with
      | tooDeep isObject => exact absurd ⟨isObject, hf⟩ hshallow
      | malformed flaw offset => exact ⟨_, hanswer.symm⟩
      | tooManyDigits n => exact ⟨_, hanswer.symm⟩
    have hread := Result.mapError_eq_ok_iff.mp hread
    rcases Result.bind_eq_error_iff.mp hrest with hfit | ⟨q, hfit, hname⟩
    · obtain ⟨r, _, hanswer⟩ := Result.mapError_eq_error_iff.mp hfit
      exact ⟨_, hanswer.symm⟩
    · -- the name inside is that of the signer
      obtain ⟨o, rfl, husername, _⟩ := Form.read_registration_iff.mp (fitted_eq_ok_iff.mp hfit)
      have hsame : Signed.signer q = p.username := hagrees o q.username hread husername
      rw [if_pos hsame] at hname
      cases hname

end Payloads

/-! ## §2. How the endpoint ends -/

/-- How the registration of a signer whose payload agrees with it ends. -/
inductive Enrols (p : SignedPayload) (s : Records) : Reply → Records → Prop where
  | deep (isDeep : IsDeep p) : Enrols p s .breakdown s
  | nothing (shallow : ¬ IsDeep p) (offersNone : ∀ publicKey, ¬ Offers p publicKey) (why : Text) :
      Enrols p s (invalidPayload why).reply s
  | foreignKey {publicKey : Text} (offers : Offers p publicKey)
      (foreign : publicKey.isAscii = false) : Enrols p s .breakdown s
  | badKey {publicKey : Text} (offers : Offers p publicKey) (ascii : publicKey.isAscii = true)
      (unfit : ¬ ∃ key, IsKey publicKey key) :
      Enrols p s (ErrorAnswer.reply ⟨400, "Invalid public key"⟩) s
  | surrogate {key : Bytes} (offers : OffersKey p key) (surrogate : p.username.isScalar = false) :
      Enrols p s .breakdown s
  | taken {key : Bytes} (offers : OffersKey p key) (scalar : p.username.isScalar = true)
      (taken : s.accounts.find? p.username ≠ none) :
      Enrols p s (ErrorAnswer.reply ⟨403, "Username already exists"⟩) s
  | added {key : Bytes} (offers : OffersKey p key) (scalar : p.username.isScalar = true)
      (free : s.accounts.find? p.username = none) :
      Enrols p s (okReply (registeredJson (s.accounts.length + 1)))
        { s with accounts := s.accounts.add p.username key }

/-- **The endpoint ends in one of these ways.** -/
theorem enrols_registerEndpoint {p : SignedPayload} {s : Records} {body : Bytes}
    (hbody : readBody body = .ok p) (hagrees : Agrees p) :
    Enrols p s (registerEndpoint s body).1 (registerEndpoint s body).2 := by
  unfold registerEndpoint
  have hopen : (unwrapUnchecked body : Except Setback Form.Registration) = openPayload p := by
    unfold unwrapUnchecked
    rw [hbody]
    rfl
  rw [hopen]
  cases hq : (openPayload p : Except Setback Form.Registration) with
  | error e =>
    -- a payload that is turned down offers no key in the signer's name
    have hnone : ∀ publicKey, ¬ Offers p publicKey := by
      intro publicKey hoffers
      have hok := openPayload_eq_ok_iff_offers (q := ⟨p.username, publicKey⟩).mpr ⟨rfl, hoffers⟩
      rw [hok] at hq
      cases hq
    rcases openPayload_of_agrees hagrees hq with ⟨hdeep, rfl⟩ | ⟨hshallow, why, rfl⟩
    · exact .deep hdeep
    · exact .nothing hshallow hnone why
  | ok q =>
    obtain ⟨username, publicKey⟩ := q
    obtain ⟨hname, hoffers⟩ := openPayload_eq_ok_iff_offers.mp hq
    obtain rfl : username = p.username := hname
    dsimp only
    -- from here on `register` decides, and `Registering` lists its ends
    have hregistering := registering_register s.accounts p.username publicKey
    generalize register s.accounts p.username publicKey = result at hregistering
    cases hregistering with
    | foreignKey foreign => exact .foreignKey hoffers foreign
    | badKey ascii unfit => exact .badKey hoffers ascii unfit
    | unencodable isKey surrogate fault => exact .surrogate ⟨_, hoffers, isKey⟩ surrogate
    | nameTaken isKey scalar taken => exact .taken ⟨_, hoffers, isKey⟩ scalar taken
    | added isKey scalar free => exact .added ⟨_, hoffers, isKey⟩ scalar free

/-! ## §3. Every posted registration -/

/-- What breaks the server down: a payload that is nested too deep, a text of a key beyond ASCII, and a
key under a name without a UTF-8 form. -/
inductive BreaksRegistration (p : SignedPayload) : Prop where
  | deep (isDeep : IsDeep p)
  | foreignKey {publicKey : Text} (offers : Offers p publicKey)
      (foreign : publicKey.isAscii = false)
  | surrogate {key : Bytes} (offers : OffersKey p key) (surrogate : p.username.isScalar = false)

/-- What the answer to a registration, and the records before and after it, have to do with what its
payload offers. -/
structure Enrolment (p : SignedPayload) (s : Records) (a : Response) (s' : Records) : Prop where
  /-- It is granted exactly when a key is offered under a free name that can be written. -/
  granted : a.status = 200 ↔ (∃ key, OffersKey p key) ∧ p.username.isScalar = true
    ∧ s.accounts.find? p.username = none
  /-- One account is then added, with that name and that key, and the answer tells its number. -/
  added : a.status = 200 → ∃ key, OffersKey p key
    ∧ s' = { s with accounts := s.accounts ++ [⟨s.accounts.length + 1, p.username, key⟩] }
    ∧ a.body = .json (registeredJson (s.accounts.length + 1))
  broken : a.status = 500 ↔ BreaksRegistration p
  /-- Otherwise no key is offered, or the name is taken. -/
  refused : a.status ≠ 200 → a.status ≠ 500 →
    (a.status = 400 ∧ ¬ ∃ key, OffersKey p key)
    ∨ (a.status = 403 ∧ (∃ key, OffersKey p key) ∧ s.accounts.find? p.username ≠ none)
  /-- What is not granted leaves the records as they are. -/
  kept : a.status ≠ 200 → s' = s

section Enrolments

variable {p : SignedPayload} {s s' : Records} {reply : Reply}

/-- A key that is offered under a name that can be written breaks nothing down. -/
theorem not_breaksRegistration {key : Bytes} (hkey : OffersKey p key)
    (hscalar : p.username.isScalar = true) : ¬ BreaksRegistration p := by
  rintro (hdeep | ⟨hoffers, hforeign⟩ | ⟨_, hsurrogate⟩)
  · obtain ⟨publicKey, hoffers, _⟩ := hkey
    exact hoffers.not_isDeep hdeep
  · rw [hkey.isAscii hoffers] at hforeign
    cases hforeign
  · rw [hscalar] at hsurrogate
    cases hsurrogate

/-- A text that is offered and is no key is the only one. -/
theorem not_offersKey {publicKey : Text} (hoffers : Offers p publicKey)
    (hunfit : ¬ ∃ key, IsKey publicKey key) : ¬ ∃ key, OffersKey p key := by
  rintro ⟨key, publicKey', hoffers', hkey⟩
  obtain rfl := hoffers.unique hoffers'
  exact hunfit ⟨key, hkey⟩

/-- **A registration is granted exactly when the payload offers a key under a free name.** -/
theorem Enrols.granted_iff (h : Enrols p s reply s') :
    reply.status = 200 ↔ (∃ key, OffersKey p key) ∧ p.username.isScalar = true
      ∧ s.accounts.find? p.username = none := by
  constructor
  · intro hstatus
    -- every other way ends in another status
    cases h with
    | added offers scalar free => exact ⟨⟨_, offers⟩, scalar, free⟩
    | nothing => exact absurd hstatus (show ¬ 400 = 200 by decide)
    | deep | foreignKey | badKey | surrogate | taken => exact absurd hstatus (by decide)
  · rintro ⟨⟨key, hkey⟩, hscalar, hfree⟩
    have hsound := not_breaksRegistration hkey hscalar
    -- and every other way needs what a key under a free name rules out
    cases h with
    | deep isDeep => exact absurd (.deep isDeep) hsound
    | nothing _ offersNone =>
      obtain ⟨publicKey, hoffers, _⟩ := hkey
      exact absurd hoffers (offersNone publicKey)
    | foreignKey offers foreign => exact absurd (.foreignKey offers foreign) hsound
    | badKey offers _ unfit => exact absurd ⟨key, hkey⟩ (not_offersKey offers unfit)
    | surrogate offers surrogate => exact absurd (.surrogate offers surrogate) hsound
    | taken _ _ taken => exact absurd hfree taken
    | added => rfl

/-- **It ends in a 500 exactly under `BreaksRegistration`.** -/
theorem Enrols.broken_iff (h : Enrols p s reply s') :
    reply.status = 500 ↔ BreaksRegistration p := by
  constructor
  · intro hstatus
    cases h with
    | deep isDeep => exact .deep isDeep
    | foreignKey offers foreign => exact .foreignKey offers foreign
    | surrogate offers surrogate => exact .surrogate offers surrogate
    | nothing => exact absurd hstatus (show ¬ 400 = 500 by decide)
    | badKey | taken => exact absurd hstatus (by decide)
    | added => exact absurd hstatus (show ¬ 200 = 500 by decide)
  · intro hbreaks
    -- the ways that end in an answer are those in which nothing breaks
    cases h with
    | deep | foreignKey | surrogate => rfl
    | nothing shallow offersNone =>
      rcases hbreaks with hdeep | ⟨hoffers, _⟩ | ⟨⟨publicKey, hoffers, _⟩, _⟩
      · exact absurd hdeep shallow
      · exact absurd hoffers (offersNone _)
      · exact absurd hoffers (offersNone publicKey)
    | badKey offers ascii unfit =>
      rcases hbreaks with hdeep | ⟨hoffers, hforeign⟩ | ⟨hkey, _⟩
      · exact absurd hdeep offers.not_isDeep
      · rw [hoffers.unique offers, ascii] at hforeign
        cases hforeign
      · exact absurd ⟨_, hkey⟩ (not_offersKey offers unfit)
    | taken offers scalar _ => exact absurd hbreaks (not_breaksRegistration offers scalar)
    | added offers scalar _ => exact absurd hbreaks (not_breaksRegistration offers scalar)

/-- **However a registration ends, its answer and the records tell what its payload offers.** -/
theorem Enrols.enrolment (h : Enrols p s reply s') (r : Request) :
    Enrolment p s (reply.answerTo r) s' := by
  have hstatus := Reply.status_answerTo r reply
  -- every part is read off the list of ends
  refine ⟨?granted, ?added, ?broken, ?refused, ?kept⟩
  case granted =>
    rw [hstatus]
    exact h.granted_iff
  case broken =>
    rw [hstatus]
    exact h.broken_iff
  case added =>
    rw [hstatus]
    intro hgranted
    cases h with
    | added offers => exact ⟨_, offers, rfl, rfl⟩
    | nothing => exact absurd hgranted (show ¬ 400 = 200 by decide)
    | deep | foreignKey | badKey | surrogate | taken => exact absurd hgranted (by decide)
  case refused =>
    rw [hstatus]
    intro hnotGranted hnotBroken
    cases h with
    | deep | foreignKey | surrogate => exact absurd rfl hnotBroken
    | added => exact absurd rfl hnotGranted
    | nothing _ offersNone =>
      refine .inl ⟨rfl, ?_⟩
      rintro ⟨key, publicKey, hoffers, _⟩
      exact offersNone publicKey hoffers
    | badKey offers _ unfit => exact .inl ⟨rfl, not_offersKey offers unfit⟩
    | taken offers _ taken => exact .inr ⟨rfl, ⟨_, offers⟩, taken⟩
  case kept =>
    rw [hstatus]
    intro hnotGranted
    cases h with
    | added => exact absurd rfl hnotGranted
    | _ => rfl

variable {τ : Type} [Sub τ] [LT τ] [DecidableLT τ] [OfNat τ 1]

/-- **Who is enrolled**: for every registration that is posted and passes the limiter, in every state,
with the payload of a signer in its body that names, if anybody, the signer. -/
theorem registration_enrols (policy : RateLimit.Policy τ) (c : Context) (s : State τ)
    (d : Delivery τ) (hposts : Posts d.request .register) (hadmitted : Admits policy s d)
    (p : SignedPayload) (hbody : readBody d.request.body = .ok p) (hagrees : Agrees p) :
    Enrolment p s.records (serve policy c s d).1 (serve policy c s d).2.records := by
  rcases serve_cases policy c s d with ⟨_, hanswer, hrecords⟩ | ⟨hrefused, _⟩
  · rw [hanswer, hrecords, respond_posted s.records (by decide) hposts]
    exact (enrols_registerEndpoint hbody hagrees).enrolment d.request
  · exact absurd hadmitted hrefused

end Enrolments

/-! ## §4. Registrations that are written by their form -/

/-- The payload of a registration, which nobody has signed. -/
def enrolling (q : Form.Registration) : SignedPayload := ⟨textOf q, [], q.username⟩

/-- **A registration that is written by its form agrees with its signer and offers its key.** -/
theorem offers_enrolling {q : Form.Registration} (hq : Form.WritesFlat q) :
    Agrees (enrolling q) ∧ Offers (enrolling q) q.publicKey := by
  have hread : Json.read (enrolling q).payload = .ok (Form.Document.write q) :=
    hq.read_render Json.Style.readable_compact
  constructor
  · intro o name hobject hname
    rw [hread] at hobject
    injection hobject with hobject
    injection hobject with hmembers
    subst hmembers
    injection hname with hname
    injection hname with hname
    exact hname.symm
  · exact ⟨_, hread, rfl, rfl⟩

/-- It is posted. -/
def posting (q : Form.Registration) : Delivery Int :=
  ⟨carrying "/auth/register" (.ok (enrolling q)), none, 0⟩

/-- The server reads the payload that is posted. -/
theorem readBody_posting {q : Form.Registration} (hq : Form.WritesFlat q)
    (hname : q.username.isScalar = true) :
    readBody (posting q).request.body = .ok (enrolling q) :=
  readBody_bodyOf (Form.writesFlat_payload hq.isScalar rfl hname)

/-- It is posted to the route of registrations. -/
theorem posts_posting (q : Form.Registration) : Posts (posting q).request .register :=
  ⟨rfl, .inl rfl⟩

/-- The limiter admits the first request. -/
theorem admits_posting (q : Form.Registration) : Admits ⟨10, 30⟩ State.empty (posting q) := by
  show (RateLimit.step _ [] ⟨none, "POST", 0⟩).1 = true
  decide +kernel

/-- The first client is enrolled, and a text of a key with an accent breaks the server down. -/
theorem registration_enrols_alice :
    let o := serve ⟨10, 30⟩ firstContext State.empty (posting aliceRegistration)
    let o' := serve ⟨10, 30⟩ firstContext State.empty (posting ⟨"alice", "é"⟩)
    o.1.status = 200 ∧ (∃ key, o.2.records.accounts = [⟨1, "alice", key⟩])
      ∧ o'.1.status = 500 ∧ o'.2.records = Records.empty := by
  have hflat : Form.WritesFlat aliceRegistration :=
    Form.writesFlat_registration (by decide) (Text.isScalar_of_isAscii (Base64.isAscii_encode _))
  have hflat' : Form.WritesFlat (⟨"alice", "é"⟩ : Form.Registration) :=
    Form.writesFlat_registration (by decide) (by decide)
  obtain ⟨hagrees, hoffers⟩ := offers_enrolling hflat
  obtain ⟨hagrees', hoffers'⟩ := offers_enrolling hflat'
  have henrolled := registration_enrols ⟨10, 30⟩ firstContext State.empty
    (posting aliceRegistration) (posts_posting _) (admits_posting _) _
    (readBody_posting hflat (by decide)) hagrees
  have hbroken := registration_enrols ⟨10, 30⟩ firstContext State.empty (posting ⟨"alice", "é"⟩)
    (posts_posting _) (admits_posting _) _ (readBody_posting hflat' (by decide)) hagrees'
  have hkey : IsKey aliceRegistration.publicKey (Ed25519.publicKey (List.replicate 32 7)) :=
    ⟨Base64.spells_encode _, Ed25519.length_publicKey _⟩
  have hgranted := henrolled.granted.mpr ⟨⟨_, _, hoffers, hkey⟩, by decide, rfl⟩
  obtain ⟨key, _, hrecords, _⟩ := henrolled.added hgranted
  have hstatus' := hbroken.broken.mpr (.foreignKey hoffers' (by decide))
  have hrefused := hbroken.kept (by rw [hstatus']; decide)
  exact ⟨hgranted, ⟨key, congrArg Records.accounts hrecords⟩, hstatus', hrefused⟩

/-- The accent breaks the server down. -/
theorem status_posting_accent :
    (serve ⟨10, 30⟩ firstContext State.empty (posting ⟨"alice", "é"⟩)).1.status = 500 := by
  set_option maxRecDepth 100000 in decide +kernel

/-- **The text of a key can break the server down**: not every registration that agrees with its signer
is granted or turned down. -/
theorem registration_breaks_down :
    ¬ ∀ (policy : RateLimit.Policy Int) (c : Context) (s : State Int) (d : Delivery Int)
        (p : SignedPayload),
      Posts d.request .register → Admits policy s d → readBody d.request.body = .ok p → Agrees p →
      (serve policy c s d).1.status ∈ [200, 400, 403] := by
  intro h
  have hflat : Form.WritesFlat (⟨"alice", "é"⟩ : Form.Registration) :=
    Form.writesFlat_registration (by decide) (by decide)
  have hanswered := h ⟨10, 30⟩ firstContext State.empty (posting ⟨"alice", "é"⟩) _ (posts_posting _)
    (admits_posting _) (readBody_posting hflat (by decide)) (offers_enrolling hflat).1
  rw [status_posting_accent] at hanswered
  exact absurd hanswered (by decide)

end Server

end SealedDrop
