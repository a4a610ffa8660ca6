/-
  SealedDrop.Proofs.Client.Signer
  ───────────────────────────────
  **WHAT AN OWNER SENDS, AND WHERE IT ARRIVES.**

  Whatever an owner does, be it `Client.register`, `share`, `list` or `expire`,
  the client sends one payload: in the owner's name, and signed with the owner's
  key.  Redirects may send it on, so the server that it arrives at is in some
  state that earlier requests led to.  These two facts are all that an account
  needs to know of an owner:

      Signs   — a payload in a name, signed with a key
      Serves  — a server goes from state to state, request by request
      Sends   — what an operation leads a server through, and what it exchanged

  Accounts are never changed on the way, so whoever keeps the key that a name is
  registered with is trusted at every state of it.

  Main results:
    • `register_sends`, `share_sends`, `list_sends`, `expire_sends` — every operation of an owner,
    • `readBody_of_signs`, `authenticate_of_signs` — a signed payload is read and accepted,
    • `keeps_of_serves` — accounts are kept,
    • `added_of_serves` — an account that a registration adds has the public half of the key.
-/
import Mathlib.Logic.Relation
import SealedDrop.Proofs.Client.Sealing
import SealedDrop.Proofs.Client.Signing
import SealedDrop.Proofs.Server.Registration

namespace SealedDrop.Client

open Form (Document SignedPayload)

/-! ## §1. Signed payloads -/

/-- A payload is made in a name and signed with a key. -/
structure Signs (u : Text) (key : Bytes) (p : SignedPayload) : Prop where
  /-- It carries the name. -/
  username : p.username = u
  /-- The name has a UTF-8 form. -/
  scalar : u.isScalar = true
  /-- The signature is that of the key. -/
  signature : Signature.ofText key p.payload = .ok p.signature

/-- A record is written with a text among its values. -/
def Writes {α : Type} [Document α] (q : α) (t : Text) : Prop :=
  ∃ ms name, Document.write q = .object ms ∧ (name, Json.text t) ∈ ms

/-- What a record is written with has a UTF-8 form, if the record has one. -/
theorem isScalar_of_dump {α : Type} [Document α] {q : α} {t dumped : Text} (hq : Writes q t)
    (h : Form.dump q = .ok dumped) : t.isScalar = true := by
  obtain ⟨ms, name, hwrite, hmem⟩ := hq
  unfold Form.dump at h
  dsimp only at h
  rw [hwrite] at h
  split at h
  next => cases h
  next hnone => exact Utf8.firstSurrogates_eq_none_iff.mp (List.findSome?_eq_none_iff.mp hnone _ hmem)

/-- **A client signs in its name, with its key.** -/
theorem signs_of_signed {α : Type} [Document α] {c : Client} {u : Text} {key : Bytes} {q : α}
    {p : SignedPayload} (hname : c.username = some u) (hkey : c.key = some key) (hq : Writes q u)
    (h : c.signed q = .ok p) : Signs u key p := by
  have hscalar := isScalar_of_dump hq (dump_of_signed h)
  unfold signed at h
  rw [hname, hkey] at h
  dsimp only at h
  split at h
  next => cases h
  next =>
    split at h
    next => cases h
    next hsignature =>
      injection h with h
      subst h
      exact ⟨rfl, hscalar, hsignature⟩

/-! ## §2. Requests and the server on their way -/

section Requests

variable {σ : Type} {serve : Server σ} {P : Option SignedPayload → Prop} {s s' : σ}

/-- A server goes from one state to another as it answers requests with payloads of some kind. -/
def Serves (serve : Server σ) (P : Option SignedPayload → Prop) : σ → σ → Prop :=
  Relation.ReflTransGen fun s s' =>
    ∃ host target payload, P payload ∧ s' = (serve s (requestOf host target payload)).2

/-- What is kept by every request with a payload of some kind is kept all the way. -/
theorem Serves.keeps {R : σ → Prop} (h : Serves serve P s s')
    (hstep : ∀ s host target payload, P payload → R s →
      R (serve s (requestOf host target payload)).2) (hs : R s) : R s' := by
  induction h with
  | refl => exact hs
  | tail _ hone ih =>
    obtain ⟨host, target, payload, hP, rfl⟩ := hone
    exact hstep _ host target payload hP ih

/-- An exchange with a server that has come from some state: its payload is of the kind, and it was
answered with its status. -/
def Arrives (serve : Server σ) (P : Option SignedPayload → Prop) (s : σ) (x : Exchange) : Prop :=
  P x.payload ∧ ∃ t host, Serves serve P s t
    ∧ (serve t (requestOf host x.target x.payload)).1.status = x.status

/-- An exchange on the way from a later state is one on the way from an earlier one. -/
theorem Arrives.of_serves {x : Exchange} (hs : Serves serve P s s') (h : Arrives serve P s' x) :
    Arrives serve P s x := by
  obtain ⟨hP, t, host, hserves, hstatus⟩ := h
  exact ⟨hP, t, host, hs.trans hserves, hstatus⟩

/-- What an operation leads a server through, and what it exchanged. -/
structure Sends {α : Type} (serve : Server σ) (P : Option SignedPayload → Prop) (s : σ)
    (o : Outcome σ α) : Prop where
  /-- The server comes to the state after it by answering. -/
  serves : Serves serve P s o.state
  /-- Every exchange is one on this way. -/
  arrives : ∀ x ∈ o.exchanges, Arrives serve P s x

variable {α β : Type}

theorem sends_unsent (e : Fault) : Sends serve P s (.unsent s e : Outcome σ α) :=
  ⟨.refl, by simp [Outcome.unsent]⟩

/-- Reading the answer sends nothing. -/
theorem Sends.andThen {o : Outcome σ α} (h : Sends serve P s o) (f : α → Except Fault β) :
    Sends serve P s (o.andThen f) :=
  ⟨h.serves, h.arrives⟩

/-- **An exchange leads the server through its requests.** -/
theorem exchange_sends {payload : Option SignedPayload} (hP : P payload) (host : Text) (n : Nat)
    (s : σ) (target : Text) : Sends serve P s (exchange serve host payload n s target) := by
  -- the first request: it leads one step on, and is answered at the state it meets
  have hstep : ∀ s target, Serves serve P s (serve s (requestOf host target payload)).2 :=
    fun s target => .single ⟨host, target, payload, hP, rfl⟩
  have hdone : ∀ s target, Arrives serve P s ⟨(requestOf host target payload).method, target,
      payload, (serve s (requestOf host target payload)).1.status⟩ :=
    fun s target => ⟨hP, s, host, .refl, rfl⟩
  -- along the redirects that are left
  induction n generalizing s target with
  | zero =>
    unfold exchange
    dsimp only
    split
    next => exact ⟨hstep s target, by simpa using hdone s target⟩
    next => exact ⟨hstep s target, by simpa using hdone s target⟩
  | succ n ih =>
    unfold exchange
    dsimp only
    split
    next => exact ⟨hstep s target, by simpa using hdone s target⟩
    next location hlocation =>
      obtain ⟨hserves, harrives⟩ := ih (serve s (requestOf host target payload)).2
        (Http.redirectTarget location)
      refine ⟨(hstep s target).trans hserves, ?_⟩
      intro x hx
      rcases List.mem_cons.mp hx with rfl | hx
      · exact hdone s target
      · exact (harrives x hx).of_serves (hstep s target)

/-- `send` sends one payload, to every address it is redirected to. -/
theorem send_sends {payload : Option SignedPayload} (hP : P payload) (c : Client) (s : σ)
    (path : Text) : Sends serve P s (c.send serve s path payload) := by
  unfold send
  split
  next => exact sends_unsent _
  next => exact (exchange_sends hP _ _ _ _).andThen _

/-- `post` sends the request as the client signs it. -/
theorem post_sends [Document α] {c : Client} {q : α} (hP : ∀ p, c.signed q = .ok p → P (some p))
    (s : σ) (path : Text) : Sends serve P s (c.post serve s path q) := by
  unfold post
  split
  next => exact sends_unsent _
  next p hp => exact send_sends (hP p hp) c s path

end Requests

/-! ## §3. Operations of an owner -/

/-- A payload that an owner signs. -/
def BySigner (u : Text) (key : Bytes) (payload : Option SignedPayload) : Prop :=
  ∃ p, payload = some p ∧ Signs u key p

/-- The request that registers a name with the public half of a key. -/
def registrationOf (u : Text) (key : Bytes) : Form.Registration :=
  ⟨u, Base64.encode (Ed25519.publicKey key)⟩

/-- A payload with which an owner registers. -/
def ByRegistrant (u : Text) (key : Bytes) (payload : Option SignedPayload) : Prop :=
  ∃ p, payload = some p ∧ Signs u key p ∧ Form.dump (registrationOf u key) = .ok p.payload

section Owner

variable {σ : Type} {serve : Server σ} {c : Client} {u : Text} {key : Bytes}

/-- A client with a name signs in that name. -/
theorem author_eq (hname : c.username = some u) (form : Text) : c.author form = .ok u := by
  unfold author
  rw [hname]

/-- **A registration sends the name and the public half of the key.** -/
theorem register_sends (hname : c.username = some u) (hkey : c.key = some key) (s : σ) :
    Sends serve (ByRegistrant u key) s (c.register serve s) := by
  unfold register
  rw [hkey]
  dsimp only
  rw [author_eq hname]
  refine (post_sends ?_ s _).andThen _
  intro p hp
  exact ⟨p, rfl, signs_of_signed hname hkey ⟨_, _, rfl, List.mem_cons_self⟩ hp, dump_of_signed hp⟩

/-- A request of an owner is sent with the owner's signature. -/
theorem post_sends_signed {α : Type} [Document α] {q : α} (hname : c.username = some u)
    (hkey : c.key = some key) (hq : Writes q u) (s : σ) (path : Text) :
    Sends serve (BySigner u key) s (c.post serve s path q) :=
  post_sends (fun p hp => ⟨p, rfl, signs_of_signed hname hkey hq hp⟩) s path

/-- `share` sends what the client signs, whatever becomes of it. -/
theorem share_sends (hname : c.username = some u) (hkey : c.key = some key) (n : Int) (s : σ)
    (d : Deposit) (e : Entropy) :
    Sends serve (BySigner u key) s (c.share n serve s d e).1 := by
  cases hpassword : d.password.isEmpty with
  | true =>
    unfold share
    rw [if_pos hpassword]
    exact sends_unsent _
  | false =>
    rw [share_eq_deliver c n serve s d e hpassword]
    unfold deliver
    cases (Envelope.wrapFresh n d.plaintext d.password e).1 with
    | error f => exact sends_unsent _
    | ok data =>
      dsimp only
      rw [author_eq hname]
      exact (post_sends_signed hname hkey ⟨_, _, rfl, List.mem_cons_self⟩ s _).andThen _

/-- So does `list`. -/
theorem list_sends (hname : c.username = some u) (hkey : c.key = some key) (s : σ) :
    Sends serve (BySigner u key) s (c.list serve s) := by
  unfold list
  rw [author_eq hname]
  exact post_sends_signed hname hkey ⟨_, _, rfl, List.mem_cons_self⟩ s _

/-- And so does `expire`. -/
theorem expire_sends (hname : c.username = some u) (hkey : c.key = some key) (s : σ) (id : Text) :
    Sends serve (BySigner u key) s (c.expire serve s id) := by
  unfold expire
  rw [author_eq hname]
  exact (post_sends_signed hname hkey ⟨_, _, rfl, List.mem_cons_self⟩ s _).andThen _

end Owner

end SealedDrop.Client

namespace SealedDrop.Server

open Client (BySigner ByRegistrant Serves Signs registrationOf requestOf)
open Form (SignedPayload)

/-! ## §4. What the service makes of it -/

section Verification

variable {accounts : Accounts} {u : Text} {key : Bytes} {p : SignedPayload} {a : Account}

/-- What a signature is made of. -/
theorem signature_eq (h : Signs u key p) :
    p.payload.isScalar = true
      ∧ p.signature = Base64.encode (Ed25519.sign key (p.payload.flatMap Utf8.encodePoint)) := by
  obtain ⟨message, hmessage, hsignature⟩ := Result.map_eq_ok_iff.mp h.signature
  obtain ⟨hscalar, rfl⟩ := Utf8.encode_eq_ok_iff.mp hmessage
  exact ⟨hscalar, hsignature.symm⟩

/-- **A payload that was signed is read out of the body that carries it.** -/
theorem readBody_of_signs (h : Signs u key p) : readBody (Client.bodyOf p) = .ok p := by
  obtain ⟨hscalar, hsignature⟩ := signature_eq h
  refine readBody_bodyOf (Form.writesFlat_payload hscalar ?_ (h.username.symm ▸ h.scalar))
  rw [hsignature]
  exact Text.isScalar_of_isAscii (Base64.isAscii_encode _)

/-- **Its signer is accepted**, if the name is registered with the public half of the key. -/
theorem authenticate_of_signs (h : Signs u key p) (ha : accounts.find? u = some a)
    (hpublic : a.publicKey = Ed25519.publicKey key) (hsound : SignsSoundly key p.payload) :
    authenticate accounts p = .ok () := by
  obtain ⟨hscalar, hsignature⟩ := signature_eq h
  have hsize : a.publicKey.length = Signature.keySize := by
    rw [hpublic]
    exact Ed25519.length_publicKey key
  have hcheck : Signature.check a.publicKey p.signature p.payload = .ok () := by
    rw [hsignature, hpublic]
    rw [hpublic] at hsize
    exact Signature.check_eq_ok_iff.mpr ⟨hsize, Base64.isAscii_encode _, _, _,
      Base64.decode?_encode _, Utf8.encode_of_isScalar hscalar, hsound⟩
  rw [authenticate_eq_ok_iff, h.username]
  exact ⟨h.scalar, a, ha, hcheck⟩

end Verification

section Accounts

variable {τ : Type} [Sub τ] [LT τ] [DecidableLT τ] [OfNat τ 1] {policy : RateLimit.Policy τ}
  {c : Context} {client : Option Text} {tick : τ} {s s' : State τ}
  {P : Option SignedPayload → Prop}

/-- **A service keeps its accounts**, whatever it answers. -/
theorem keeps_of_serves (h : Serves (fun s q => serve policy c s ⟨q, client, tick⟩) P s s') :
    Keeps s.records.accounts s'.records.accounts := by
  refine h.keeps (R := fun t => Keeps s.records.accounts t.records.accounts) ?_ (.refl _)
  intro t host target payload _ ht
  exact ht.trans (serve_effect policy c t _).keeps

variable {u : Text} {key : Bytes}

/-- What a registrant sends asks for the public half of the key. -/
theorem eq_registrationOf {p : SignedPayload} {q : Form.Registration} (hsigns : Signs u key p)
    (hdump : Form.dump (registrationOf u key) = .ok p.payload)
    (h : unwrapUnchecked (Client.bodyOf p) = .ok q) : q = registrationOf u key := by
  have hflat : Form.WritesFlat (registrationOf u key) := Form.writesFlat_registration hsigns.scalar
    (Text.isScalar_of_isAscii (Base64.isAscii_encode _))
  have htext : textOf (registrationOf u key) = p.payload :=
    Except.ok.inj (hflat.dump.symm.trans hdump)
  unfold unwrapUnchecked at h
  rw [readBody_of_signs hsigns] at h
  obtain ⟨j, hj, hq, _⟩ := openPayload_eq_ok_iff.mp h
  -- the text is read as the object that was written, and the object as the registration
  rw [← htext] at hj
  obtain rfl := Except.ok.inj ((hflat.read_render Json.Style.readable_compact).symm.trans hj)
  exact (Except.ok.inj hq).symm

/-- An account of this name is an old one, or has this key. -/
def OldOrKeyed (accounts : Accounts) (u : Text) (key : Bytes) (a : Account) : Prop :=
  a ∈ accounts ∨ a.username = u ∧ a.publicKey = Ed25519.publicKey key

/-- **An account that a registrant adds has the public half of the key.** -/
theorem added_of_serves
    (h : Serves (fun s q => serve policy c s ⟨q, client, tick⟩) (ByRegistrant u key) s s') :
    ∀ a ∈ s'.records.accounts, OldOrKeyed s.records.accounts u key a := by
  refine h.keeps
    (R := fun t => ∀ a ∈ t.records.accounts, OldOrKeyed s.records.accounts u key a) ?_
    fun a ha => .inl ha
  rintro t host target _ ⟨p, rfl, hsigns, hdump⟩ ht a ha
  rcases serve_cases policy c t ⟨requestOf host target (some p), client, tick⟩ with
    ⟨_, _, hrecords⟩ | ⟨_, _, hrecords⟩
  · rw [hrecords] at ha
    have hregisters := respond_registers c t.records (requestOf host target (some p))
    rcases hregisters.once with hsame | ⟨x, hx⟩
    · rw [hsame] at ha
      exact ht a ha
    · rw [hx] at ha
      rcases List.mem_append.mp ha with ha | ha
      · exact ht a ha
      · obtain rfl := List.mem_singleton.mp ha
        obtain ⟨q, hq, hname, hnew⟩ := hregisters.asked a hx
        obtain rfl := eq_registrationOf hsigns hdump hq
        have hkey := hnew.decoded
        rw [show (registrationOf u key).publicKey = Base64.encode (Ed25519.publicKey key) from rfl,
          Base64.decode?_encode] at hkey
        exact .inr ⟨hname, (Option.some.inj hkey).symm⟩
  · rw [hrecords] at ha
    exact ht a ha

end Accounts

end SealedDrop.Server
