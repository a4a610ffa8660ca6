/-
  SealedDrop.Proofs.Server.Twin
  ─────────────────────────────
  **TWO SERVERS WITH OTHER ENVELOPES.**

  Two servers are twins (`State.Twin`) if their records differ in envelopes at
  most, and these are of the same length.  A request whose body can at most hold
  another envelope is answered by both with the same status and headers, and
  with the same body but for envelopes (`ResponseLike`); and afterwards they are
  twins again.

  Bodies are compared by what the endpoints make of them (`BodiesLike`), so
  neither the router nor the endpoints need to know where a body comes from.

  Main results:
    • `runRoute_like`, `respond_like`, `serve_like` — endpoint, router and limiter,
    • `serve_accounts` — who has an account changes with registrations only.
-/
import SealedDrop.Proofs.Server.Registration
import SealedDrop.Proofs.Store.Twin

namespace SealedDrop.Server

open Http (Request Response)
open Result (Like)
open Store (Shown Table Twin View)

/-! ## §1. Twins -/

/-- Two records are twins: they differ in envelopes at most, and these are twins. -/
structure Records.Twin (s s' : Records) : Prop where
  accounts : s.accounts = s'.accounts
  secrets : s.secrets.Like Store.Twin s'.secrets
  issued : s.issued = s'.issued

theorem Records.Twin.refl (s : Records) : s.Twin s := ⟨rfl, .refl s.secrets, rfl⟩

/-- Two servers are twins: their records are, and the limiter is in the same state. -/
structure State.Twin {τ : Type} (s s' : State τ) : Prop where
  records : s.records.Twin s'.records
  lanes : s.lanes = s'.lanes

theorem State.Twin.refl {τ : Type} (s : State τ) : s.Twin s := ⟨.refl s.records, rfl⟩

/-- Two replies are alike: the same, or successes that show the same but for envelopes. -/
inductive Reply.Like : Reply → Reply → Prop where
  | same (a : Reply) : Reply.Like a a
  | shown {j j' : Json} (h : Shown j j') : Reply.Like (okReply j) (okReply j')

/-- Two responses are alike: the same, or successes with the same headers that show the same but for
envelopes. -/
inductive ResponseLike : Response → Response → Prop where
  | same (a : Response) : ResponseLike a a
  | shown (hs : Http.Headers) {j j' : Json} (h : Shown j j') :
      ResponseLike ⟨200, hs, .json j⟩ ⟨200, hs, .json j'⟩

/-- Responses that are alike have the same status. -/
theorem ResponseLike.status {a a' : Response} (h : ResponseLike a a') : a.status = a'.status := by
  cases h with
  | same => rfl
  | shown => rfl

/-- Two creations are alike: they differ in their envelopes at most, and these are twins. -/
structure CreationLike (q q' : Form.Creation) : Prop where
  username : q.username = q'.username
  data : Store.Twin q.data q'.data
  expiresAt : q.expiresAt = q'.expiresAt
  singleUse : q.singleUse = q'.singleUse

theorem CreationLike.refl (q : Form.Creation) : CreationLike q q := ⟨rfl, .refl q.data, rfl, rfl⟩

/-- Two bodies are alike to a server with these accounts: whatever an endpoint looks for in them, it
makes the same of both, or creations that differ in their envelopes at most. -/
structure BodiesLike (accounts : Accounts) (b b' : Bytes) : Prop where
  registration : (unwrapUnchecked b : Except Setback Form.Registration) = unwrapUnchecked b'
  creation : Like CreationLike (unwrap accounts b) (unwrap accounts b')
  listing : (unwrap accounts b : Except Setback Form.Listing) = unwrap accounts b'
  expiration : (unwrap accounts b : Except Setback Form.Expiration) = unwrap accounts b'

theorem BodiesLike.refl (accounts : Accounts) (b : Bytes) : BodiesLike accounts b b :=
  ⟨rfl, .refl CreationLike.refl _, rfl, rfl⟩

/-! ## §2. Endpoints -/

/-- Two ends of a request are alike: the replies are, and the records are twins. -/
structure EndsAlike (o o' : Reply × Records) : Prop where
  reply : o.1.Like o'.1
  records : o.2.Twin o'.2

section Endpoints

variable {c : Context} {s s' : Records} {b b' : Bytes}

/-- The same reply, and nothing written. -/
theorem EndsAlike.unchanged (hs : s.Twin s') (a : Reply) : EndsAlike (a, s) (a, s') := ⟨.same a, hs⟩

/-- `registerEndpoint` ends alike on twins. -/
theorem registerEndpoint_like (hs : s.Twin s') (hb : BodiesLike s.accounts b b') :
    EndsAlike (registerEndpoint s b) (registerEndpoint s' b') := by
  unfold registerEndpoint
  rw [hb.registration]
  cases (unwrapUnchecked b' : Except Setback Form.Registration) with
  | error e => exact .unchanged hs e.reply
  | ok q =>
    dsimp only
    rw [hs.accounts]
    cases register s'.accounts q.username q.publicKey with
    | ok added => exact ⟨.same _, rfl, hs.secrets, hs.issued⟩
    | error fault =>
      cases fault with
      | badKey => exact .unchanged hs _
      | nameTaken => exact .unchanged hs _
      | foreignKey => exact .unchanged hs _
      | unencodable e => exact .unchanged hs _

/-- `createEndpoint` does, and both servers draw the same id. -/
theorem createEndpoint_like (hs : s.Twin s') (hb : BodiesLike s.accounts b b') :
    EndsAlike (createEndpoint c s b) (createEndpoint c s' b') := by
  have hq := hb.creation
  unfold createEndpoint
  rw [← hs.accounts]
  generalize (unwrap s.accounts b : Except Setback Form.Creation) = x,
    (unwrap s.accounts b' : Except Setback Form.Creation) = x' at hq ⊢
  cases hq with
  | error e => exact .unchanged hs e.reply
  | @ok q q' hq =>
    dsimp only
    cases c.time with
    | error f => exact .unchanged hs f.reply
    | ok now =>
      dsimp only
      -- the store cannot tell the two requests apart
      have hrequest : Store.Request.Like Store.Twin
          ⟨q.username, q.data, q.expiresAt, q.singleUse⟩
          ⟨q'.username, q'.data, q'.expiresAt, q'.singleUse⟩ :=
        ⟨hq.username, hq.expiresAt, hq.singleUse, hq.data, hq.data.storable⟩
      obtain ⟨hcreate, hused⟩ := Store.create_like (fun _ _ h => h.length) c.limit hs.secrets
        hrequest (c.freshId s'.issued) now
      rw [hs.issued]
      generalize Store.create c.limit s.secrets _ _ now = o,
        Store.create c.limit s'.secrets _ _ now = o' at hcreate hused ⊢
      obtain ⟨o, used⟩ := o
      obtain ⟨o', used'⟩ := o'
      dsimp only at hcreate hused ⊢
      subst hused
      obtain ⟨hresult, htable, _⟩ := hcreate
      generalize o.result = y, o'.result = y' at hresult ⊢
      cases hresult with
      | error e => exact ⟨.same _, rfl, htable, rfl⟩
      | ok hid =>
        subst hid
        exact ⟨.same _, rfl, htable, rfl⟩

/-- `listEndpoint` does: the rows have the same headers and lengths. -/
theorem listEndpoint_like (hs : s.Twin s') (hb : BodiesLike s.accounts b b') :
    EndsAlike (listEndpoint c s b) (listEndpoint c s' b') := by
  unfold listEndpoint
  rw [← hs.accounts, hb.listing]
  cases (unwrap s.accounts b' : Except Setback Form.Listing) with
  | error e => exact .unchanged hs e.reply
  | ok q =>
    dsimp only
    cases c.time with
    | error f => exact .unchanged hs f.reply
    | ok now =>
      dsimp only
      have hresult := (Store.list_like hs.secrets q.username now).result
      generalize (Store.list s.secrets q.username now).result = y,
        (Store.list s'.secrets q.username now).result = y' at hresult ⊢
      cases hresult with
      | error e => exact .unchanged hs (storeReply e)
      | ok hviews => exact ⟨.shown (.secrets hviews), hs⟩

/-- `expireEndpoint` does: the same rows are cleared. -/
theorem expireEndpoint_like (hs : s.Twin s') (hb : BodiesLike s.accounts b b') :
    EndsAlike (expireEndpoint s b) (expireEndpoint s' b') := by
  unfold expireEndpoint
  rw [← hs.accounts, hb.expiration]
  cases (unwrap s.accounts b' : Except Setback Form.Expiration) with
  | error e => exact .unchanged hs e.reply
  | ok q =>
    dsimp only
    obtain ⟨hresult, htable, _⟩ := Store.expire_like hs.secrets q.id (some q.username)
    generalize (Store.expire s.secrets q.id (some q.username)).result = y,
      (Store.expire s'.secrets q.id (some q.username)).result = y' at hresult ⊢
    cases hresult with
    | error e => exact ⟨.same _, rfl, htable, hs.issued⟩
    | ok => exact ⟨.same _, rfl, htable, hs.issued⟩

/-- `readEndpoint` does: what is shown differs in the envelope at most. -/
theorem readEndpoint_like (hs : s.Twin s') (id : Text) :
    EndsAlike (readEndpoint c s id) (readEndpoint c s' id) := by
  unfold readEndpoint
  split
  next => exact .unchanged hs _
  next =>
    cases c.time with
    | error f => exact .unchanged hs f.reply
    | ok now =>
      dsimp only
      obtain ⟨hresult, htable, _⟩ := Store.get_like hs.secrets id now
      generalize (Store.get s.secrets id now).result = y,
        (Store.get s'.secrets id now).result = y' at hresult ⊢
      cases hresult with
      | error e => exact ⟨.same _, hs.accounts, htable, hs.issued⟩
      | ok hview =>
        cases hview with
        | expired h => exact ⟨.same _, hs.accounts, htable, hs.issued⟩
        | live h hdata => exact ⟨.shown (.secret h hdata), hs.accounts, htable, hs.issued⟩

/-- **Every endpoint treats twins alike.** -/
theorem runRoute_like (hs : s.Twin s') (hb : BodiesLike s.accounts b b') (r : Route)
    (parameter : Text) : EndsAlike (runRoute c s r parameter b) (runRoute c s' r parameter b') := by
  cases r with
  | register => exact registerEndpoint_like hs hb
  | create => exact createEndpoint_like hs hb
  | list => exact listEndpoint_like hs hb
  | expire => exact expireEndpoint_like hs hb
  | read => exact readEndpoint_like hs parameter

end Endpoints

/-! ## §3. The whole service -/

section Service

variable {c : Context} {s s' : Records} {q : Request} {b' : Bytes}

/-- **Where a request goes does not depend on its body.** -/
theorem dispatch_like (hs : s.Twin s') (hb : BodiesLike s.accounts q.body b') :
    EndsAlike (dispatch c s q) (dispatch c s' { q with body := b' }) := by
  have hpath : ({ q with body := b' } : Request).path = q.path := rfl
  unfold dispatch
  dsimp only
  rw [hpath]
  cases destination q.method q.path with
  | route r parameter => exact runRoute_like hs hb r parameter
  | page => exact .unchanged hs _
  | otherMethod allowed => exact .unchanged hs _
  | otherPath path => exact .unchanged hs _
  | nowhere => exact .unchanged hs _

/-- **Behind the limiter, twins answer alike and stay twins.** -/
theorem respond_like (hs : s.Twin s') (hb : BodiesLike s.accounts q.body b') :
    ResponseLike (respond c s q).1 (respond c s' { q with body := b' }).1
      ∧ (respond c s q).2.Twin (respond c s' { q with body := b' }).2 := by
  -- the rules for other origins do not look at the body
  have hends := dispatch_like (c := c) hs hb
  unfold respond
  rw [show preflight? { q with body := b' } = preflight? q from rfl,
    show originHeaders { q with body := b' } = originHeaders q from rfl]
  cases preflight? q with
  | some answer => exact ⟨.same answer, hs⟩
  | none =>
    dsimp only
    generalize dispatch c s q = o, dispatch c s' { q with body := b' } = o' at hends ⊢
    obtain ⟨a, t⟩ := o
    obtain ⟨a', t'⟩ := o'
    obtain ⟨hreply, hrecords⟩ := hends
    dsimp only at hreply hrecords
    cases hreply with
    | same a =>
      cases a with
      | breakdown => exact ⟨.same _, hrecords⟩
      | response a => exact ⟨.same _, hrecords⟩
    | shown h => exact ⟨.shown _ h, hrecords⟩

variable {τ : Type} [Sub τ] [LT τ] [DecidableLT τ] [OfNat τ 1]

variable {p : RateLimit.Policy τ} {t t' : State τ} {d : Delivery τ}

/-- **Twins answer a request alike, and stay twins.** -/
theorem serve_like (ht : t.Twin t') (hb : BodiesLike t.records.accounts d.request.body b') :
    let d' : Delivery τ := { d with request := { d.request with body := b' } }
    ResponseLike (serve p c t d).1 (serve p c t' d').1
      ∧ (serve p c t d).2.Twin (serve p c t' d').2 := by
  intro d'
  obtain ⟨hresponse, hrecords⟩ := respond_like (c := c) ht.records hb
  unfold serve
  rw [show d'.client = d.client from rfl, show d'.tick = d.tick from rfl,
    show d'.request.method = d.request.method from rfl, ← ht.lanes]
  dsimp only
  split
  next => exact ⟨hresponse, hrecords, rfl⟩
  next => exact ⟨.same _, ht.records, rfl⟩

/-- **A body without a registration adds no account**, wherever it goes. -/
theorem serve_accounts {e : Setback}
    (hbody : (unwrapUnchecked d.request.body : Except Setback Form.Registration) = .error e) :
    (serve p c t d).2.records.accounts = t.records.accounts := by
  rcases serve_leaves p c t d with hsame | ⟨route, parameter, _, hrun⟩
  · rw [hsame]
  · rw [hrun]
    cases route with
    | register =>
      -- the route of registrations finds none in the body
      show (registerEndpoint t.records d.request.body).2.accounts = _
      unfold registerEndpoint
      rw [hbody]
    | create | list | expire | read => exact runRoute_accounts (by decide) parameter d.request.body

end Service

end SealedDrop.Server
