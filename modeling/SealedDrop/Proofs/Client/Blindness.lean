/-
  SealedDrop.Proofs.Client.Blindness
  ──────────────────────────────────
  **NOBODY BUT THE CLIENTS SEES A SECRET.**

  Two runs of clients against a server are compared, act by act.  If they differ
  in the passwords that recipients try, nothing else differs at all: a password
  is used when the exchange is over.  If they differ in the secrets that owners
  share, and in the passwords for these, then all that differs on the way and in
  the tables is the envelope of the secret, twin for twin, and the signature that
  its creation needs.

  The server cannot tell the two runs apart, so it does the same in both, and the
  argument goes through as an invariant of pairs: `server_like` is one request,
  `exchange_like` follows it through redirects, `report_like` is one act, and
  `reports_like` a run.

  Main results:
    • `send_like` — a client gets the same of two payloads, but for envelopes,
    • `sharing_like` — sharing one secret or another is the same to the others,
    • `report_like`, `reports_like` — an act and a run,
    • `secrets_stay_with_clients` — passwords and plaintexts change nothing else.
-/
import SealedDrop.Proofs.Client.Twin

namespace SealedDrop.Server

open Client (Deposit Exchange Outcome)
open Form (Creation Document SignedPayload WritesFlat)
open Http (Address Response)
open Json (Style)
open Result (Like)
open Store (Shown Table)

/-! ## §1. Exchanges -/

/-- Two payloads are alike: the same, or two creations that are alike, each with the signature of
one key. -/
inductive PayloadLike : Option SignedPayload → Option SignedPayload → Prop where
  | same (p : Option SignedPayload) : PayloadLike p p
  | creation (seed : Bytes) {q q' : Creation} (h : CreationLike q q') :
      PayloadLike (some (signedCreation seed q)) (some (signedCreation seed q'))

/-- Like payloads are sent with the same method: both are there, or neither is. -/
theorem PayloadLike.method {p p' : Option SignedPayload} (h : PayloadLike p p')
    (host target : Text) :
    (Client.requestOf host target p).method = (Client.requestOf host target p').method := by
  cases h with
  | same => rfl
  | creation => rfl

/-- Two exchanges are alike: they differ in what creations hold for envelope and signature at
most. -/
structure ExchangeLike (x x' : Exchange) : Prop where
  method : x.method = x'.method
  target : x.target = x'.target
  payload : PayloadLike x.payload x'.payload
  status : x.status = x'.status

/-- Requests and responses that are alike make exchanges that are alike. -/
theorem PayloadLike.done {p p' : Option SignedPayload} (h : PayloadLike p p') {r r' : Response}
    (hr : ResponseLike r r') (host target : Text) :
    ExchangeLike ⟨(Client.requestOf host target p).method, target, p, r.status⟩
      ⟨(Client.requestOf host target p').method, target, p', r'.status⟩ :=
  ⟨h.method host target, rfl, h, hr.status⟩

/-- Two operations come to the like: results and exchanges are alike, and the servers are twins. -/
structure OutcomeLike {τ α : Type} (P : α → α → Prop) (o o' : Outcome (State τ) α) : Prop where
  result : Like P o.result o'.result
  state : o.state.Twin o'.state
  exchanges : List.Forall₂ ExchangeLike o.exchanges o'.exchanges

/-- Two payloads that a server with these accounts cannot tell apart. -/
inductive Indistinct (accounts : Accounts) :
    Option SignedPayload → Option SignedPayload → Prop where
  | same (p : Option SignedPayload) : Indistinct accounts p p
  | creation {seed : Bytes} {q q' : Creation} (h : CreationLike q q')
      (hu : q.username.isScalar = true) (hq : WritesFlat q) (hq' : WritesFlat q')
      (hjudges : Judges accounts seed q) (hjudges' : Judges accounts seed q') :
      Indistinct accounts (some (signedCreation seed q)) (some (signedCreation seed q'))

/-- What the server cannot tell apart is alike. -/
theorem Indistinct.like {accounts : Accounts} {p p' : Option SignedPayload}
    (h : Indistinct accounts p p') : PayloadLike p p' := by
  cases h with
  | same => exact .same p
  | @creation seed _ _ h => exact .creation seed h

section Exchanges

variable {τ : Type} {α β : Type} {P : α → α → Prop} {Q : β → β → Prop}

theorem OutcomeLike.unsent {s s' : State τ} (hs : s.Twin s') (e : Client.Fault) :
    OutcomeLike P (Outcome.unsent s e) (Outcome.unsent s' e) := ⟨.error e, hs, .nil⟩

/-- What follows on the client keeps likeness. -/
theorem OutcomeLike.andThen {o o' : Outcome (State τ) α} {f f' : α → Except Client.Fault β}
    (h : OutcomeLike P o o') (hf : ∀ a a', P a a' → Like Q (f a) (f' a')) :
    OutcomeLike Q (o.andThen f) (o'.andThen f') :=
  ⟨h.result.bind hf, h.state, h.exchanges⟩

/-- Responses that are alike redirect to the same place, or neither does. -/
theorem ResponseLike.redirect? {r r' : Response} (h : ResponseLike r r') :
    Client.redirect? r = Client.redirect? r' := by
  cases h with
  | same => rfl
  | shown => rfl

/-- **A client reads alike answers alike.** -/
theorem check_like {r r' : Response} (h : ResponseLike r r') :
    Like Shown (Client.check (Client.answerOf r)) (Client.check (Client.answerOf r')) := by
  -- a successful answer with JSON is read back as what it was written of
  have hread : ∀ (hs : Http.Headers) (j : Json), Json.read (Json.render Style.compact j) = .ok j →
      Client.check (Client.answerOf ⟨200, hs, .json j⟩) = .ok j := by
    intro hs j hj
    unfold Client.check
    rw [if_pos (show (Client.answerOf ⟨200, hs, .json j⟩).status < 400 from
      (by decide : 200 < 400)),
      show (Client.answerOf ⟨200, hs, .json j⟩).body = Json.render Style.compact j from rfl, hj]
  cases h with
  | same => exact .refl Shown.same _
  | shown hs h =>
    cases h with
    | same => exact .refl Shown.same _
    | secret hd hdata =>
      rw [hread hs _ (Store.read_publicJson hd _), hread hs _ (Store.read_publicJson hd _)]
      exact .ok (.secret hd hdata)
    | secrets hviews =>
      rw [hread hs _ (Store.read_views _), hread hs _ (Store.read_views _)]
      exact .ok (.secrets hviews)

variable [Sub τ] [LT τ] [DecidableLT τ] [OfNat τ 1]
variable {e : Setup τ} {x : Call τ} {s s' : State τ} {p p' : Option SignedPayload}

/-- **A server answers two payloads that it cannot tell apart alike**, and cannot tell them apart
afterwards. -/
theorem server_like (hs : s.Twin s') (hp : Indistinct s.records.accounts p p')
    (host target : Text) :
    let o := e.server x s (Client.requestOf host target p)
    let o' := e.server x s' (Client.requestOf host target p')
    ResponseLike o.1 o'.1 ∧ o.2.Twin o'.2 ∧ Indistinct o.2.records.accounts p p' := by
  intro o o'
  cases hp with
  | same =>
    obtain ⟨hresponse, hstate⟩ := serve_like (p := e.policy) (c := e.context x.now)
      (d := ⟨Client.requestOf host target p, x.client, x.tick⟩) hs (.refl _ _)
    exact ⟨hresponse, hstate, .same p⟩
  | @creation seed q q' h hu hq hq' hjudges hjudges' =>
    obtain ⟨hresponse, hstate⟩ := serve_like (p := e.policy) (c := e.context x.now)
      (d := ⟨Client.requestOf host target (some (signedCreation seed q)), x.client, x.tick⟩) hs
      (bodiesLike_signedCreation h hu hq hq' hjudges hjudges')
    -- a creation registers nobody, so the signatures are judged by the same keys as before
    obtain ⟨setback, hnone⟩ : ∃ f, (unwrapUnchecked (Client.bodyOf (signedCreation seed q)) :
        Except Setback Form.Registration) = .error f := by
      rw [unwrapUnchecked_signedCreation hu hq, openPayload_signedCreation hq, fitted_registration]
      exact ⟨_, rfl⟩
    have haccounts : o.2.records.accounts = s.records.accounts := serve_accounts hnone
    refine ⟨hresponse, hstate, ?_⟩
    rw [haccounts]
    exact .creation h hu hq hq' hjudges hjudges'

/-- **So do all exchanges of a request**, wherever it is sent on. -/
theorem exchange_like (hs : s.Twin s') (hp : Indistinct s.records.accounts p p') (host : Text)
    (n : Nat) (target : Text) :
    OutcomeLike (fun a a' => ∃ r r', ResponseLike r r' ∧ a = Client.answerOf r
        ∧ a' = Client.answerOf r')
      (Client.exchange (e.server x) host p n s target)
      (Client.exchange (e.server x) host p' n s' target) := by
  -- on the number of redirects that may still be followed
  induction n generalizing s s' target with
  | zero =>
    obtain ⟨hresponse, hstate, hnext⟩ := server_like (e := e) (x := x) hs hp host target
    have hdone := hp.like.done hresponse host target
    unfold Client.exchange
    dsimp only
    rw [← hresponse.redirect?]
    cases Client.redirect? (e.server x s (Client.requestOf host target p)).1 with
    | none => exact ⟨.ok ⟨_, _, hresponse, rfl, rfl⟩, hstate, .cons hdone .nil⟩
    | some location => exact ⟨.error _, hstate, .cons hdone .nil⟩
  | succ n ih =>
    obtain ⟨hresponse, hstate, hnext⟩ := server_like (e := e) (x := x) hs hp host target
    have hdone := hp.like.done hresponse host target
    unfold Client.exchange
    dsimp only
    rw [← hresponse.redirect?]
    cases Client.redirect? (e.server x s (Client.requestOf host target p)).1 with
    | none => exact ⟨.ok ⟨_, _, hresponse, rfl, rfl⟩, hstate, .cons hdone .nil⟩
    | some location =>
      have hrest := ih hstate hnext (Http.redirectTarget location)
      exact ⟨hrest.result, hrest.state, .cons hdone hrest.exchanges⟩

/-- **A client gets the same of two payloads that the server cannot tell apart**, but for
envelopes. -/
theorem send_like (c : Client) (hs : s.Twin s') (hp : Indistinct s.records.accounts p p')
    (path : Text) :
    OutcomeLike Shown (c.send (e.server x) s path p) (c.send (e.server x) s' path p') := by
  unfold Client.send
  cases Address.ofText (Text.stripRight '/' c.address ++ path) with
  | error f => exact .unsent hs _
  | ok a =>
    refine (exchange_like hs hp a.host Client.maxRedirects a.target).andThen ?_
    rintro _ _ ⟨r, r', hr, rfl, rfl⟩
    exact (check_like hr).mapError _

/-- The same request posted to twins gives outcomes that are alike. -/
theorem post_like {γ : Type} [Document γ] (c : Client) (hs : s.Twin s') (path : Text)
    (request : γ) :
    OutcomeLike Shown (c.post (e.server x) s path request)
      (c.post (e.server x) s' path request) := by
  unfold Client.post
  cases c.signed request with
  | error f => exact .unsent hs f
  | ok p => exact send_like c hs (.same _) path

/-- **Two creations that are alike are posted alike**, if the signatures over them are judged by the
keys. -/
theorem post_creation_like (c : Client) (hs : s.Twin s') {q q' : Creation} (h : CreationLike q q')
    (hname : c.username = some q.username)
    (hjudges : ∀ seed ∈ c.key, Judges s.records.accounts seed q)
    (hjudges' : ∀ seed ∈ c.key, Judges s'.records.accounts seed q') (path : Text) :
    OutcomeLike Shown (c.post (e.server x) s path q) (c.post (e.server x) s' path q') := by
  unfold Client.post
  rcases signed_like h hname with ⟨f, hf, hf'⟩ | ⟨seed, hkey, hu, hq, hq', hsigned, hsigned'⟩
  · rw [hf, hf']
    exact .unsent hs f
  · rw [hsigned, hsigned']
    rw [← hs.records.accounts] at hjudges'
    exact send_like c hs (.creation h hu hq hq' (hjudges seed hkey) (hjudges' seed hkey)) path

/-! ## §2. Operations -/

/-- `register` tells twins apart by nothing. -/
theorem registering_like (c : Client) (hs : s.Twin s') :
    OutcomeLike Eq (c.register (e.server x) s) (c.register (e.server x) s') := by
  unfold Client.register
  cases c.key with
  | none => exact .unsent hs _
  | some key =>
    dsimp only
    cases c.author (Document.title Form.Registration) with
    | error f => exact .unsent hs f
    | ok u =>
      refine (post_like c hs _ _).andThen ?_
      intro j j' hj
      exact .ok (hj.memberOf (by decide))

/-- `list` on twins shows alike lists. -/
theorem listing_like (c : Client) (hs : s.Twin s') :
    OutcomeLike Shown (c.list (e.server x) s) (c.list (e.server x) s') := by
  unfold Client.list
  cases c.author (Document.title Form.Listing) with
  | error f => exact .unsent hs f
  | ok u => exact post_like c hs _ _

/-- `expire` on twins gives the same result. -/
theorem expiring_like (c : Client) (hs : s.Twin s') (id : Text) :
    OutcomeLike Eq (c.expire (e.server x) s id) (c.expire (e.server x) s' id) := by
  unfold Client.expire
  cases c.author (Document.title Form.Expiration) with
  | error f => exact .unsent hs f
  | ok u => exact (post_like c hs _ _).andThen fun _ _ _ => .ok rfl

/-- `fetch` on twins gives values that differ in an envelope at most. -/
theorem fetching_like (c : Client) (hs : s.Twin s') (id : Text) :
    OutcomeLike Shown (c.fetch (e.server x) s id) (c.fetch (e.server x) s' id) :=
  send_like c hs (.same none) _

/-- Sharing the same secret on twins gives the same id. -/
theorem sharing_same (c : Client) (hs : s.Twin s') (n : Int) (d : Deposit) (entropy : Entropy) :
    OutcomeLike Eq (c.share n (e.server x) s d entropy).1
      (c.share n (e.server x) s' d entropy).1 := by
  unfold Client.share
  split
  next => exact .unsent hs _
  next =>
    dsimp only
    -- sealing happens before anything is sent, so it is the same in both runs
    generalize Envelope.wrapFresh n d.plaintext d.password entropy = y
    obtain ⟨envelope, rest⟩ := y
    cases envelope with
    | error f => exact .unsent hs _
    | ok data =>
      dsimp only
      cases c.author (Document.title Creation) with
      | error f => exact .unsent hs f
      | ok u =>
        refine (post_like c hs _ _).andThen ?_
        intro j j' hj
        exact .ok (hj.textOf (by decide))

/-- What a share of a secret asks for; nothing if it does not come to that. -/
def shareAsks? (c : Client) (n : Int) (d : Deposit) (entropy : Entropy) : Option Creation := do
  let u ← c.username
  let data ← (Envelope.wrapFresh n d.plaintext d.password entropy).1.toOption
  return ⟨u, data, d.expiresAt, d.singleUse⟩

/-- Whatever a share signs is judged by the keys. -/
def ShareJudged (accounts : Accounts) (c : Client) (n : Int) (d : Deposit) (entropy : Entropy) :
    Prop :=
  ∀ seed ∈ c.key, ∀ q ∈ shareAsks? c n d entropy, Judges accounts seed q

instance (accounts : Accounts) (c : Client) (n : Int) (d : Deposit) (entropy : Entropy) :
    Decidable (ShareJudged accounts c n d entropy) :=
  inferInstanceAs (Decidable (∀ seed ∈ c.key, ∀ q ∈ shareAsks? c n d entropy, _))

/-- **Sharing one secret or another is the same to everybody else**, but for the envelope. -/
theorem sharing_like (c : Client) (hs : s.Twin s') {n : Int} {d d' : Deposit}
    {entropy entropy' : Entropy} (hd : DepositLike d d')
    (hjudged : ShareJudged s.records.accounts c n d entropy)
    (hjudged' : ShareJudged s'.records.accounts c n d' entropy') :
    OutcomeLike Eq (c.share n (e.server x) s d entropy).1
      (c.share n (e.server x) s' d' entropy').1 := by
  have hthere : ∀ t : Text, t ≠ [] → ¬ t.isEmpty = true := fun t ht h =>
    ht (List.isEmpty_iff.mp h)
  -- both secrets are sealed, or neither is, and the envelopes are of one length
  have hsealed := wrapFresh_like n hd entropy entropy'
  unfold ShareJudged shareAsks? at hjudged hjudged'
  unfold Client.share Client.author
  rw [if_neg (hthere _ hd.passwords.1.1), if_neg (hthere _ hd.passwords.2.1)]
  generalize Envelope.wrapFresh n d.plaintext d.password entropy = y,
    Envelope.wrapFresh n d'.plaintext d'.password entropy' = y' at hsealed hjudged hjudged' ⊢
  obtain ⟨envelope, rest⟩ := y
  obtain ⟨envelope', rest'⟩ := y'
  dsimp only at hsealed ⊢
  cases hsealed with
  | error f => exact .unsent hs _
  | @ok data data' hdata =>
    dsimp only
    cases hname : c.username with
    | none => exact .unsent hs _
    | some u =>
      rw [hname] at hjudged hjudged'
      have hlike : CreationLike ⟨u, data, d.expiresAt, d.singleUse⟩
          ⟨u, data', d'.expiresAt, d'.singleUse⟩ := ⟨rfl, hdata, hd.expiresAt, hd.singleUse⟩
      refine (post_creation_like c hs hlike hname ?_ ?_ _).andThen ?_
      · intro seed hseed
        exact hjudged seed hseed _ rfl
      · intro seed hseed
        exact hjudged' seed hseed _ rfl
      · intro j j' hj
        exact .ok (hj.textOf (by decide))

end Exchanges

/-! ## §3. Acts -/

/-- What a client does, or whoever tries out a damaged envelope. -/
inductive Act where
  /-- A client registers its name. -/
  | register (c : Client)
  /-- A client shares a secret, with these random octets ahead. -/
  | share (c : Client) (d : Deposit) (entropy : Entropy)
  /-- A client lists what it shares. -/
  | list (c : Client)
  /-- A client expires a secret. -/
  | expire (c : Client) (id : Text)
  /-- A client fetches an envelope. -/
  | fetch (c : Client) (id : Text)
  /-- A client fetches an envelope and opens it. -/
  | reveal (c : Client) (id password : Text)
  /-- The envelope of an id is tampered with. -/
  | corrupt (id : Text)

/-- What an act results in. -/
inductive Yield where
  | registered (r : Except Client.Fault Json)
  | shared (r : Except Client.Fault Text)
  | listed (r : Except Client.Fault Json)
  | expired (r : Except Client.Fault Unit)
  | fetched (r : Except Client.Fault Json)
  | revealed (r : Except Client.Fault Text)
  | corrupted (r : Except Store.TamperFault Text)

/-- What an act results in, the exchanges that it took, and the server after it. -/
structure Report (τ : Type) where
  /-- The result. -/
  result : Yield
  /-- The exchanges, in order. -/
  exchanges : List Exchange
  /-- The server afterwards. -/
  state : State τ

/-- The report of an operation of a client. -/
def reportOf {τ α : Type} (f : Except Client.Fault α → Yield) (o : Outcome (State τ) α) :
    Report τ :=
  ⟨f o.result, o.exchanges, o.state⟩

/-! ## §4. What may differ -/

/-- Two acts are the same, or try different passwords on one secret. -/
inductive Act.OtherPassword : Act → Act → Prop where
  | same (a : Act) : Act.OtherPassword a a
  | reveal (c : Client) (id password password' : Text) :
      Act.OtherPassword (.reveal c id password) (.reveal c id password')

/-- Two reports are the same, but for what was revealed. -/
structure Report.SameButRevealed {τ : Type} (r r' : Report τ) : Prop where
  result : r.result = r'.result ∨ ∃ t t', r.result = .revealed t ∧ r'.result = .revealed t'
  exchanges : r.exchanges = r'.exchanges
  state : r.state = r'.state

/-- Two acts are the same, or share secrets that could be one another, or try different passwords on
one secret. -/
inductive Act.OtherSecret : Act → Act → Prop where
  | same (a : Act) : Act.OtherSecret a a
  | share (c : Client) {d d' : Deposit} (hd : DepositLike d d') (entropy entropy' : Entropy) :
      Act.OtherSecret (.share c d entropy) (.share c d' entropy')
  | reveal (c : Client) (id password password' : Text) :
      Act.OtherSecret (.reveal c id password) (.reveal c id password')

/-- Two results are alike: the same, or twins for envelopes in what was listed or fetched, or
whatever was revealed. -/
inductive YieldLike : Yield → Yield → Prop where
  | same (y : Yield) : YieldLike y y
  | listed {r r' : Except Client.Fault Json} (h : Like Shown r r') :
      YieldLike (.listed r) (.listed r')
  | fetched {r r' : Except Client.Fault Json} (h : Like Shown r r') :
      YieldLike (.fetched r) (.fetched r')
  | revealed (r r' : Except Client.Fault Text) : YieldLike (.revealed r) (.revealed r')

/-- Two reports are alike: results and exchanges are, and the servers are twins. -/
structure ReportLike {τ : Type} (r r' : Report τ) : Prop where
  result : YieldLike r.result r'.result
  exchanges : List.Forall₂ ExchangeLike r.exchanges r'.exchanges
  state : r.state.Twin r'.state

/-- An operation whose result is the same in both runs. -/
theorem reportOf_same {τ α : Type} {o o' : Outcome (State τ) α} (h : OutcomeLike Eq o o')
    (f : Except Client.Fault α → Yield) : ReportLike (reportOf f o) (reportOf f o') := by
  have hsame : o.result = o'.result := by
    have hresult := h.result
    generalize o.result = r, o'.result = r' at hresult ⊢
    cases hresult with
    | error => rfl
    | ok hab => rw [hab]
  refine ⟨?_, h.exchanges, h.state⟩
  show YieldLike (f o.result) (f o'.result)
  rw [hsame]
  exact .same _

/-! ## §5. Runs -/

section Runs

variable {τ : Type} [Sub τ] [LT τ] [DecidableLT τ] [OfNat τ 1]

/-- Carries out an act, with so many rounds of password stretching. -/
def Act.report (e : Setup τ) (n : Int) (x : Call τ) (s : State τ) : Act → Report τ
  | .register c => reportOf .registered (c.register (e.server x) s)
  | .share c d entropy => reportOf .shared (c.share n (e.server x) s d entropy).1
  | .list c => reportOf .listed (c.list (e.server x) s)
  | .expire c id => reportOf .expired (c.expire (e.server x) s id)
  | .fetch c id => reportOf .fetched (c.fetch (e.server x) s id)
  | .reveal c id password => reportOf .revealed (c.reveal n (e.server x) s id password)
  | .corrupt id =>
    match Store.tamper s.records.secrets id with
    | .error f => ⟨.corrupted (.error f), [], s⟩
    | .ok (said, t) =>
      ⟨.corrupted (.ok said), [], { s with records := s.records.withSecrets t }⟩

/-- The reports of a run of acts, each with the call that it is made with. -/
def reports (e : Setup τ) (n : Int) : State τ → List (Call τ × Act) → List (Report τ)
  | _, [] => []
  | s, (x, a) :: acts => a.report e n x s :: reports e n (a.report e n x s).state acts

/-- What an act signs to share a secret is judged by the keys. -/
def Act.Judged (n : Int) (accounts : Accounts) : Act → Prop
  | .share c d entropy => ShareJudged accounts c n d entropy
  | _ => True

/-- What is signed in a run to share secrets is judged by the keys of its time. -/
def Judged (e : Setup τ) (n : Int) : State τ → List (Call τ × Act) → Prop
  | _, [] => True
  | s, (x, a) :: acts =>
    a.Judged n s.records.accounts ∧ Judged e n (a.report e n x s).state acts

/-! ## §6. Other passwords to reveal with -/

/-- **One act with another password to reveal with** takes the same exchanges and leaves the same
server. -/
theorem report_otherPassword {a a' : Act} (ha : a.OtherPassword a') (e : Setup τ) (n : Int)
    (x : Call τ) (s : State τ) : (a.report e n x s).SameButRevealed (a'.report e n x s) := by
  cases ha with
  | same => exact ⟨.inl rfl, rfl, rfl⟩
  | reveal c id password password' =>
    -- the password comes in when the envelope is there
    exact ⟨.inr ⟨_, _, rfl, rfl⟩, rfl, rfl⟩

/-- The same of runs, since every act starts on the same server. -/
theorem reports_otherPassword {acts acts' : List (Call τ × Act)}
    (h : List.Forall₂ (fun a a' => a.1 = a'.1 ∧ a.2.OtherPassword a'.2) acts acts') (e : Setup τ)
    (n : Int) (s : State τ) :
    List.Forall₂ Report.SameButRevealed (reports e n s acts) (reports e n s acts') := by
  induction h generalizing s with
  | nil => exact .nil
  | @cons a a' acts acts' ha _ ih =>
    obtain ⟨x, a⟩ := a
    obtain ⟨x', a'⟩ := a'
    obtain ⟨hcall, hact⟩ := ha
    dsimp only at hcall hact
    subst hcall
    have hreport := report_otherPassword hact e n x s
    unfold reports
    rw [← hreport.state]
    exact .cons hreport (ih _)

/-! ## §7. Other secrets to share -/

variable {e : Setup τ} {n : Int} {x : Call τ} {s s' : State τ}

/-- What is revealed may differ, and nothing else. -/
theorem revealing_like (c : Client) (hs : s.Twin s') (id password password' : Text) :
    ReportLike (reportOf .revealed (c.reveal n (e.server x) s id password))
      (reportOf .revealed (c.reveal n (e.server x) s' id password')) := by
  have hfetch := fetching_like (e := e) (x := x) c hs id
  exact ⟨.revealed _ _, hfetch.exchanges, hfetch.state⟩

/-- **The same act on twins is reported alike.** -/
theorem report_same (hs : s.Twin s') (a : Act) :
    ReportLike (a.report e n x s) (a.report e n x s') := by
  cases a with
  | register c => exact reportOf_same (registering_like c hs) _
  | share c d entropy => exact reportOf_same (sharing_same c hs n d entropy) _
  | list c =>
    have hlist := listing_like (e := e) (x := x) c hs
    exact ⟨.listed hlist.result, hlist.exchanges, hlist.state⟩
  | expire c id => exact reportOf_same (expiring_like c hs id) _
  | fetch c id =>
    have hfetch := fetching_like (e := e) (x := x) c hs id
    exact ⟨.fetched hfetch.result, hfetch.exchanges, hfetch.state⟩
  | reveal c id password => exact revealing_like c hs id password password
  | corrupt id =>
    have htampered := Store.tamper_like hs.records.secrets id
    unfold Act.report
    dsimp only
    generalize Store.tamper s.records.secrets id = y, Store.tamper s'.records.secrets id = y'
      at htampered ⊢
    cases htampered with
    | error f => exact ⟨.same _, .nil, hs⟩
    | @ok z z' hz =>
      obtain ⟨said, t⟩ := z
      obtain ⟨said', t'⟩ := z'
      obtain ⟨hsaid, ht⟩ := hz
      dsimp only at hsaid ht
      subst hsaid
      exact ⟨.same _, .nil, ⟨hs.records.accounts, ht, hs.records.issued⟩, hs.lanes⟩

/-- **An act with another secret is reported alike.** -/
theorem report_like {a a' : Act} (ha : a.OtherSecret a') (hs : s.Twin s')
    (hjudged : a.Judged n s.records.accounts) (hjudged' : a'.Judged n s'.records.accounts) :
    ReportLike (a.report e n x s) (a'.report e n x s') := by
  cases ha with
  | same => exact report_same hs a
  | share c hd entropy entropy' => exact reportOf_same (sharing_like c hs hd hjudged hjudged') _
  | reveal c id password password' => exact revealing_like c hs id password password'

/-- **A run with other secrets is reported alike**, from twins on. -/
theorem reports_like {acts acts' : List (Call τ × Act)}
    (h : List.Forall₂ (fun a a' => a.1 = a'.1 ∧ a.2.OtherSecret a'.2) acts acts') (hs : s.Twin s')
    (hjudged : Judged e n s acts) (hjudged' : Judged e n s' acts') :
    List.Forall₂ ReportLike (reports e n s acts) (reports e n s' acts') := by
  induction h generalizing s s' with
  | nil => exact .nil
  | @cons a a' acts acts' ha _ ih =>
    obtain ⟨x, a⟩ := a
    obtain ⟨x', a'⟩ := a'
    obtain ⟨hcall, hact⟩ := ha
    dsimp only at hcall hact
    subst hcall
    obtain ⟨hnow, hlater⟩ := hjudged
    obtain ⟨hnow', hlater'⟩ := hjudged'
    have hreport := report_like (e := e) (x := x) hact hs hnow hnow'
    exact .cons hreport (ih hreport.state hlater hlater')

/-! ## §8. Passwords and plaintexts -/

/-- **Nobody but the clients sees a secret.**  Take any run of clients on a server in any state.

With other passwords to reveal secrets with, every act takes the same exchanges, leaves the same
server behind, and results in the same unless it reveals a secret.

With other secrets to share, of the same length in UTF-8 and under other passwords, every act takes
exchanges with the same methods, paths and statuses, whose bodies differ in the envelopes of
creations and in the signatures over them at most; it leaves the same rows behind, but for envelopes
of the same lengths; and it results in the same but for such envelopes, unless it reveals a secret.
Here verification is taken to accept what is signed in the two runs to share secrets under the key
of its signer, and under no other. -/
theorem secrets_stay_with_clients (e : Setup τ) (n : Int) (s : State τ)
    (acts acts' : List (Call τ × Act)) :
    (List.Forall₂ (fun a a' => a.1 = a'.1 ∧ a.2.OtherPassword a'.2) acts acts' →
      List.Forall₂ Report.SameButRevealed (reports e n s acts) (reports e n s acts'))
    ∧ (List.Forall₂ (fun a a' => a.1 = a'.1 ∧ a.2.OtherSecret a'.2) acts acts' →
      Judged e n s acts → Judged e n s acts' →
      List.Forall₂ ReportLike (reports e n s acts) (reports e n s acts')) := by
  constructor
  · intro h
    exact reports_otherPassword h e n s
  · intro h hjudged hjudged'
    exact reports_like h (.refl s) hjudged hjudged'

end Runs

/-! ## §9. One secret in place of another -/

/-- A secret of the same length under another password. -/
def adieu : Deposit := { hello with plaintext := "adieu", password := "another" }

/-- A server where one name is registered. -/
def aliceServer : State Int :=
  ⟨⟨[⟨1, "alice", Ed25519.publicKey (List.replicate 32 7)⟩], [], 0⟩, []⟩

/-- A client shares a secret, looks at its list, and reveals the secret. -/
def sharingRun (d : Deposit) (entropy : Entropy) (guess : Text) : List (Call Int × Act) :=
  [(promptCall, .share alice d entropy), (promptCall, .list alice),
   (promptCall, .reveal alice (countingSetup.freshId 0) guess)]

theorem depositLike_adieu : DepositLike hello adieu :=
  ⟨rfl, rfl, by decide, by decide, by decide⟩

/-- Its envelope fits, and what the client signs with it verifies. -/
theorem sealsSoundly_adieu : sealsSoundly adieu = true := by
  set_option maxRecDepth 100000 in decide +kernel

/-- What the registered name signs is judged by its key, if verification accepts it. -/
theorem shareJudged_alice {d : Deposit} {entropy : Entropy}
    (hsound : ∀ data, (Envelope.wrapFresh 1 d.plaintext d.password entropy).1 = .ok data →
      SignsSoundly (List.replicate 32 7)
        (textOf (Creation.mk "alice" data d.expiresAt d.singleUse))) :
    ShareJudged aliceServer.records.accounts alice 1 d entropy := by
  intro seed hseed q hq
  cases hseed
  unfold shareAsks? at hq
  cases hdata : (Envelope.wrapFresh 1 d.plaintext d.password entropy).1 with
  | error f =>
    rw [hdata] at hq
    cases hq
  | ok data =>
    rw [hdata] at hq
    cases hq
    -- the only account is that of the name, with the public half of the key
    intro a ha
    cases ha
    unfold TellsKeys
    rw [decide_eq_true rfl]
    exact hsound data hdata

/-- Another guess at a password, and another secret of five letters. -/
theorem secrets_stay_with_clients_adieu :
    let acts := sharingRun hello silence "pw"
    let guessed := sharingRun hello silence "guess"
    let replaced := sharingRun adieu silence "pw"
    List.Forall₂ (fun a a' => a.1 = a'.1 ∧ a.2.OtherPassword a'.2) acts guessed
    ∧ List.Forall₂ Report.SameButRevealed (reports countingSetup 1 aliceServer acts)
        (reports countingSetup 1 aliceServer guessed)
    ∧ List.Forall₂ (fun a a' => a.1 = a'.1 ∧ a.2.OtherSecret a'.2) acts replaced
    ∧ Judged countingSetup 1 aliceServer acts ∧ Judged countingSetup 1 aliceServer replaced
    ∧ List.Forall₂ ReportLike (reports countingSetup 1 aliceServer acts)
        (reports countingSetup 1 aliceServer replaced) := by
  intro acts guessed replaced
  have hguessed : List.Forall₂ (fun a a' => a.1 = a'.1 ∧ a.2.OtherPassword a'.2) acts guessed :=
    .cons ⟨rfl, .same _⟩ (.cons ⟨rfl, .same _⟩ (.cons ⟨rfl, .reveal _ _ _ _⟩ .nil))
  have hreplaced : List.Forall₂ (fun a a' => a.1 = a'.1 ∧ a.2.OtherSecret a'.2) acts replaced :=
    .cons ⟨rfl, .share _ depositLike_adieu _ _⟩
      (.cons ⟨rfl, .same _⟩ (.cons ⟨rfl, .same _⟩ .nil))
  have hjudged : Judged countingSetup 1 aliceServer acts :=
    ⟨shareJudged_alice canShare_hello.sound, trivial, trivial, trivial⟩
  have hjudged' : Judged countingSetup 1 aliceServer replaced :=
    ⟨shareJudged_alice fun _ hdata => (sound_of_sealsSoundly sealsSoundly_adieu hdata).2, trivial,
      trivial, trivial⟩
  have hspared := secrets_stay_with_clients countingSetup 1 aliceServer acts
  exact ⟨hguessed, (hspared guessed).1 hguessed, hreplaced, hjudged, hjudged',
    (hspared replaced).2 hreplaced hjudged hjudged'⟩

end SealedDrop.Server
