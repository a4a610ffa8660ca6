/-
  SealedDrop.Proofs.Server.Effect
  ───────────────────────────────
  **WHAT ONE REQUEST CAN DO TO THE RECORDS.**

  `serve` takes a request through the limiter, the rules for other origins, the
  router (`dispatch`), the checks of its body (`unwrap`), and an operation of the
  store.  However it ends, what it has done to the records is one of a few
  things, each with the conditions under which it happens.  `Effect` lists them;
  invariants of runs of requests are derived from that list and never look into
  the service again.

  Main results:
    • `destination_eq_route` — where a request goes says what its method and path are,
    • `serve_leaves` — the records are what they were, or what one route makes of them,
    • `serve_effect` — what a request does is on the list,
    • `serve_lists` — a list of secrets is only given to the signer they belong to.
-/
import SealedDrop.Proofs.Server.Trust
import SealedDrop.Proofs.Store.Operation
import SealedDrop.Proofs.Text.Literal
import SealedDrop.Server.Service

namespace SealedDrop.Server

open Http (Request Response Body)

/-! ## §1. Where a request goes -/

/-- A request that the router takes to a route, with its parameter. -/
def GoesTo (r : Request) (route : Route) (parameter : Text) : Prop :=
  destination r.method r.path = .route route parameter

/-- **A request that goes to a route has its method, and a path that fits it.** -/
theorem destination_eq_route {method path : Text} {r : Route} {parameter : Text}
    (h : destination method path = .route r parameter) :
    r.method = method ∧ r.fit? path = some parameter := by
  unfold destination at h
  dsimp only at h
  split at h
  next r' p' hfind =>
    injection h with hr hp
    subst hr hp
    -- the route was picked among those that fit, by its method
    obtain ⟨s, _, hs⟩ := List.mem_filterMap.mp (List.mem_of_find?_eq_some hfind)
    obtain ⟨q, hq, hpair⟩ := Option.map_eq_some_iff.mp hs
    injection hpair with hr hp
    subst hr hp
    have hmethod := List.find?_some hfind
    exact ⟨by simpa using hmethod, hq⟩
  next =>
    split at h
    next => cases h
    next =>
      split at h
      next =>
        split at h
        next => cases h
        next => cases h
      next =>
        split at h
        next => cases h
        next => cases h

/-- Apart from reads, a route fits its own path, with a line feed behind it or not. -/
theorem Route.fit?_fixed {r : Route} (hr : r ≠ .read) (path : Text) :
    r.fit? path = if isFixed path r.fixedPath then some [] else none := by
  cases r with
  | read => exact absurd rfl hr
  | register | create | list | expire => rfl

/-- A path that fits a route without parameters is the route's, possibly with a line feed. -/
theorem Route.eq_of_fit?_fixed {r : Route} (hr : r ≠ .read) {path parameter : Text}
    (h : r.fit? path = some parameter) :
    path = r.fixedPath ∨ path = r.fixedPath ++ Text.ofString "\n" := by
  rw [fit?_fixed hr] at h
  split at h
  next hfixed =>
    unfold isFixed at hfixed
    simpa using hfixed
  next => cases h

/-- A path that fits a read ends in its parameter. -/
theorem Route.eq_of_fit?_read {path parameter : Text} (h : Route.read.fit? path = some parameter) :
    path = Route.read.fixedPath ++ parameter := by
  unfold Route.fit? at h
  dsimp only at h
  split at h
  next => cases h
  next rest hrest =>
    split at h
    next => cases h
    next =>
      injection h with h
      subst h
      exact Text.dropLiteral?_eq_some_iff.mp hrest

/-! ## §2. The list of effects -/

/-- What a request may do to the records. -/
inductive Effect (c : Context) (s : Records) (r : Request) : Records → Prop where
  /-- Nothing. -/
  | nothing : Effect c s r s
  /-- It registers an account. -/
  | account {username key : Text} {id : Nat} {accounts : Accounts}
      (h : register s.accounts username key = .ok (id, accounts)) :
      Effect c s r { s with accounts }
  /-- It uses up an id in vain. -/
  | draw : Effect c s r { s with issued := s.issued + 1 }
  /-- It creates a secret, signed by its owner. -/
  | create {q : Form.Creation} {now : Stamp} {created expires : Moment} {parameter : Text}
      (route : GoesTo r .create parameter) (signed : Asks s.accounts q.username r.body q)
      (clock : c.time = .ok now)
      (valid : Store.validate c.limit ⟨q.username, q.data, q.expiresAt, q.singleUse⟩ now
        = .ok (created, expires))
      (fresh : ∀ row ∈ s.secrets, row.header.id ≠ c.freshId s.issued) :
      Effect c s r { s with
        secrets := s.secrets.insert
          (Store.Request.row ⟨q.username, q.data, q.expiresAt, q.singleUse⟩ (c.freshId s.issued)
            created expires)
        issued := s.issued + 1 }
  /-- It expires a secret, signed by its owner. -/
  | expire {q : Form.Expiration} {parameter : Text} (route : GoesTo r .expire parameter)
      (signed : Asks s.accounts q.username r.body q) :
      Effect c s r
        { s with secrets := s.secrets.clearWhere (Store.Row.isOf q.id (some q.username)) }
  /-- It reads a secret. -/
  | read {id : Text} {now : Stamp} {m : Moment} {row : Store.Row} (route : GoesTo r .read id)
      (clock : c.time = .ok now) (moment : Store.utc now = .ok m)
      (found : Store.load s.secrets id = .ok row) :
      Effect c s r { s with secrets := (Store.finish s.secrets id row m).2.1 }

section Endpoints

variable {c : Context} {s : Records} {r : Request} {parameter : Text}

/-! ## §3. Endpoint by endpoint -/

/-- The endpoint of registrations adds an account or nothing. -/
theorem registerEndpoint_effect : Effect c s r (registerEndpoint s r.body).2 := by
  unfold registerEndpoint
  split
  next => exact .nothing
  next q _ =>
    split
    next h => exact .account h
    next => exact .nothing
    next => exact .nothing
    next => exact .nothing
    next => exact .nothing

/-- The endpoint of creations inserts a row that its owner signed for, under an id that is free; a
creation that is valid and yet fails uses up an id. -/
theorem createEndpoint_effect (hr : GoesTo r .create parameter) :
    Effect c s r (createEndpoint c s r.body).2 := by
  unfold createEndpoint
  split
  next => exact .nothing
  next q hq =>
    split
    next => exact .nothing
    next now hnow =>
      dsimp only
      rcases Store.create_cases c.limit s.secrets (c.freshId s.issued)
          ⟨q.username, q.data, q.expiresAt, q.singleUse⟩ now with
        ⟨created, expires, hvalid, _, hfresh, hused, ho⟩ | ⟨e, ho⟩
      · rw [ho, hused]
        exact .create hr (asks_of_unwrap hq) hnow hvalid hfresh
      · rw [ho]
        dsimp only [Store.Outcome.fail]
        split
        -- the request was valid, so an id is used up
        · exact .draw
        · exact .nothing

/-- Listing leaves the records as they are. -/
theorem listEndpoint_same {body : Bytes} : (listEndpoint c s body).2 = s := by
  unfold listEndpoint
  split
  next => rfl
  next =>
    split
    next => rfl
    next => split <;> rfl

/-- The endpoint of expirations clears the rows of the id and the signer. -/
theorem expireEndpoint_effect (hr : GoesTo r .expire parameter) :
    Effect c s r (expireEndpoint s r.body).2 := by
  unfold expireEndpoint
  split
  next => exact .nothing
  next q hq =>
    rcases Store.expire_cases s.secrets q.id (some q.username) with ⟨_, ho, ht⟩ | ⟨e, _, ho⟩
    · dsimp only
      rw [ho, ht]
      exact .expire hr (asks_of_unwrap hq)
    · dsimp only
      rw [ho]
      exact .nothing

/-- The endpoint of reads does what the second half of `get` does with the row it loaded. -/
theorem readEndpoint_effect (hr : GoesTo r .read parameter) :
    Effect c s r (readEndpoint c s parameter).2 := by
  unfold readEndpoint
  split
  next => exact .nothing
  next =>
    split
    next => exact .nothing
    next now hnow =>
      -- whatever becomes of the answer, the table is the one that `get` leaves
      have hsecrets : Effect c s r { s with secrets := (Store.get s.secrets parameter now).table } := by
        unfold Store.get
        cases hu : Store.utc now with
        | error e => exact .nothing
        | ok m =>
          dsimp only
          cases hl : Store.load s.secrets parameter with
          | error e => exact .nothing
          | ok row => exact .read hr hnow hu hl
      dsimp only
      split
      next => exact hsecrets
      next => exact hsecrets
      next => exact hsecrets

end Endpoints

section Service

variable {c : Context} {s : Records} {r : Request} {parameter : Text}

/-! ## §4. The whole service -/

/-- The records `t` are what the records `s` were before the request `r`, or what the route makes of
them that `r` goes to. -/
def Leaves (c : Context) (s : Records) (r : Request) (t : Records) : Prop :=
  t = s ∨ ∃ route parameter, GoesTo r route parameter
    ∧ t = (runRoute c s route parameter r.body).2

/-- Only a route touches the records: pages, redirects and refusals do not. -/
theorem dispatch_leaves (c : Context) (s : Records) (r : Request) :
    Leaves c s r (dispatch c s r).2 := by
  unfold dispatch
  split
  next route parameter hroute => exact .inr ⟨route, parameter, hroute, rfl⟩
  next => exact .inl rfl
  next => exact .inl rfl
  next => exact .inl rfl
  next => exact .inl rfl

/-- The rules for other origins do not touch the records either. -/
theorem respond_leaves (c : Context) (s : Records) (r : Request) :
    Leaves c s r (respond c s r).2 := by
  unfold respond
  split
  next => exact .inl rfl
  next =>
    -- headers of the answer aside, the router decides
    have h := dispatch_leaves c s r
    split
    next hd =>
      rw [hd] at h
      exact h
    next hd =>
      rw [hd] at h
      exact h

/-- What a route does is on the list, if the request goes to that route. -/
theorem runRoute_effect {route : Route} (hroute : GoesTo r route parameter) :
    Effect c s r (runRoute c s route parameter r.body).2 := by
  cases route with
  | register => exact registerEndpoint_effect
  | create => exact createEndpoint_effect hroute
  | list =>
    show Effect c s r (listEndpoint c s r.body).2
    rw [listEndpoint_same]
    exact .nothing
  | expire => exact expireEndpoint_effect hroute
  | read => exact readEndpoint_effect hroute

variable {τ : Type} [Sub τ] [LT τ] [DecidableLT τ] [OfNat τ 1]

/-- **Behind the limiter and the rules for other origins, one route at most is at work.** -/
theorem serve_leaves (p : RateLimit.Policy τ) (c : Context) (s : State τ) (d : Delivery τ) :
    Leaves c s.records d.request (serve p c s d).2.records := by
  unfold serve
  dsimp only
  split
  next => exact respond_leaves c s.records d.request
  next => exact .inl rfl

/-- **Whatever a request does to the records is on the list.** -/
theorem serve_effect (p : RateLimit.Policy τ) (c : Context) (s : State τ) (d : Delivery τ) :
    Effect c s.records d.request (serve p c s d).2.records := by
  rcases serve_leaves p c s d with hsame | ⟨route, parameter, hroute, hrun⟩
  · rw [hsame]
    exact .nothing
  · rw [hrun]
    exact runRoute_effect hroute

/-! ## §5. Lists of secrets -/

/-- The list in the body of a response. -/
def listOf (a : Response) : Option (List Json) :=
  match a.body with
  | .json (.list vs) => some vs
  | _ => none

/-- The list in the body of a reply. -/
def Reply.listOf : Reply → Option (List Json)
  | .response a => Server.listOf a
  | .breakdown => none

/-- A response has a list when its body is one. -/
theorem listOf_eq_some_iff {a : Response} {vs : List Json} :
    listOf a = some vs ↔ a.body = .json (.list vs) := by
  unfold listOf
  constructor
  · intro h
    split at h
    next ws hbody =>
      injection h with h
      rw [hbody, h]
    next => cases h
  · intro h
    rw [h]

/-- No refusal has a list in its body. -/
theorem setback_listOf (e : Setback) : e.reply.listOf = none := by
  cases e with
  | answered a => rfl
  | breakdown => rfl

theorem registerEndpoint_listOf (body : Bytes) : (registerEndpoint s body).1.listOf = none := by
  unfold registerEndpoint
  split
  next e _ => exact setback_listOf e
  next =>
    split
    next => rfl
    next => rfl
    next => rfl
    next => rfl
    next => rfl

theorem createEndpoint_listOf (body : Bytes) : (createEndpoint c s body).1.listOf = none := by
  unfold createEndpoint
  split
  next e _ => exact setback_listOf e
  next =>
    split
    next => rfl
    next =>
      dsimp only
      split
      next => rfl
      next => rfl

theorem expireEndpoint_listOf (body : Bytes) : (expireEndpoint s body).1.listOf = none := by
  unfold expireEndpoint
  split
  next e _ => exact setback_listOf e
  next =>
    dsimp only
    split
    next => rfl
    next => rfl

theorem readEndpoint_listOf (id : Text) : (readEndpoint c s id).1.listOf = none := by
  unfold readEndpoint
  split
  next => rfl
  next =>
    split
    next => rfl
    next =>
      dsimp only
      split
      next => rfl
      next => rfl
      next => rfl

/-- The views of the secrets of an owner at a moment, as the owner gets them. -/
def viewsOf (t : Store.Table) (owner : Text) (m : Moment) : List Json :=
  (t.ofOwner owner).map fun r => (r.view m).toJson

/-- **The endpoint of lists shows what the signer owns**, at the moment of the server's clock. -/
theorem listEndpoint_listOf {body : Bytes} {vs : List Json}
    (h : (listEndpoint c s body).1.listOf = some vs) :
    ∃ (q : Form.Listing) (m : Moment), Asks s.accounts q.username body q
      ∧ (∃ now, c.time = .ok now ∧ Store.utc now = .ok m)
      ∧ vs = viewsOf s.secrets q.username m := by
  unfold listEndpoint at h
  split at h
  next e _ =>
    rw [setback_listOf e] at h
    cases h
  next q hq =>
    split at h
    next => cases h
    next now hnow =>
      unfold Store.list at h
      split at h
      next views hviews =>
        injection h with h
        split at hviews
        next => cases hviews
        next m hm =>
          split at hviews
          next => cases hviews
          next =>
            injection hviews with hviews
            -- the views are those of the signer's rows at that moment
            refine ⟨q, m, asks_of_unwrap hq, ⟨now, hnow, hm⟩, ?_⟩
            rw [← h, ← hviews, List.map_map]
            rfl
      next => cases h

/-- No page is a list. -/
theorem page_listOf (p : Pages) (path : Text) : (Reply.response ⟨200, [], p.body path⟩).listOf = none := by
  unfold Reply.listOf listOf Pages.body
  dsimp only
  split
  next h =>
    split at h
    next => cases h
    next => cases h
  next => rfl

/-- No other endpoint answers with a list. -/
theorem dispatch_listOf {vs : List Json} (h : (dispatch c s r).1.listOf = some vs) :
    ∃ (q : Form.Listing) (m : Moment) (parameter : Text), GoesTo r .list parameter
      ∧ Asks s.accounts q.username r.body q
      ∧ (∃ now, c.time = .ok now ∧ Store.utc now = .ok m)
      ∧ vs = viewsOf s.secrets q.username m := by
  unfold dispatch at h
  split at h
  next route parameter hroute =>
    cases route with
    | register => exact absurd h (by rw [runRoute, registerEndpoint_listOf]; simp)
    | create => exact absurd h (by rw [runRoute, createEndpoint_listOf]; simp)
    | list =>
      obtain ⟨q, m, hq, hm, hvs⟩ := listEndpoint_listOf h
      exact ⟨q, m, parameter, hroute, hq, hm, hvs⟩
    | expire => exact absurd h (by rw [runRoute, expireEndpoint_listOf]; simp)
    | read => exact absurd h (by rw [runRoute, readEndpoint_listOf]; simp)
  next =>
    rw [page_listOf] at h
    cases h
  next => cases h
  next => cases h
  next => cases h

theorem preflight?_listOf {a : Response} (h : preflight? r = some a) : listOf a = none := by
  unfold preflight? at h
  split at h
  next origin method _ _ =>
    split at h
    next =>
      injection h with h
      subst h
      unfold preflightAnswer
      rw [apply_ite listOf]
      exact ite_self none
    next => cases h
  next => cases h

/-- **A list of secrets is only given to a signer, and shows that signer's secrets.** -/
theorem serve_lists {p : RateLimit.Policy τ} {c : Context} {s : State τ} {d : Delivery τ}
    {vs : List Json} (h : (serve p c s d).1.body = .json (.list vs)) :
    ∃ (q : Form.Listing) (m : Moment) (parameter : Text), GoesTo d.request .list parameter
      ∧ Asks s.records.accounts q.username d.request.body q
      ∧ (∃ now, c.time = .ok now ∧ Store.utc now = .ok m)
      ∧ vs = viewsOf s.records.secrets q.username m := by
  rw [← listOf_eq_some_iff] at h
  unfold serve at h
  dsimp only at h
  split at h
  next =>
    unfold respond at h
    split at h
    next a ha =>
      rw [preflight?_listOf ha] at h
      cases h
    next =>
      split at h
      next a s' hd =>
        have hlist : (dispatch c s.records d.request).1.listOf = some vs := by
          rw [hd]
          exact h
        exact dispatch_listOf hlist
      next => cases h
  next => cases h

/-- A body that says why there is no answer, and no more. -/
def IsRefusal (b : Body) : Prop :=
  ∃ why, b = .text why ∨ b = .json (.object [("detail", .text why)])

/-- The body of a reply, if it comes to the caller, is a refusal. -/
def Reply.IsRefusal : Reply → Prop
  | .response a => Server.IsRefusal a.body
  | .breakdown => True

theorem errorAnswer_isRefusal (a : ErrorAnswer) : a.reply.IsRefusal := ⟨a.detail, .inr rfl⟩

/-- A setback is answered with a text of its own, or breaks the server down. -/
theorem setback_isRefusal (e : Setback) : e.reply.IsRefusal := by
  cases e with
  | answered a => exact errorAnswer_isRefusal a
  | breakdown => trivial

/-- Without a list the endpoint of lists refuses. -/
theorem listEndpoint_isRefusal {body : Bytes} (h : (listEndpoint c s body).1.listOf = none) :
    (listEndpoint c s body).1.IsRefusal := by
  unfold listEndpoint at h ⊢
  split
  next e _ => exact setback_isRefusal e
  next hq =>
    rw [hq] at h
    split
    next f _ => exact errorAnswer_isRefusal f.answer
    next hnow =>
      rw [hnow] at h
      dsimp only at h ⊢
      split
      next hviews =>
        rw [hviews] at h
        cases h
      next e _ => exact errorAnswer_isRefusal (Failure.ofStore e).answer

theorem preflight?_isRefusal {a : Response} (h : preflight? r = some a) : IsRefusal a.body := by
  unfold preflight? at h
  split at h
  next origin method _ _ =>
    split at h
    next =>
      injection h with h
      subst h
      unfold preflightAnswer
      dsimp only
      rw [apply_ite Response.body]
      exact ⟨_, .inl (apply_ite Body.text _ _ _).symm⟩
    next => cases h
  next => cases h

/-- **Whoever asks for a list and gets none is told why, and no more.** -/
theorem serve_refusal {p : RateLimit.Policy τ} {c : Context} {s : State τ} {d : Delivery τ}
    {parameter : Text} (hroute : GoesTo d.request .list parameter)
    (h : ∀ vs, (serve p c s d).1.body ≠ .json (.list vs)) :
    IsRefusal (serve p c s d).1.body := by
  unfold serve at h ⊢
  dsimp only at h ⊢
  split
  next hok =>
    rw [if_pos hok] at h
    unfold respond at h ⊢
    split
    next a ha => exact preflight?_isRefusal ha
    next hpre =>
      rw [hpre] at h
      unfold dispatch at h ⊢
      rw [show destination d.request.method d.request.path = .route .list parameter from hroute] at h ⊢
      dsimp only [runRoute] at h ⊢
      split
      next a s' hd =>
        rw [hd] at h
        -- without a list in the body the endpoint has refused
        have hrefusal : (listEndpoint c s.records d.request.body).1.IsRefusal := by
          apply listEndpoint_isRefusal
          rw [hd]
          cases hlist : listOf a with
          | none => exact hlist
          | some vs => exact absurd (listOf_eq_some_iff.mp hlist) (h vs)
        rw [hd] at hrefusal
        exact hrefusal
      next => exact ⟨_, .inl rfl⟩
  next => exact ⟨_, .inr rfl⟩

end Service

end SealedDrop.Server
