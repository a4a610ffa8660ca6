/-
  SealedDrop.Proofs.Server.Separation
  ───────────────────────────────────
  **A SIGNATURE IS GOOD FOR ONE ENDPOINT.**

  A `SignedPayload` does not say which endpoint it is meant for.  What keeps it
  from being sent to another is its form: the names of the members of a
  document say which form can read it, if any (`endpointOf`), whatever the
  members hold.  So a text that one endpoint accepts (`Route.Accepts`) is refused
  by the others, whoever signed it, before any of them writes to the records:

      accepted by one  →  the names are those of its form
      not accepted     →  400, 403, 404 or a breakdown, and nothing written

  Main results:
    • `endpointOf_of_reads` — names decide,
    • `unwrap_refuses` — a body without a request is refused,
    • `runRoute_refuses` — an endpoint that does not accept a body writes nothing,
    • `respond_posted`, `serve_posted` — which endpoint answers a posted request,
    • `replay_refused` — an accepted body is refused everywhere else.
-/
import SealedDrop.Proofs.Form.Names
import SealedDrop.Proofs.Server.Failure

namespace SealedDrop.Server

open Form (Rejection Forbids SignedPayload)
open Http (Request Response)

/-! ## §1. Which endpoint reads a document -/

/-- A document of a form. -/
def HasForm (α : Type) [Form.Document α] (j : Json) : Prop :=
  ∃ a, (Form.read j : Except Rejection α) = .ok a

/-- A route takes a document for its request. Reads have none. -/
def Route.Reads : Route → Json → Prop
  | .register => HasForm Form.Registration
  | .create => HasForm Form.Creation
  | .list => HasForm Form.Listing
  | .expire => HasForm Form.Expiration
  | .read => fun _ => False

/-- The one endpoint that may read a document, going by its names. -/
def endpointOf (j : Json) : Route :=
  if Text.ofString "public_key" ∈ j.memberNames then .register
  else if Text.ofString "data" ∈ j.memberNames then .create
  else if Text.ofString "id" ∈ j.memberNames then .expire
  else .list

/-- **Names decide which endpoint reads a document.** -/
theorem endpointOf_of_reads {route : Route} {j : Json} (h : route.Reads j) :
    endpointOf j = route := by
  unfold endpointOf
  cases route with
  | register =>
    -- a registration may hold any other name besides, so its own is asked for first
    obtain ⟨q, hq⟩ := h
    rw [if_pos (Form.needs_publicKey.mem_names hq)]
  | create =>
    obtain ⟨q, hq⟩ := h
    have hkey : Forbids Form.Creation "public_key" := ⟨_, rfl, by decide⟩
    rw [if_neg (hkey.not_mem_names hq), if_pos (Form.needs_data.mem_names hq)]
  | expire =>
    obtain ⟨q, hq⟩ := h
    have hkey : Forbids Form.Expiration "public_key" := ⟨_, rfl, by decide⟩
    have hdata : Forbids Form.Expiration "data" := ⟨_, rfl, by decide⟩
    rw [if_neg (hkey.not_mem_names hq), if_neg (hdata.not_mem_names hq),
      if_pos (Form.needs_id.mem_names hq)]
  | list =>
    obtain ⟨q, hq⟩ := h
    have hkey : Forbids Form.Listing "public_key" := ⟨_, rfl, by decide⟩
    have hdata : Forbids Form.Listing "data" := ⟨_, rfl, by decide⟩
    have hid : Forbids Form.Listing "id" := ⟨_, rfl, by decide⟩
    rw [if_neg (hkey.not_mem_names hq), if_neg (hdata.not_mem_names hq),
      if_neg (hid.not_mem_names hq)]
  | read => cases h

/-- A route accepts a text: it is JSON, and the route takes the document for its request. -/
def Route.Accepts (route : Route) (t : Text) : Prop :=
  ∃ j, Json.read t = .ok j ∧ route.Reads j

/-- **No text is accepted by two routes.** -/
theorem Route.Accepts.eq {route route' : Route} {t : Text} (h : route.Accepts t)
    (h' : route'.Accepts t) : route = route' := by
  obtain ⟨j, hj, hreads⟩ := h
  obtain ⟨j', hj', hreads'⟩ := h'
  obtain rfl : j = j' := Except.ok.inj (hj.symm.trans hj')
  rw [← endpointOf_of_reads hreads, ← endpointOf_of_reads hreads']

/-- A route accepts a body: the body carries a payload, and the route accepts its text. -/
def Route.AcceptsBody (route : Route) (body : Bytes) : Prop :=
  ∃ p, readBody body = .ok p ∧ route.Accepts p.payload

/-- **A body is accepted by one route at most**: the text that it carries is. -/
theorem Route.AcceptsBody.eq {route route' : Route} {body : Bytes} (h : route.AcceptsBody body)
    (h' : route'.AcceptsBody body) : route = route' := by
  obtain ⟨p, hp, haccepts⟩ := h
  obtain ⟨p', hp', haccepts'⟩ := h'
  obtain rfl : p = p' := Except.ok.inj (hp.symm.trans hp')
  exact haccepts.eq haccepts'

/-! ## §2. Bodies without a request -/

/-- A setback refuses: the caller is told one of these statuses, or the server breaks down. -/
def Setback.Refuses : Setback → Prop
  | .answered a => a.status ∈ [400, 403, 404]
  | .breakdown => True

/-- A setback that refuses has the status of an error. -/
theorem Setback.Refuses.le {e : Setback} (h : e.Refuses) : 400 ≤ e.reply.status := by
  cases e with
  | answered a =>
    have hstatus : a.status = 400 ∨ a.status = 403 ∨ a.status = 404 := by simpa [Refuses] using h
    show 400 ≤ a.status
    omega
  | breakdown =>
    show 400 ≤ 500
    decide

/-- A body that is no payload is answered with a 400. -/
theorem invalidPayload_refuses (why : Text) : (Setback.answered (invalidPayload why)).Refuses :=
  List.mem_cons_self

/-- A text that is no JSON is refused as well, or breaks the server down. -/
theorem unreadable_refuses (t : Text) (e : Json.Fault) : (unreadable t e).Refuses := by
  unfold unreadable
  split
  next => trivial
  next => exact invalidPayload_refuses _

/-- JSON that is no such request is refused. -/
theorem fitted_refuses {α : Type} [Form.Document α] {j : Json} {e : Setback}
    (h : (fitted j : Except Setback α) = .error e) : e.Refuses := by
  obtain ⟨r, _, rfl⟩ := Result.mapError_eq_error_iff.mp h
  exact invalidPayload_refuses _

/-- So is a body that cannot be read. -/
theorem readBody_refuses {body : Bytes} {e : Setback} (h : readBody body = .error e) :
    e.Refuses := by
  unfold readBody at h
  split at h
  next =>
    injection h with h
    subst h
    exact invalidPayload_refuses _
  next t _ =>
    rcases Result.bind_eq_error_iff.mp h with hread | ⟨j, _, hfit⟩
    · obtain ⟨f, _, rfl⟩ := Result.mapError_eq_error_iff.mp hread
      exact unreadable_refuses t f
    · exact fitted_refuses hfit

/-- So is a signer without an account, or with a wrong signature. -/
theorem authenticate_refuses {accounts : Accounts} {p : SignedPayload} {e : Setback}
    (h : authenticate accounts p = .error e) : e.Refuses := by
  unfold authenticate at h
  split at h
  next =>
    injection h with h
    subst h
    exact invalidPayload_refuses _
  next =>
    split at h
    next =>
      injection h with h
      subst h
      show 404 ∈ [400, 403, 404]
      decide
    next =>
      -- a signature that does not fit, or cannot be checked
      obtain ⟨f, _, rfl⟩ := Result.mapError_eq_error_iff.mp h
      split
      next => exact List.mem_cons_self
      next => exact invalidPayload_refuses _

section Unwrap

variable {α : Type} [Signed α] {accounts : Accounts} {body : Bytes} {p : SignedPayload}
  {e : Setback}

/-- So is a payload whose text is no such request. -/
theorem openPayload_refuses (h : (openPayload p : Except Setback α) = .error e) : e.Refuses := by
  unfold openPayload at h
  rcases Result.bind_eq_error_iff.mp h with hread | ⟨j, _, hrest⟩
  · obtain ⟨f, _, rfl⟩ := Result.mapError_eq_error_iff.mp hread
    exact unreadable_refuses p.payload f
  rcases Result.bind_eq_error_iff.mp hrest with hfit | ⟨a, _, hname⟩
  · exact fitted_refuses hfit
  split at hname
  next => cases hname
  next =>
    injection hname with hname
    subst hname
    show 403 ∈ [400, 403, 404]
    decide

/-- **A body without a request is refused.** -/
theorem unwrap_refuses (h : (unwrap accounts body : Except Setback α) = .error e) : e.Refuses := by
  unfold unwrap at h
  rcases Result.bind_eq_error_iff.mp h with hbody | ⟨p, _, hrest⟩
  · exact readBody_refuses hbody
  rcases Result.bind_eq_error_iff.mp hrest with hauth | ⟨_, _, hopen⟩
  · exact authenticate_refuses hauth
  · exact openPayload_refuses hopen

/-- And so is all of this one after the other. -/
theorem unwrapUnchecked_refuses (h : (unwrapUnchecked body : Except Setback α) = .error e) :
    e.Refuses := by
  unfold unwrapUnchecked at h
  rcases Result.bind_eq_error_iff.mp h with hbody | ⟨p, _, hopen⟩
  · exact readBody_refuses hbody
  · exact openPayload_refuses hopen

/-- A body carries a request of a form: it has a payload, whose text is a document of the form. -/
def Carries (α : Type) [Form.Document α] (body : Bytes) : Prop :=
  ∃ p, readBody body = .ok p ∧ ∃ j, Json.read p.payload = .ok j ∧ HasForm α j

/-- A body out of which a request comes carries one. -/
theorem carries_of_unwrap {q : α} (h : unwrap accounts body = .ok q) : Carries α body := by
  obtain ⟨p, hbody, _, hopen⟩ := unwrap_eq_ok_iff.mp h
  obtain ⟨j, hj, hq, _⟩ := openPayload_eq_ok_iff.mp hopen
  exact ⟨p, hbody, j, hj, q, hq⟩

/-- A body that can be unwrapped carries a text that is such a request. -/
theorem carries_of_unwrapUnchecked {q : α} (h : unwrapUnchecked body = .ok q) : Carries α body := by
  unfold unwrapUnchecked at h
  obtain ⟨p, hbody, hopen⟩ := Result.bind_eq_ok_iff.mp h
  obtain ⟨j, hj, hq, _⟩ := openPayload_eq_ok_iff.mp hopen
  exact ⟨p, hbody, j, hj, q, hq⟩

end Unwrap

/-! ## §3. Endpoints that do not accept a body -/

/-- **An endpoint that does not accept a body refuses it and writes nothing.** -/
theorem runRoute_refuses {c : Context} {s : Records} {route : Route} {parameter : Text}
    {body : Bytes} (hroute : route ≠ .read) (h : ¬ route.AcceptsBody body) :
    400 ≤ (runRoute c s route parameter body).1.status
      ∧ (runRoute c s route parameter body).2 = s := by
  -- what the route does not accept it does not unwrap
  cases route with
  | register =>
    unfold runRoute registerEndpoint
    cases hq : (unwrapUnchecked body : Except Setback Form.Registration) with
    | error e => exact ⟨(unwrapUnchecked_refuses hq).le, rfl⟩
    | ok q => exact absurd (carries_of_unwrapUnchecked hq) h
  | create =>
    unfold runRoute createEndpoint
    cases hq : (unwrap s.accounts body : Except Setback Form.Creation) with
    | error e => exact ⟨(unwrap_refuses hq).le, rfl⟩
    | ok q => exact absurd (carries_of_unwrap hq) h
  | list =>
    unfold runRoute listEndpoint
    cases hq : (unwrap s.accounts body : Except Setback Form.Listing) with
    | error e => exact ⟨(unwrap_refuses hq).le, rfl⟩
    | ok q => exact absurd (carries_of_unwrap hq) h
  | expire =>
    unfold runRoute expireEndpoint
    cases hq : (unwrap s.accounts body : Except Setback Form.Expiration) with
    | error e => exact ⟨(unwrap_refuses hq).le, rfl⟩
    | ok q => exact absurd (carries_of_unwrap hq) h
  | read => exact absurd rfl hroute

/-! ## §4. The whole service -/

section Service

variable {τ : Type} [Sub τ] [LT τ] [DecidableLT τ] [OfNat τ 1] {p : RateLimit.Policy τ}
  {c : Context} {s : State τ} {d : Delivery τ} {route : Route}

/-- The response that a reply becomes. -/
def Reply.answerTo (r : Request) : Reply → Response
  | .response a => a.withHeaders (originHeaders r)
  | .breakdown => breakdownResponse

/-- Headers for other origins leave the status. -/
theorem Reply.status_answerTo (r : Request) (reply : Reply) :
    (reply.answerTo r).status = reply.status := by
  cases reply with
  | response a => rfl
  | breakdown => rfl

/-- **A posted request is answered by its route.** -/
theorem respond_posted (s : Records) {r : Request} (hroute : route ≠ .read)
    (hposts : Posts r route) :
    respond c s r
      = ((runRoute c s route [] r.body).1.answerTo r, (runRoute c s route [] r.body).2) := by
  -- a pre-flight request is not posted, so the router decides
  have hpreflight : preflight? r = none := by
    cases hanswer : preflight? r with
    | none => rfl
    | some answer =>
      have hmethod := method_of_preflight? hanswer
      rw [hposts.1] at hmethod
      exact absurd hmethod (by decide)
  have hdispatch : dispatch c s r = runRoute c s route [] r.body := by
    unfold dispatch
    rw [show destination r.method r.path = .route route [] from goesTo_of_posts hroute hposts]
  unfold respond
  rw [hpreflight, hdispatch]
  dsimp only
  generalize runRoute c s route [] r.body = x
  obtain ⟨reply, s'⟩ := x
  cases reply with
  | response a => rfl
  | breakdown => rfl

/-- The limiter lets a delivery pass. -/
def Admits (p : RateLimit.Policy τ) (s : State τ) (d : Delivery τ) : Prop :=
  (RateLimit.step p s.lanes ⟨d.client, d.request.method, d.tick⟩).1 = true

/-- **A delivery is carried out, or the limiter refuses it.** -/
theorem serve_cases (p : RateLimit.Policy τ) (c : Context) (s : State τ) (d : Delivery τ) :
    (Admits p s d ∧ (serve p c s d).1 = (respond c s.records d.request).1
        ∧ (serve p c s d).2.records = (respond c s.records d.request).2)
      ∨ (¬ Admits p s d ∧ (serve p c s d).1 = limitedResponse
        ∧ (serve p c s d).2.records = s.records) := by
  unfold serve
  dsimp only
  split
  next hadmitted => exact .inl ⟨hadmitted, rfl, rfl⟩
  next hrefused => exact .inr ⟨hrefused, rfl, rfl⟩

/-- **A posted request is answered by its route, unless the limiter refuses it.** -/
theorem serve_posted (hroute : route ≠ .read) (hposts : Posts d.request route) :
    ((serve p c s d).1.status = 429 ∧ (serve p c s d).2.records = s.records)
      ∨ ((serve p c s d).1.status = (runRoute c s.records route [] d.request.body).1.status
        ∧ (serve p c s d).2.records = (runRoute c s.records route [] d.request.body).2) := by
  rcases serve_cases p c s d with ⟨_, hanswer, hrecords⟩ | ⟨_, hanswer, hrecords⟩
  · rw [hanswer, hrecords, respond_posted s.records hroute hposts]
    exact .inr ⟨Reply.status_answerTo _ _, rfl⟩
  · rw [hanswer, hrecords]
    exact .inl ⟨rfl, rfl⟩

/-- A body that is answered with a success is one that the route accepts. -/
theorem acceptsBody_of_success (hroute : route ≠ .read) (hposts : Posts d.request route)
    (h : (serve p c s d).1.status = 200) : route.AcceptsBody d.request.body := by
  by_contra hnone
  rcases serve_posted (p := p) (c := c) (s := s) hroute hposts with ⟨hlimited, _⟩ | ⟨hstatus, _⟩
  · omega
  · have hrefused : 400 ≤ (runRoute c s.records route [] d.request.body).1.status :=
      (runRoute_refuses hroute hnone).1
    omega

/-- A body that the route does not accept is refused, and the records stay as they are. -/
theorem serve_refuses (hroute : route ≠ .read) (hposts : Posts d.request route)
    (h : ¬ route.AcceptsBody d.request.body) :
    400 ≤ (serve p c s d).1.status ∧ (serve p c s d).2.records = s.records := by
  rcases serve_posted (p := p) (c := c) (s := s) hroute hposts with
    ⟨hlimited, hrecords⟩ | ⟨hstatus, hrecords⟩
  · exact ⟨by omega, hrecords⟩
  · rw [hstatus, hrecords]
    exact runRoute_refuses hroute h

/-- **A signed payload cannot be replayed at another endpoint.**  No text is accepted by two of the
endpoints that take signed payloads; and a body that one of them has answered with a success, in any
state, is refused by each of the others in every state, with the records as they were. -/
theorem replay_refused :
    (∀ (t : Text) (route route' : Route), route.Accepts t → route'.Accepts t → route = route')
    ∧ ∀ (p : RateLimit.Policy τ) (c : Context) (s : State τ) (d : Delivery τ) (route : Route),
      route ≠ .read → Posts d.request route → (serve p c s d).1.status = 200 →
      ∀ (p' : RateLimit.Policy τ) (c' : Context) (s' : State τ) (d' : Delivery τ) (route' : Route),
        route' ≠ .read → route' ≠ route → Posts d'.request route' →
        d'.request.body = d.request.body →
        400 ≤ (serve p' c' s' d').1.status ∧ (serve p' c' s' d').2.records = s'.records := by
  constructor
  · intro t route route' h h'
    exact h.eq h'
  · intro p c s d route hroute hposts hsuccess p' c' s' d' route' hroute' hother hposts' hbody
    -- what was answered was accepted, and nothing of that depends on the state
    have haccepts := acceptsBody_of_success hroute hposts hsuccess
    refine serve_refuses hroute' hposts' ?_
    intro haccepts'
    rw [hbody] at haccepts'
    exact hother (haccepts'.eq haccepts)

end Service

/-! ## §5. A creation that is sent to the list -/

/-- The body of a request does not depend on where it is sent. -/
theorem body_carrying (target target' : Text) (p : Except Client.Fault SignedPayload) :
    (carrying target p).body = (carrying target' p).body := by
  unfold carrying
  cases p.toOption with
  | none => rfl
  | some p => rfl

/-- The creation of the example can be written and read back. -/
theorem writesFlat_creationPosted : Form.WritesFlat (Form.Creation.mk "alice" "c2VhbGVk"
    ⟨⟨7200 * microsPerSecond, by decide⟩, none⟩ false) :=
  Form.writesFlat_creation (by decide) (by decide) fun _ ho => nomatch ho

/-- The creation is answered with a success where creations go. -/
theorem status_creationPosted :
    (serve countingSetup.policy firstContext (countingSetup.run State.empty registered)
      (creationPosted "/secret-sharing/create")).1.status = 200 := by
  set_option maxRecDepth 100000 in decide +kernel

/-- A creation is carried out, and the same body is refused by the endpoint of lists afterwards. -/
theorem replay_refused_creation :
    let s := countingSetup.run State.empty registered
    let o := serve countingSetup.policy firstContext s (creationPosted "/secret-sharing/create")
    let o' := serve countingSetup.policy firstContext o.2 (creationPosted "/secret-sharing/list")
    o.1.status = 200 ∧ 400 ≤ o'.1.status ∧ o'.2.records = o.2.records := by
  have hcreate : Posts (creationPosted "/secret-sharing/create").request .create :=
    posts_signed writesFlat_creationPosted (by decide +kernel)
  have hlist : Posts (creationPosted "/secret-sharing/list").request .list :=
    posts_signed writesFlat_creationPosted (by decide +kernel)
  exact ⟨status_creationPosted, replay_refused.2 _ _ _ _ .create (by decide) hcreate
    status_creationPosted _ _ _ _ .list (by decide) (by decide) hlist (body_carrying _ _ _)⟩

end SealedDrop.Server
