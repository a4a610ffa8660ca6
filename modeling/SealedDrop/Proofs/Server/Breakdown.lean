/-
  SealedDrop.Proofs.Server.Breakdown
  ──────────────────────────────────
  **WHICH SIGNED REQUESTS END IN AN INTERNAL ERROR.**

  A caller who sends something that cannot be carried out is told so with a
  client error, as a rule.  The exceptions are few, and all of them are listed
  in `Breaks`: some lie with the server (its clock, the id that it draws, how
  deep its reader of documents goes), and three lie with the caller alone:

      a deadline that lies outside the calendar on a UTC clock,
      an envelope that has no UTF-8 form,
      an id that has no UTF-8 form.

  Documents can carry each of these, since a string of theirs may hold half a
  surrogate pair and a stamp of theirs any offset, and no check of the form
  turns them away.  A deadline in the past is one of them at the very start of
  the calendar (`internal_error_iff_past_deadline`).

  Main results:
    • `unwrap_eq_breakdown_iff` — a body breaks the server down iff it is nested too deep,
    • `createEndpoint_settles`, `listEndpoint_settles`, `expireEndpoint_settles` — one endpoint,
    • `internal_error_iff` — every request to the endpoints of owners, in every state.
-/
import SealedDrop.Proofs.Server.Separation

namespace SealedDrop

open Form (SignedPayload)

namespace Server

open Http (Request Response)

/-! ## §1. Where the store gives up -/

/-- The caller is told what is wrong with a request. -/
theorem ofStore_of_isRejection {e : Store.Error} (h : e.isRejection = true) :
    Failure.ofStore e = .rejected e.message := by
  cases e with
  | emptyData | tooLong | notFuture => rfl
  | notFound | outOfCalendar | unencodable | duplicateId => cases h

/-- **A creation is turned down for its deadline alone, or for what the caller is told.** -/
theorem validate_eq_error {limit : Option Int} {q : Store.Request} {now : Stamp} {m : Moment}
    {e : Store.Error} (hm : Store.utc now = .ok m) (h : Store.validate limit q now = .error e) :
    e = .outOfCalendar ∧ q.expiresAt.Outlying
      ∨ Failure.ofStore e = .rejected e.message ∧ ¬ q.expiresAt.Outlying := by
  cases hx : Store.utc q.expiresAt with
  | error f =>
    unfold Store.validate at h
    rw [hm, hx] at h
    injection h with h
    subst h
    exact .inl (Store.utc_eq_error_iff.mp hx)
  | ok x =>
    refine .inr ⟨ofStore_of_isRejection (Store.validate_rejects hm hx h), ?_⟩
    intro hout
    rw [Store.utc_eq_error_iff.mpr ⟨rfl, hout⟩] at hx
    cases hx

/-! ## §2. Documents that are nested too deep -/

/-- The reader of documents gives up on a body, or on the payload of a signer it trusts. -/
inductive TooDeep (accounts : Accounts) (body : Bytes) : Prop where
  /-- The body is nested too deep. -/
  | body {t : Text} {isObject : Bool} (text : Json.textOfBody body = .ok t)
      (deep : Json.readText t = .error (.tooDeep isObject))
  /-- The payload in it is. -/
  | payload {p : SignedPayload} {isObject : Bool} (carried : readBody body = .ok p)
      (trusted : authenticate accounts p = .ok ())
      (deep : Json.read p.payload = .error (.tooDeep isObject))

/-- Of the faults of a text that is no JSON, only the depth of its nesting breaks the server down.
-/
theorem unreadable_eq_breakdown_iff {t : Text} {f : Json.Fault} :
    unreadable t f = .breakdown ↔ ∃ isObject, f = .tooDeep isObject := by
  cases f with
  | tooDeep isObject => simp [unreadable]
  | malformed flaw offset => simp [unreadable]
  | tooManyDigits n => simp [unreadable]

/-- JSON that is no such request never breaks it down. -/
theorem fitted_ne_breakdown {α : Type} [Form.Document α] {j : Json} :
    (fitted j : Except Setback α) ≠ .error .breakdown := by
  intro h
  obtain ⟨r, _, hr⟩ := Result.mapError_eq_error_iff.mp h
  cases hr

/-- **Reading a body breaks the server down when the body is nested too deep.** -/
theorem readBody_eq_breakdown_iff {body : Bytes} :
    readBody body = .error .breakdown ↔
      ∃ t isObject, Json.textOfBody body = .ok t
        ∧ Json.readText t = .error (.tooDeep isObject) := by
  unfold readBody
  cases Json.textOfBody body with
  | error e => simp
  | ok t =>
    constructor
    · intro h
      -- only reading can break down; fitting the form is always answered
      rcases Result.bind_eq_error_iff.mp h with hread | ⟨j, _, hfit⟩
      · obtain ⟨f, hf, hbreak⟩ := Result.mapError_eq_error_iff.mp hread
        obtain ⟨isObject, rfl⟩ := unreadable_eq_breakdown_iff.mp hbreak
        exact ⟨t, isObject, rfl, hf⟩
      · exact absurd hfit fitted_ne_breakdown
    · rintro ⟨_, isObject, ht, hdeep⟩
      injection ht with ht
      subst ht
      refine Result.bind_eq_error_iff.mpr (.inl ?_)
      exact Result.mapError_eq_error_iff.mpr ⟨_, hdeep, rfl⟩

/-- Checking a signature never breaks it down. -/
theorem authenticate_ne_breakdown {accounts : Accounts} {p : SignedPayload} :
    authenticate accounts p ≠ .error .breakdown := by
  unfold authenticate
  split
  next => simp
  next =>
    split
    next => simp
    next =>
      intro h
      obtain ⟨r, _, hr⟩ := Result.mapError_eq_error_iff.mp h
      cases hr

section Unwrap

variable {α : Type} [Signed α] {accounts : Accounts} {body : Bytes}

/-- **The payload inside the body breaks it down when that is nested too deep.** -/
theorem openPayload_eq_breakdown_iff {p : SignedPayload} :
    (openPayload p : Except Setback α) = .error .breakdown ↔
      ∃ isObject, Json.read p.payload = .error (.tooDeep isObject) := by
  unfold openPayload
  constructor
  · intro h
    rcases Result.bind_eq_error_iff.mp h with hread | ⟨j, _, hrest⟩
    · obtain ⟨f, hf, hbreak⟩ := Result.mapError_eq_error_iff.mp hread
      obtain ⟨isObject, rfl⟩ := unreadable_eq_breakdown_iff.mp hbreak
      exact ⟨isObject, hf⟩
    rcases Result.bind_eq_error_iff.mp hrest with hfit | ⟨a, _, hname⟩
    · exact absurd hfit fitted_ne_breakdown
    · split at hname
      next => cases hname
      next => cases hname
  · rintro ⟨isObject, hdeep⟩
    refine Result.bind_eq_error_iff.mpr (.inl ?_)
    exact Result.mapError_eq_error_iff.mpr ⟨_, hdeep, rfl⟩

/-- **A body breaks the server down iff it is nested too deep.** -/
theorem unwrap_eq_breakdown_iff :
    (unwrap accounts body : Except Setback α) = .error .breakdown ↔ TooDeep accounts body := by
  unfold unwrap
  constructor
  · intro h
    rcases Result.bind_eq_error_iff.mp h with hbody | ⟨p, hbody, hrest⟩
    · obtain ⟨t, isObject, ht, hdeep⟩ := readBody_eq_breakdown_iff.mp hbody
      exact .body ht hdeep
    rcases Result.bind_eq_error_iff.mp hrest with hauth | ⟨_, hauth, hopen⟩
    · exact absurd hauth authenticate_ne_breakdown
    · obtain ⟨isObject, hdeep⟩ := openPayload_eq_breakdown_iff.mp hopen
      exact .payload hbody hauth hdeep
  · rintro (⟨ht, hdeep⟩ | ⟨hbody, hauth, hdeep⟩)
    · refine Result.bind_eq_error_iff.mpr (.inl ?_)
      exact readBody_eq_breakdown_iff.mpr ⟨_, _, ht, hdeep⟩
    · refine Result.bind_eq_error_iff.mpr (.inr ⟨_, hbody, ?_⟩)
      refine Result.bind_eq_error_iff.mpr (.inr ⟨(), hauth, ?_⟩)
      exact openPayload_eq_breakdown_iff.mpr ⟨_, hdeep⟩

/-- The name in a request that comes out of a body can be written. -/
theorem isScalar_signer {q : α} (h : unwrap accounts body = .ok q) :
    (Signed.signer q).isScalar = true := by
  obtain ⟨p, _, hauth, hopen⟩ := unwrap_eq_ok_iff.mp h
  obtain ⟨_, _, _, hname⟩ := openPayload_eq_ok_iff.mp hopen
  rw [hname]
  exact (authenticate_eq_ok_iff.mp hauth).1

end Unwrap

/-! ## §3. What breaks a request -/

/-- What makes the store give up on a creation. -/
inductive GivesUp (limit : Option Int) (t : Store.Table) (id : Text) (q : Store.Request)
    (now : Stamp) : Prop where
  /-- Its deadline lies outside the calendar. -/
  | deadline (outlying : q.expiresAt.Outlying)
  /-- It is valid, but its envelope has no UTF-8 form. -/
  | envelope {times : Moment × Moment} (valid : Store.validate limit q now = .ok times)
      (surrogate : q.data.isScalar = false)
  /-- It is valid, but the id that was drawn for it is taken. -/
  | taken {times : Moment × Moment} (valid : Store.validate limit q now = .ok times)
      (duplicate : t.contains id = true)

/-- What breaks the creation that a signer asks for. -/
inductive BreaksCreation (c : Context) (s : Records) (q : Form.Creation) : Prop where
  /-- The clock of the server tells nothing. -/
  | clock {f : Stamp.ClockFault} (silent : c.now.clock = .error f)
  /-- The store gives up on it. -/
  | store {m : Moment} (clock : c.now.clock = .ok m)
      (givesUp : GivesUp c.limit s.secrets (c.freshId s.issued)
        ⟨q.username, q.data, q.expiresAt, q.singleUse⟩ (Stamp.utc m))

/-- What breaks a body: it is nested too deep, or the request that comes out of it breaks. -/
def BreaksBody {α : Type} [Signed α] (accounts : Accounts) (body : Bytes) (breaks : α → Prop) :
    Prop :=
  TooDeep accounts body ∨ ∃ q : α, unwrap accounts body = .ok q ∧ breaks q

/-- The endpoints that take what an owner has signed. -/
inductive OwnerRoute where
  /-- A new secret. -/
  | create
  /-- The secrets of the signer. -/
  | list
  /-- Clearing a secret of the signer. -/
  | expire

/-- Their routes. -/
def OwnerRoute.route : OwnerRoute → Route
  | .create => .create
  | .list => .list
  | .expire => .expire

/-- What breaks a body at one of them. -/
def OwnerRoute.Breaks (c : Context) (s : Records) (body : Bytes) : OwnerRoute → Prop
  | .create => BreaksBody s.accounts body (BreaksCreation c s)
  | .list => BreaksBody s.accounts body fun _ : Form.Listing => ∃ f, c.now.clock = .error f
  | .expire => BreaksBody s.accounts body fun q : Form.Expiration => q.id.isScalar = false

/-- A reply settles a request: it is an internal error if something breaks the request, and a
success or a client error otherwise. -/
def Reply.Settles (r : Reply) (breaks : Prop) : Prop :=
  r.status = 500 ∧ breaks ∨ r.status ∈ [200, 400, 403, 404] ∧ ¬ breaks

/-- **A reply settles a body if it settles the request that comes out of it.** -/
theorem Reply.Settles.of_unwrap {α : Type} [Signed α] {accounts : Accounts} {body : Bytes}
    {breaks : α → Prop} {r : Reply}
    (herror : ∀ e, (unwrap accounts body : Except Setback α) = .error e → r = e.reply)
    (hok : ∀ q : α, unwrap accounts body = .ok q → r.Settles (breaks q)) :
    r.Settles (BreaksBody accounts body breaks) := by
  cases hq : (unwrap accounts body : Except Setback α) with
  | error e =>
    rw [herror e hq]
    cases e with
    | answered a =>
      -- what is answered before the request is known is a refusal
      have hrefuses : a.status ∈ [400, 403, 404] := unwrap_refuses hq
      refine .inr ⟨List.mem_cons_of_mem _ hrefuses, ?_⟩
      rintro (hdeep | ⟨q, hsigned, _⟩)
      · rw [unwrap_eq_breakdown_iff.mpr hdeep] at hq
        cases hq
      · rw [hsigned] at hq
        cases hq
    | breakdown => exact .inl ⟨rfl, .inl (unwrap_eq_breakdown_iff.mp hq)⟩
  | ok q =>
    rcases hok q hq with ⟨hstatus, hbreaks⟩ | ⟨hstatus, hsound⟩
    · exact .inl ⟨hstatus, .inr ⟨q, hq, hbreaks⟩⟩
    · refine .inr ⟨hstatus, ?_⟩
      rintro (hdeep | ⟨q', hsigned, hbreaks⟩)
      · rw [unwrap_eq_breakdown_iff.mpr hdeep] at hq
        cases hq
      · rw [hsigned] at hq
        injection hq with hq
        subst hq
        exact hsound hbreaks

/-! ## §4. Endpoint by endpoint -/

section Endpoints

variable {c : Context} {s : Records} {body : Bytes}

/-- A clock that shows no moment is a failure that the endpoint did not foresee. -/
theorem time_of_silent {f : Stamp.ClockFault} (h : c.now.clock = .error f) :
    c.time = .error (.unforeseen f.message) := by
  unfold Context.time
  rw [h]

/-- The reply to a creation that the store has dealt with. -/
def createReply : Except Store.Error Text → Reply
  | .ok id => okReply (Form.Document.write (Form.Created.mk id))
  | .error e => storeReply e

/-- **A creation ends in an internal error iff the store gives up on it.** -/
theorem createReply_settles {limit : Option Int} {t : Store.Table} {id : Text} {q : Store.Request}
    {now : Stamp} {m : Moment} (hm : Store.utc now = .ok m) (hid : id.isScalar = true)
    (howner : q.owner.isScalar = true) :
    (createReply (Store.create limit t id q now).1.result).Settles (GivesUp limit t id q now) := by
  unfold Store.create
  cases hvalid : Store.validate limit q now with
  | error e =>
    -- nothing is valid, so the deadline is the only cause
    rcases validate_eq_error hm hvalid with ⟨rfl, hout⟩ | ⟨htold, hin⟩
    · exact .inl ⟨rfl, .deadline hout⟩
    · refine .inr ⟨?_, ?_⟩
      · show (Failure.ofStore e).answer.status ∈ _
        rw [htold]
        show 400 ∈ [200, 400, 403, 404]
        decide
      · rintro (hout | ⟨hok, _⟩ | ⟨hok, _⟩)
        · exact hin hout
        · rw [hvalid] at hok
          cases hok
        · rw [hvalid] at hok
          cases hok
  | ok times =>
    obtain ⟨created, expires⟩ := times
    dsimp only
    cases hencodable : Store.encodable [id, q.owner, q.data] with
    | error e =>
      obtain ⟨f, rfl⟩ := Store.encodable_eq_error hencodable
      refine .inl ⟨rfl, .envelope hvalid ?_⟩
      -- the other two texts can be written
      rw [← Bool.not_eq_true]
      intro hdata
      rw [Store.encodable_eq_ok_iff.mpr (by simp [hid, howner, hdata])] at hencodable
      cases hencodable
    | ok _ =>
      have hscalar := Store.encodable_eq_ok_iff.mp hencodable
      cases htaken : t.contains id with
      | true => exact .inl ⟨rfl, .taken hvalid htaken⟩
      | false =>
        refine .inr ⟨List.mem_cons_self, ?_⟩
        rintro (hout | ⟨_, hdata⟩ | ⟨_, hduplicate⟩)
        · have hinside := (Store.validate_eq_ok_iff.mp hvalid).2.1
          rw [Store.utc_eq_error_iff.mpr ⟨rfl, hout⟩] at hinside
          cases hinside
        · rw [hscalar q.data (by simp)] at hdata
          cases hdata
        · rw [htaken] at hduplicate
          cases hduplicate

/-- Once the request is unwrapped and the clock is read, the store decides the reply. -/
theorem createEndpoint_reply {q : Form.Creation} {m : Moment}
    (hq : unwrap s.accounts body = .ok q) (hclock : c.now.clock = .ok m) :
    (createEndpoint c s body).1 = createReply (Store.create c.limit s.secrets (c.freshId s.issued)
      ⟨q.username, q.data, q.expiresAt, q.singleUse⟩ (Stamp.utc m)).1.result := by
  unfold createEndpoint
  rw [hq, time_of_clock hclock]
  dsimp only
  generalize Store.create _ _ _ _ _ = x
  obtain ⟨⟨result, table, entries⟩, used⟩ := x
  cases result with
  | error e => rfl
  | ok id => rfl

/-- `createEndpoint` answers with a 500 exactly under `OwnerRoute.create.Breaks`. -/
theorem createEndpoint_settles (hid : (c.freshId s.issued).isScalar = true) :
    (createEndpoint c s body).1.Settles (OwnerRoute.create.Breaks c s body) := by
  refine .of_unwrap ?_ ?_
  · intro e he
    unfold createEndpoint
    rw [he]
  intro q hq
  cases hclock : c.now.clock with
  | error f =>
    unfold createEndpoint
    rw [hq, time_of_silent hclock]
    exact .inl ⟨rfl, .clock hclock⟩
  | ok m =>
    -- a signer has an account, whose name went into a column
    have howner : q.username.isScalar = true := isScalar_signer hq
    rw [createEndpoint_reply hq hclock]
    rcases createReply_settles (q := ⟨q.username, q.data, q.expiresAt, q.singleUse⟩) (utc_utc m) hid
      howner with
      ⟨hstatus, hgives⟩ | ⟨hstatus, hkeeps⟩
    · exact .inl ⟨hstatus, .store hclock hgives⟩
    · refine .inr ⟨hstatus, ?_⟩
      rintro (hsilent | ⟨hm, hgives⟩)
      · rw [hclock] at hsilent
        cases hsilent
      · rw [hclock] at hm
        injection hm with hm
        subst hm
        exact hkeeps hgives

/-- `listEndpoint` does under `OwnerRoute.list.Breaks`. -/
theorem listEndpoint_settles :
    (listEndpoint c s body).1.Settles (OwnerRoute.list.Breaks c s body) := by
  refine .of_unwrap ?_ ?_
  · intro e he
    unfold listEndpoint
    rw [he]
  intro q hq
  unfold listEndpoint
  rw [hq]
  cases hclock : c.now.clock with
  | error f =>
    rw [time_of_silent hclock]
    exact .inl ⟨rfl, f, rfl⟩
  | ok m =>
    rw [time_of_clock hclock]
    have howner : q.username.isScalar = true := isScalar_signer hq
    have hencodable : Store.encodable [q.username] = .ok () :=
      Store.encodable_eq_ok_iff.mpr (by simpa using howner)
    dsimp only
    unfold Store.list
    rw [utc_utc, hencodable]
    refine .inr ⟨List.mem_cons_self, ?_⟩
    rintro ⟨f, hf⟩
    cases hf

/-- `expireEndpoint` does under `OwnerRoute.expire.Breaks`. -/
theorem expireEndpoint_settles :
    (expireEndpoint s body).1.Settles (OwnerRoute.expire.Breaks c s body) := by
  refine .of_unwrap ?_ ?_
  · intro e he
    unfold expireEndpoint
    rw [he]
  intro q hq
  unfold expireEndpoint
  rw [hq]
  dsimp only
  rcases Store.expire_cases s.secrets q.id (some q.username) with ⟨hok, ho, _⟩ | ⟨e, he, ho⟩
  · rw [ho]
    refine .inr ⟨List.mem_cons_self, ?_⟩
    rw [Bool.not_eq_false]
    exact Store.encodable_eq_ok_iff.mp hok q.id List.mem_cons_self
  · rw [ho]
    obtain ⟨f, rfl⟩ := Store.encodable_eq_error he
    refine .inl ⟨rfl, ?_⟩
    -- the name of the signer can be written
    rw [← Bool.not_eq_true]
    intro hid
    rw [Store.encodable_eq_ok_iff.mpr] at he
    · cases he
    · have howner : q.username.isScalar = true := isScalar_signer hq
      simp [hid, howner]

end Endpoints

/-! ## §5. The whole service -/

section Service

variable {τ : Type} [Sub τ] [LT τ] [DecidableLT τ] [OfNat τ 1]

/-- The three routes of owners under one name. -/
theorem runRoute_settles {c : Context} {s : Records} {body : Bytes}
    (hid : (c.freshId s.issued).isScalar = true) (route : OwnerRoute) :
    (runRoute c s route.route [] body).1.Settles (route.Breaks c s body) := by
  cases route with
  | create => exact createEndpoint_settles hid
  | list => exact listEndpoint_settles
  | expire => exact expireEndpoint_settles

/-- **Which requests to the endpoints of owners end in an internal error**, in every state of a
server: exactly those that the limiter lets pass and that break.  Every other one is answered with a
success or a client error. -/
theorem internal_error_iff (e : Setup τ) (s : State τ) (now : Stamp) (d : Delivery τ)
    (route : OwnerRoute) (hposts : Posts d.request route.route) :
    let a := (serve e.policy (e.context now) s d).1
    (a.status = 500 ↔
      Admits e.policy s d ∧ route.Breaks (e.context now) s.records d.request.body)
    ∧ (a.status ≠ 500 → a.status ∈ [200, 400, 403, 404, 429]) := by
  have hroute : route.route ≠ .read := by
    cases route with
    | create | list | expire => decide
  have hsettles : (runRoute (e.context now) s.records route.route [] d.request.body).1.Settles
      (route.Breaks (e.context now) s.records d.request.body) :=
    runRoute_settles (isScalar_freshId e _) route
  intro a
  rcases serve_cases e.policy (e.context now) s d with
    ⟨hadmitted, hanswer, _⟩ | ⟨hrefused, hanswer, _⟩
  · -- the headers around the answer leave the status of the route
    have hcarried : a.status
        = (runRoute (e.context now) s.records route.route [] d.request.body).1.status := by
      rw [← Reply.status_answerTo d.request]
      show (serve e.policy (e.context now) s d).1.status = _
      rw [hanswer, respond_posted s.records hroute hposts]
    rw [hcarried]
    rcases hsettles with ⟨hstatus, hbreaks⟩ | ⟨hstatus, hsound⟩
    · exact ⟨⟨fun _ => ⟨hadmitted, hbreaks⟩, fun _ => hstatus⟩, fun hne => absurd hstatus hne⟩
    · refine ⟨⟨fun h500 => ?_, fun h => absurd h.2 hsound⟩, fun _ => ?_⟩
      · rw [h500] at hstatus
        exact absurd hstatus (by decide)
      · exact List.mem_append_left [429] hstatus
  · have hlimited : a.status = 429 := congrArg Response.status hanswer
    rw [hlimited]
    refine ⟨⟨fun h500 => ?_, fun h => absurd h.1 hrefused⟩, fun _ => ?_⟩
    · exact absurd h500 (by decide)
    · decide

end Service

/-! ## §6. A deadline in the past -/

/-- A creation of the client with a deadline one hour before the calendar begins: the clock that it
was read from shows the first moment of the calendar and is an hour ahead. -/
def pastDeadline : Delivery Int :=
  ⟨carrying "/secret-sharing/create" (alice.signed (Form.Creation.mk "alice" "c2VhbGVk"
    ⟨.first, some 3600⟩ false)), none, 1⟩

/-- The creation goes to the route of creations. -/
theorem posts_pastDeadline : Posts pastDeadline.request .create := by
  refine posts_signed (Form.writesFlat_creation (by decide) (by decide) ?_) (by decide +kernel)
  -- the clock is ahead by whole minutes
  intro o ho
  cases ho
  decide

/-- The client's request comes out of the body, and yet the answer is an internal error. -/
theorem run_pastDeadline :
    (serve countingSetup.policy (countingSetup.context ⟨.first, some 0⟩)
        (countingSetup.run State.empty registered) pastDeadline).1.status = 500
      ∧ (unwrap (countingSetup.run State.empty registered).records.accounts
          pastDeadline.request.body : Except Setback Form.Creation).toOption.isSome = true
      ∧ (countingSetup.run State.empty registered).records.secrets.contains
          (countingSetup.freshId (countingSetup.run State.empty registered).records.issued)
        = false := by
  set_option maxRecDepth 100000 in decide +kernel

/-- A deadline that is long past ends in an internal error. -/
theorem internal_error_iff_past_deadline :
    let s := countingSetup.run State.empty registered
    Posts pastDeadline.request .create
      ∧ (serve countingSetup.policy (countingSetup.context ⟨.first, some 0⟩) s
          pastDeadline).1.status = 500
      ∧ OwnerRoute.create.Breaks (countingSetup.context ⟨.first, some 0⟩) s.records
        pastDeadline.request.body := by
  have hiff := (internal_error_iff countingSetup (countingSetup.run State.empty registered)
    ⟨.first, some 0⟩ pastDeadline .create posts_pastDeadline).1
  exact ⟨posts_pastDeadline, run_pastDeadline.1, (hiff.mp run_pastDeadline.1).2⟩

/-- A request that is not nested too deep may still end in an internal error, on a server whose
clock tells the time and whose ids are new. -/
theorem internal_error_of_signed_request :
    ¬ ∀ (e : Setup Int) (before : List (Event Int)) (now : Stamp) (m : Moment) (d : Delivery Int)
        (route : OwnerRoute),
      let s := e.run State.empty before
      now.clock = .ok m → s.records.secrets.contains (e.freshId s.records.issued) = false →
      Posts d.request route.route → ¬ TooDeep s.records.accounts d.request.body →
      (serve e.policy (e.context now) s d).1.status ∈ [200, 400, 403, 404, 429] := by
  intro h
  obtain ⟨hstatus, hread, hfresh⟩ := run_pastDeadline
  have hshallow : ¬ TooDeep (countingSetup.run State.empty registered).records.accounts
      pastDeadline.request.body := by
    intro hdeep
    rw [unwrap_eq_breakdown_iff.mpr hdeep] at hread
    cases hread
  have hclient := h countingSetup registered ⟨.first, some 0⟩ .first pastDeadline .create rfl hfresh
    posts_pastDeadline hshallow
  rw [hstatus] at hclient
  exact absurd hclient (by decide)

end Server

end SealedDrop
