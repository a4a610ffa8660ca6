/-
  SealedDrop.Proofs.Server.Registration
  ─────────────────────────────────────
  **THE FIRST REGISTRATION WINS, FOR EVER.**

  `authenticate` checks every signature against the key that its signer
  registered, so whoever could change that key could act in the signer's name.
  Accounts are therefore only ever added, at the end of the list, and only by
  `registerEndpoint`:

      WellKept  — names are distinct, numbers run from one, keys have the
                  length of a key
      Keeps     — later accounts hold the earlier ones, in their places and
                  under their names
      Registers — what a request, its answer and the accounts before and after
                  it have to do with each other

  The first is an invariant of runs.  Of the list of effects it only needs to
  be known that an effect leaves the accounts or registers one (`Effect.grows`).

  Main results:
    • `WellKept.add` — one registration keeps the accounts well,
    • `WellKept.check_ne_badKey` — what checking a signature relies on,
    • `wellKept_serveAll`, `keeps_serveAll` — runs,
    • `respond_registers`, `respond_grants` — one request behind the limiter,
    • `first_registration_wins` — every request of every run.
-/
import SealedDrop.Proofs.Server.Separation

namespace SealedDrop.Server

open Http (Request Response)

/-! ## §1. Accounts that are kept well -/

/-- Accounts as registrations leave them. -/
structure WellKept (as : Accounts) : Prop where
  /-- No two accounts share a name. -/
  distinct : (as.map Account.username).Nodup
  /-- They are numbered from one, in the order of registration. -/
  numbered : as.map Account.id = List.range' 1 as.length
  /-- Every key has 32 octets. -/
  sized : ∀ a ∈ as, a.publicKey.length = 32

/-- A server without accounts keeps them well. -/
theorem wellKept_nil : WellKept [] :=
  ⟨List.nodup_nil, rfl, fun _ h => absurd h List.not_mem_nil⟩

/-- A free name is that of no account. -/
theorem not_mem_usernames {as : Accounts} {username : Text} (h : as.find? username = none) :
    username ∉ as.map Account.username := by
  intro hmem
  obtain ⟨a, ha, hname⟩ := List.mem_map.mp hmem
  have hnot := List.find?_eq_none.mp h a ha
  exact hnot (decide_eq_true hname)

/-- **A registration keeps the accounts well.** -/
theorem WellKept.add {as : Accounts} {username publicKey : Text} {key : Bytes} (h : WellKept as)
    (hnew : Registrable as username publicKey key) : WellKept (as.add username key) := by
  unfold Accounts.add
  refine ⟨?_, ?_, ?_⟩
  · rw [List.map_append]
    refine List.nodup_append.mpr ⟨h.distinct, List.nodup_singleton _, ?_⟩
    intro x hx y hy hxy
    rw [List.mem_singleton.mp hy] at hxy
    subst hxy
    exact not_mem_usernames hnew.free hx
  · rw [List.map_append, h.numbered, List.length_append, List.length_singleton,
      List.range'_concat, Nat.one_mul, Nat.add_comm 1]
    rfl
  · intro a ha
    rcases List.mem_append.mp ha with ha | ha
    · exact h.sized a ha
    · rw [List.mem_singleton.mp ha]
      exact hnew.sized

/-- **The key of an account can always be loaded**, whatever the signature and the signed text. -/
theorem WellKept.check_ne_badKey {as : Accounts} (h : WellKept as) {a : Account} (ha : a ∈ as)
    (signature text : Text) : Signature.check a.publicKey signature text ≠ .error .badKey := by
  intro hbad
  have hchecked := Signature.checked_check a.publicKey signature text
  rw [hbad] at hchecked
  cases hchecked with
  | badKey size => exact size (h.sized a ha)

/-! ## §2. Accounts that are kept -/

/-- Later accounts hold the earlier ones. -/
structure Keeps (as as' : Accounts) : Prop where
  /-- They keep their places. -/
  places : as <+: as'
  /-- Their names lead to them. -/
  names : ∀ (username : Text) (a : Account), as.find? username = some a →
    as'.find? username = some a

theorem Keeps.refl (as : Accounts) : Keeps as as := ⟨List.prefix_rfl, fun _ _ h => h⟩

theorem Keeps.trans {as as' as'' : Accounts} (h : Keeps as as') (h' : Keeps as' as'') :
    Keeps as as'' :=
  ⟨h.places.trans h'.places, fun username a ha => h'.names username a (h.names username a ha)⟩

/-- A registration adds one account at the end. -/
theorem keeps_add (as : Accounts) (username : Text) (key : Bytes) :
    Keeps as (as.add username key) :=
  ⟨List.prefix_append _ _, fun _ _ ha => find?_add ha⟩

/-- The name of an account leads to it, since no other account has it. -/
theorem WellKept.find?_username {as : Accounts} (h : WellKept as) {a : Account} (ha : a ∈ as) :
    as.find? a.username = some a := by
  cases hfind : as.find? a.username with
  | none => exact absurd (List.mem_map_of_mem ha) (not_mem_usernames hfind)
  | some b =>
    have hb : b ∈ as := List.mem_of_find?_eq_some hfind
    have hname : b.username = a.username := by simpa using List.find?_some hfind
    rw [List.inj_on_of_nodup_map h.distinct hb ha hname]

/-! ## §3. Runs -/

section Effects

variable {c : Context} {s s' : Records} {r : Request}

/-- **An effect leaves the accounts, or registers one.** -/
theorem Effect.grows (h : Effect c s r s') :
    s'.accounts = s.accounts
      ∨ ∃ username key id, register s.accounts username key = .ok (id, s'.accounts) := by
  cases h with
  | nothing => exact .inl rfl
  | account hreg => exact .inr ⟨_, _, _, hreg⟩
  | draw => exact .inl rfl
  | create => exact .inl rfl
  | expire => exact .inl rfl
  | read => exact .inl rfl

/-- No effect leaves accounts badly kept. -/
theorem Effect.wellKept (h : Effect c s r s') (hs : WellKept s.accounts) :
    WellKept s'.accounts := by
  rcases h.grows with hsame | ⟨username, key, id, hreg⟩
  · rw [hsame]
    exact hs
  · obtain ⟨key, hregistrable, _, hadd⟩ := register_eq_ok_iff.mp hreg
    rw [hadd]
    exact hs.add hregistrable

/-- No effect takes an account away, or hides it. -/
theorem Effect.keeps (h : Effect c s r s') : Keeps s.accounts s'.accounts := by
  rcases h.grows with hsame | ⟨username, key, id, hreg⟩
  · rw [hsame]
    exact .refl _
  · obtain ⟨key, _, _, hadd⟩ := register_eq_ok_iff.mp hreg
    rw [hadd]
    exact keeps_add _ _ _

end Effects

section Runs

variable {τ : Type} [Sub τ] [LT τ] [DecidableLT τ] [OfNat τ 1]

/-- **Every run keeps the accounts well.** -/
theorem wellKept_serveAll (p : RateLimit.Policy τ) (s : State τ) (hs : WellKept s.records.accounts)
    (steps : List (Context × Delivery τ)) : WellKept (serveAll p s steps).records.accounts :=
  serveAll_invariant (P := fun s => WellKept s.accounts) Effect.wellKept p s hs steps

/-- **Every run keeps the accounts it meets.** -/
theorem keeps_serveAll (p : RateLimit.Policy τ) (s : State τ)
    (steps : List (Context × Delivery τ)) :
    Keeps s.records.accounts (serveAll p s steps).records.accounts := by
  refine serveAll_invariant (P := fun t => Keeps s.records.accounts t.accounts) ?_ p s (.refl _)
    steps
  intro c t t' r heffect hkept
  exact hkept.trans heffect.keeps

end Runs

/-! ## §4. The endpoint of registrations -/

/-- The document that tells a new account its number. -/
def registeredJson (id : Nat) : Json :=
  .object [("message", .text "User registered successfully"), ("user_id", .int id)]

section Endpoints

variable {c : Context} {s : Records} {r : Request}

/-- **A registration adds the account it asks for and tells its number, if it can be registered; and
otherwise it is refused and adds none.** -/
theorem registerEndpoint_cases (s : Records) (body : Bytes) :
    (∃ (q : Form.Registration) (key : Bytes), unwrapUnchecked body = .ok q
      ∧ Registrable s.accounts q.username q.publicKey key
      ∧ registerEndpoint s body = (okReply (registeredJson (s.accounts.length + 1)),
          { s with accounts := s.accounts.add q.username key }))
    ∨ (∀ (q : Form.Registration) (key : Bytes), unwrapUnchecked body = .ok q →
        ¬ Registrable s.accounts q.username q.publicKey key)
      ∧ 400 ≤ (registerEndpoint s body).1.status ∧ (registerEndpoint s body).2 = s := by
  unfold registerEndpoint
  cases hq : (unwrapUnchecked body : Except Setback Form.Registration) with
  | error e => exact .inr ⟨by simp, (unwrapUnchecked_refuses hq).le, rfl⟩
  | ok q =>
    dsimp only
    cases hreg : register s.accounts q.username q.publicKey with
    | ok added =>
      obtain ⟨id, accounts⟩ := added
      obtain ⟨key, hnew, rfl, rfl⟩ := register_eq_ok_iff.mp hreg
      exact .inl ⟨q, key, rfl, hnew, rfl⟩
    | error fault =>
      -- had it been registrable, `register` would have added it
      have hnone : ∀ (q' : Form.Registration) (key : Bytes),
          (Except.ok q : Except Setback Form.Registration) = .ok q' →
            ¬ Registrable s.accounts q'.username q'.publicKey key := by
        intro q' key hq' hnew
        injection hq' with hq'
        subst hq'
        rw [register_eq_ok_iff.mpr ⟨key, hnew, rfl, rfl⟩] at hreg
        cases hreg
      refine .inr ⟨hnone, ?_⟩
      cases fault with
      | badKey => exact ⟨Nat.le_refl 400, rfl⟩
      | nameTaken => exact ⟨show 400 ≤ 403 by decide, rfl⟩
      | foreignKey => exact ⟨show 400 ≤ 500 by decide, rfl⟩
      | unencodable f => exact ⟨show 400 ≤ 500 by decide, rfl⟩

/-- Creating a secret leaves the accounts. -/
theorem createEndpoint_accounts (body : Bytes) :
    (createEndpoint c s body).2.accounts = s.accounts := by
  unfold createEndpoint
  split
  next => rfl
  next =>
    split
    next => rfl
    next =>
      dsimp only
      split <;> rfl

/-- So does expiring one. -/
theorem expireEndpoint_accounts (body : Bytes) :
    (expireEndpoint s body).2.accounts = s.accounts := by
  unfold expireEndpoint
  split
  next => rfl
  next =>
    dsimp only
    split <;> rfl

/-- And so does reading one. -/
theorem readEndpoint_accounts (id : Text) : (readEndpoint c s id).2.accounts = s.accounts := by
  unfold readEndpoint
  split
  next => rfl
  next =>
    split
    next => rfl
    next =>
      dsimp only
      split <;> rfl

/-- **Only the route of registrations touches accounts.** -/
theorem runRoute_accounts {route : Route} (h : route ≠ .register) (parameter : Text) (body : Bytes) :
    (runRoute c s route parameter body).2.accounts = s.accounts := by
  cases route with
  | register => exact absurd rfl h
  | create => exact createEndpoint_accounts body
  | list => exact congrArg Records.accounts listEndpoint_same
  | expire => exact expireEndpoint_accounts body
  | read => exact readEndpoint_accounts parameter

/-- A request that does not post a registration leaves the accounts. -/
theorem respond_accounts (h : ¬ Posts r .register) :
    (respond c s r).2.accounts = s.accounts := by
  rcases respond_leaves c s r with hsame | ⟨route, parameter, hroute, hrun⟩
  · rw [hsame]
  · rw [hrun]
    refine runRoute_accounts ?_ parameter r.body
    rintro rfl
    exact h (posts_of_goesTo (by decide) hroute)

end Endpoints

/-! ## §5. Every request of every run -/

/-- What a request, its answer and the accounts before and after it have to do with each other. -/
structure Registers (r : Request) (as : Accounts) (a : Response) (as' : Accounts) : Prop where
  /-- One account is added at most. -/
  once : as' = as ∨ ∃ x, as' = as ++ [x]
  /-- One is added exactly when a registration is posted and answered with a success. -/
  success : Posts r .register ∧ a.status = 200 ↔ ∃ x, as' = as ++ [x]
  /-- The answer tells its number. -/
  told : ∀ x, as' = as ++ [x] → a.body = .json (registeredJson x.id)
  /-- It has the name and the key of the body, and the name was free. -/
  asked : ∀ x, as' = as ++ [x] → ∃ q : Form.Registration, unwrapUnchecked r.body = .ok q
    ∧ x.username = q.username ∧ Registrable as q.username q.publicKey x.publicKey

section Service

variable {r : Request} {as : Accounts} {a : Response}

/-- A request that adds no account is no registration that is answered with a success. -/
theorem Registers.of_none (h : Posts r .register → a.status ≠ 200) : Registers r as a as := by
  have hno : ∀ x, as ≠ as ++ [x] := by
    intro x hx
    simpa using congrArg List.length hx
  refine ⟨.inl rfl, ⟨?_, ?_⟩, fun x hx => absurd hx (hno x), fun x hx => absurd hx (hno x)⟩
  · rintro ⟨hposts, hstatus⟩
    exact absurd hstatus (h hposts)
  · rintro ⟨x, hx⟩
    exact absurd hx (hno x)

/-- A registration that is answered with the number of the account it adds. -/
theorem Registers.of_added (hposts : Posts r .register) {q : Form.Registration} {key : Bytes}
    (hq : unwrapUnchecked r.body = .ok q) (hnew : Registrable as q.username q.publicKey key)
    (hstatus : a.status = 200) (hbody : a.body = .json (registeredJson (as.length + 1))) :
    Registers r as a (as.add q.username key) := by
  have honly : ∀ x, as.add q.username key = as ++ [x] → ⟨as.length + 1, q.username, key⟩ = x := by
    intro x hx
    simpa [Accounts.add] using hx
  refine ⟨.inr ⟨_, rfl⟩, ⟨fun _ => ⟨_, rfl⟩, fun _ => ⟨hposts, hstatus⟩⟩, ?_, ?_⟩
  · intro x hx
    rw [← honly x hx]
    exact hbody
  · intro x hx
    rw [← honly x hx]
    exact ⟨q, hq, rfl, hnew⟩

/-- **One request behind the limiter.** -/
theorem respond_registers (c : Context) (s : Records) (r : Request) :
    Registers r s.accounts (respond c s r).1 (respond c s r).2.accounts := by
  by_cases hposts : Posts r .register
  · rw [respond_posted s (by decide) hposts]
    show Registers r _ ((registerEndpoint s r.body).1.answerTo r)
      (registerEndpoint s r.body).2.accounts
    rcases registerEndpoint_cases s r.body with ⟨q, key, hq, hnew, hadded⟩ | ⟨_, hrefused, hsame⟩
    · rw [hadded]
      exact .of_added hposts hq hnew rfl rfl
    · rw [hsame]
      refine .of_none fun _ => ?_
      rw [Reply.status_answerTo]
      omega
  · rw [respond_accounts hposts]
    exact .of_none fun h => absurd h hposts

/-- **A registration that can be carried out is carried out**, behind the limiter. -/
theorem respond_grants {c : Context} {s : Records} (hposts : Posts r .register)
    {q : Form.Registration} {key : Bytes} (hq : unwrapUnchecked r.body = .ok q)
    (hnew : Registrable s.accounts q.username q.publicKey key) :
    (respond c s r).1.status = 200 := by
  rw [respond_posted s (by decide) hposts]
  show ((registerEndpoint s r.body).1.answerTo r).status = 200
  rcases registerEndpoint_cases s r.body with ⟨_, _, _, _, hadded⟩ | ⟨hnone, _⟩
  · rw [hadded]
    rfl
  · exact absurd hnew (hnone q key hq)

variable {τ : Type} [Sub τ] [LT τ] [DecidableLT τ] [OfNat τ 1]

/-- **The first registration wins, for ever**, in every state of every run from an empty server.
Names are distinct, numbers run from one in the order of registration, and keys have 32 octets, so
that the check of a signature can always load them; whatever comes later, accounts keep their
places, and their names lead to them.  The next request adds one account exactly when it is a
registration that is answered with a success, and the answer then tells the number of that account;
and the limiter aside, a registration of a free name with a proper key is answered so. -/
theorem first_registration_wins (p : RateLimit.Policy τ) (steps later : List (Context × Delivery τ))
    (c : Context) (d : Delivery τ) :
    let s := serveAll p State.empty steps
    WellKept s.records.accounts
    ∧ (∀ x ∈ s.records.accounts, ∀ signature text,
        Signature.check x.publicKey signature text ≠ .error .badKey)
    ∧ (s.records.accounts <+: (serveAll p s later).records.accounts
      ∧ ∀ x ∈ s.records.accounts,
        (serveAll p s later).records.accounts.find? x.username = some x)
    ∧ Registers d.request s.records.accounts (serve p c s d).1 (serve p c s d).2.records.accounts
    ∧ (Admits p s d → Posts d.request .register → ∀ (q : Form.Registration) (key : Bytes),
        unwrapUnchecked d.request.body = .ok q →
        Registrable s.records.accounts q.username q.publicKey key →
        (serve p c s d).1.status = 200) := by
  intro s
  -- the invariant holds in every state of every run
  have hkept : WellKept s.records.accounts := wellKept_serveAll p State.empty wellKept_nil steps
  have hkeeps := keeps_serveAll p s later
  refine ⟨hkept, fun x hx => hkept.check_ne_badKey hx, ⟨hkeeps.places, ?_⟩, ?_, ?_⟩
  · intro x hx
    exact hkeeps.names x.username x (hkept.find?_username hx)
  · rcases serve_cases p c s d with ⟨_, hanswer, hrecords⟩ | ⟨_, hanswer, hrecords⟩
    · rw [hanswer, hrecords]
      exact respond_registers c s.records d.request
    · rw [hanswer, hrecords]
      exact .of_none fun _ => (by show ¬ 429 = 200; decide)
  · intro hadmitted hposts q key hq hnew
    rcases serve_cases p c s d with ⟨_, hanswer, _⟩ | ⟨hrefused, _⟩
    · rw [hanswer]
      exact respond_grants hposts hq hnew
    · exact absurd hadmitted hrefused

end Service

/-! ## §6. A first registration -/

/-- What the client asks for when it registers. -/
def aliceRegistration : Form.Registration :=
  ⟨"alice", Base64.encode (Ed25519.publicKey (List.replicate 32 7))⟩

/-- The first client offers a key of 32 octets under a free name. -/
theorem registrable_alice : Registrable [] aliceRegistration.username aliceRegistration.publicKey
    (Ed25519.publicKey (List.replicate 32 7)) where
  ascii := Base64.isAscii_encode _
  decoded := Base64.decode?_encode _
  sized := Ed25519.length_publicKey _
  scalar := by decide
  free := rfl

/-- Its registration arrives. -/
def aliceRegisters : Delivery Int := ⟨registration, none, 0⟩

/-- It posts to the route of registrations. -/
theorem posts_aliceRegisters : Posts aliceRegisters.request .register := by
  have hflat : Form.WritesFlat aliceRegistration := Form.writesFlat_registration
    registrable_alice.scalar (Text.isScalar_of_isAscii registrable_alice.ascii)
  have hpath : Percent.decode ((Text.ofString "/auth/register").takeWhile
      (· ≠ CodePoint.ofChar '?')) = Route.register.fixedPath := by
    decide +kernel
  unfold aliceRegisters
  dsimp only
  unfold registration
  exact posts_signed hflat hpath

/-- The server unwraps what the client asks for. -/
theorem unwrapUnchecked_aliceRegisters :
    unwrapUnchecked aliceRegisters.request.body = .ok aliceRegistration := by
  set_option maxRecDepth 100000 in decide +kernel

/-- The first client to register becomes the only account. -/
theorem first_registration_wins_alice :
    let o := serve ⟨10, 30⟩ firstContext State.empty aliceRegisters
    o.1.status = 200 ∧ ∃ x : Account, o.2.records.accounts = [x] ∧ x.username = "alice"
      ∧ o.1.body = .json (registeredJson x.id) := by
  have hrun : serveAll ⟨10, 30⟩ (State.empty : State Int) [] = State.empty := rfl
  obtain ⟨_, _, _, hregisters, hgrants⟩ :=
    first_registration_wins ⟨10, 30⟩ [] [] firstContext aliceRegisters
  rw [hrun] at hregisters hgrants
  have hadmitted : Admits ⟨10, 30⟩ State.empty aliceRegisters := by
    unfold Admits
    decide +kernel
  have hstatus := hgrants hadmitted posts_aliceRegisters aliceRegistration _
    unwrapUnchecked_aliceRegisters registrable_alice
  obtain ⟨x, hx⟩ := hregisters.success.mp ⟨posts_aliceRegisters, hstatus⟩
  obtain ⟨q, hq, hname, _⟩ := hregisters.asked x hx
  obtain rfl : aliceRegistration = q :=
    Except.ok.inj (unwrapUnchecked_aliceRegisters.symm.trans hq)
  exact ⟨hstatus, x, hx, hname, hregisters.told x hx⟩

end SealedDrop.Server
