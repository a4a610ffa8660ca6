/-
  SealedDrop.Proofs.Server.Lifetime
  ─────────────────────────────────
  **HOW LONG A SECRET LASTS.**

  A run of a server (`Setup.run`) is made of requests, purges and drills.  What
  that does to one secret is followed with two invariants:

      Standing   — the row is there, with its envelope, and it is the only row
                   of its id; the owner's account is what it was
      Spent      — no row of the id has an envelope, and none will get one,
                   since the id has been issued

  A secret stays standing as long as the events SPARE it: none meets the server
  past the deadline, none expires it with its owner's signature, none tampers
  with it, and, if one read uses it up, none reads it.  A spent secret stays
  spent whatever happens.  Each of the two is a step lemma over the list of
  effects and an induction on the run.

  Main results:
    • `Sound.run` — every run keeps accounts usable and ids issued,
    • `Standing.run` — a secret stands as long as it is spared,
    • `Spent.run` — a spent secret stays spent,
    • `readEndpoint_standing`, `readEndpoint_spent` — what a read gets.
-/
import SealedDrop.Proofs.Calendar.Date
import SealedDrop.Proofs.Server.Account
import SealedDrop.Proofs.Server.Effect
import SealedDrop.Proofs.Store.SingleUse
import SealedDrop.Store.Tamper

namespace SealedDrop.Server

open Http (Request Response)
open Store (Header Row Table)

/-! ## §1. Running servers -/

/-- How a server is set up. -/
structure Setup (τ : Type) where
  /-- The limits on requests. -/
  policy : RateLimit.Policy τ
  /-- The greatest length of an envelope. -/
  limit : Option Int
  /-- The random octets of each new id. -/
  octets : Nat → Bytes
  /-- The framework's pages. -/
  pages : Pages

namespace Setup

variable {τ : Type} (e : Setup τ)

/-- The ids that new secrets get. -/
def freshId (k : Nat) : Text := identifierOf (e.octets k)

/-- What an endpoint knows at a time. -/
def context (now : Stamp) : Context := ⟨e.limit, e.freshId, now, e.pages⟩

end Setup

/-- What a server meets. -/
inductive Event (τ : Type) where
  /-- A request. -/
  | request (now : Stamp) (d : Delivery τ)
  /-- A purge of expired secrets. -/
  | purge (now : Stamp)
  /-- A drill: the envelope of an id is tampered with. -/
  | tamper (id : Text)

/-- The records with other secrets. -/
def Records.withSecrets (s : Records) (t : Table) : Records := { s with secrets := t }

/-- The secrets after a drill; one that fails leaves them alone. -/
def tampered (t : Table) (id : Text) : Table :=
  match Store.tamper t id with
  | .ok (_, t) => t
  | .error _ => t

section Runs

variable {τ : Type} [Sub τ] [LT τ] [DecidableLT τ] [OfNat τ 1]

/-- The server after an event. -/
def Setup.step (e : Setup τ) (s : State τ) : Event τ → State τ
  | .request now d => (serve e.policy (e.context now) s d).2
  | .purge now => { s with records := s.records.withSecrets (Store.purge s.records.secrets now).table }
  | .tamper id => { s with records := s.records.withSecrets (tampered s.records.secrets id) }

/-- The server after events in order. -/
def Setup.run (e : Setup τ) (s : State τ) (events : List (Event τ)) : State τ :=
  events.foldl e.step s

end Runs

/-- A drill leaves the rows of other ids alone, and those of its id if the first of them has no
envelope; it keeps headers. -/
theorem mem_tampered {t : Table} {id : Text} {x : Row} (h : x ∈ tampered t id) :
    ∃ r ∈ t, x.header = r.header ∧ (x = r ∨ r.header.id = id
      ∧ ∃ first, t.find? id = some first ∧ first.data ≠ none) := by
  unfold tampered Store.tamper at h
  cases hs : Utf8.firstSurrogates id with
  | some e =>
    rw [hs] at h
    exact ⟨x, h, rfl, .inl rfl⟩
  | none =>
    rw [hs] at h
    dsimp only at h
    cases hd : (t.find? id).bind Row.data with
    | none =>
      rw [hd] at h
      exact ⟨x, h, rfl, .inl rfl⟩
    | some d =>
      rw [hd] at h
      dsimp only at h
      cases ht : Store.tamperText d with
      | error e =>
        rw [ht] at h
        exact ⟨x, h, rfl, .inl rfl⟩
      | ok d' =>
        rw [ht] at h
        obtain ⟨r, hr, rfl⟩ := List.mem_map.mp h
        -- the drill found an envelope under the id, and wrote every row of it
        by_cases hid : r.header.id = id
        · obtain ⟨first, hfirst, hdata⟩ := Option.bind_eq_some_iff.mp hd
          refine ⟨r, hr, ?_, .inr ⟨hid, first, hfirst, by simp [hdata]⟩⟩
          rw [if_pos hid]
        · refine ⟨r, hr, ?_, .inl ?_⟩
          · rw [if_neg hid]
          · rw [if_neg hid]

/-- A drill keeps the rows of other ids. -/
theorem mem_tampered_of_ne {t : Table} {id : Text} {r : Row} (hr : r ∈ t) (hid : r.header.id ≠ id) :
    r ∈ tampered t id := by
  unfold tampered Store.tamper
  split
  next hok =>
    split at hok
    next => cases hok
    next =>
      split at hok
      next =>
        injection hok with hok
        injection hok with _ hok
        rw [← hok]
        exact hr
      next =>
        split at hok
        next => cases hok
        next =>
          injection hok with hok
          injection hok with _ hok
          rw [← hok]
          exact List.mem_map.mpr ⟨r, hr, if_neg hid⟩
  next => exact hr

/-! ## §2. What every run keeps -/

/-- Accounts can sign, and ids of secrets have been issued. -/
structure Sound (freshId : Nat → Text) (s : Records) : Prop where
  /-- Every account has a name that can be written and a key of the right length. -/
  accounts : ∀ a ∈ s.accounts, a.username.isScalar = true ∧ a.publicKey.length = Signature.keySize
  /-- Every secret has an id that was issued. -/
  issued : ∀ r ∈ s.secrets, ∃ k < s.issued, r.header.id = freshId k

/-- In sound records a name that is found is scalar, and its key has the size of a key. -/
theorem Sound.account_of_find? {freshId : Nat → Text} {s : Records} {u : Text} {a : Account}
    (hs : Sound freshId s) (ha : s.accounts.find? u = some a) :
    u.isScalar = true ∧ a.publicKey.length = Signature.keySize := by
  obtain ⟨hname, hsize⟩ := hs.accounts a (List.mem_of_find?_eq_some ha)
  have hu : a.username = u := by simpa using List.find?_some ha
  rw [hu] at hname
  exact ⟨hname, hsize⟩

/-- Records that hold nothing are sound. -/
theorem sound_empty (freshId : Nat → Text) : Sound freshId Records.empty :=
  ⟨fun _ h => absurd h List.not_mem_nil, fun _ h => absurd h List.not_mem_nil⟩

section Effects

variable {c : Context} {s s' : Records} {r : Request}

/-- Ids stay issued when rows come from rows. -/
theorem issued_of_stems {freshId : Nat → Text} {t t' : Table} {n : Nat}
    (ht : ∀ r ∈ t, ∃ k < n, r.header.id = freshId k)
    (hstems : ∀ r' ∈ t', ∃ r ∈ t, r'.header = r.header) :
    ∀ r' ∈ t', ∃ k < n, r'.header.id = freshId k := by
  intro r' hr'
  obtain ⟨r, hr, hheader⟩ := hstems r' hr'
  rw [hheader]
  exact ht r hr

/-- Clearing keeps headers. -/
theorem stems_clearWhere {t : Table} (p : Row → Bool) :
    ∀ r' ∈ t.clearWhere p, ∃ r ∈ t, r'.header = r.header := by
  intro r' hr'
  obtain ⟨r, hr, rfl⟩ := Table.of_mem_clearWhere hr'
  exact ⟨r, hr, (Row.clearIf_stems p r).1⟩

/-- No effect makes sound records unsound. -/
theorem Effect.sound (h : Effect c s r s') (hs : Sound c.freshId s) : Sound c.freshId s' := by
  cases h with
  | nothing => exact hs
  | account hreg =>
    refine ⟨?_, hs.issued⟩
    obtain ⟨key, hregistrable, _, rfl⟩ := register_eq_ok_iff.mp hreg
    intro a ha
    rcases List.mem_append.mp ha with ha | ha
    · exact hs.accounts a ha
    · rw [List.mem_singleton] at ha
      subst ha
      exact ⟨hregistrable.scalar, hregistrable.sized⟩
  -- ids that have been issued stay so
  | draw =>
    refine ⟨hs.accounts, ?_⟩
    intro row hrow
    obtain ⟨k, hk, hid⟩ := hs.issued row hrow
    exact ⟨k, Nat.lt_succ_of_lt hk, hid⟩
  | create route signed clock valid fresh =>
    refine ⟨hs.accounts, ?_⟩
    intro row hrow
    rcases Table.mem_insert.mp hrow with hrow | rfl
    · obtain ⟨k, hk, hid⟩ := hs.issued row hrow
      exact ⟨k, Nat.lt_succ_of_lt hk, hid⟩
    · exact ⟨s.issued, Nat.lt_succ_self _, rfl⟩
  | expire route signed =>
    exact ⟨hs.accounts, issued_of_stems hs.issued (stems_clearWhere _)⟩
  | @read id now m row route clock moment found =>
    refine ⟨hs.accounts, issued_of_stems hs.issued ?_⟩
    show ∀ r' ∈ (Store.finish s.secrets id row m).2.1, _
    rcases Store.finish_clears s.secrets id row m with ht | ⟨p, _, _, ht⟩
    · rw [ht]
      exact fun r' hr' => ⟨r', hr', rfl⟩
    · rw [ht]
      exact stems_clearWhere p

/-- The count of issued ids never goes back. -/
theorem Effect.issued_le (h : Effect c s r s') : s.issued ≤ s'.issued := by
  cases h with
  | nothing => exact Nat.le_refl _
  | account => exact Nat.le_refl _
  | draw => exact Nat.le_succ _
  | create => exact Nat.le_succ _
  | expire => exact Nat.le_refl _
  | read => exact Nat.le_refl _

end Effects

section Runs

variable {τ : Type} [Sub τ] [LT τ] [DecidableLT τ] [OfNat τ 1] {e : Setup τ} {s : State τ}

/-- What a purge leaves are rows that were there. -/
theorem mem_purge {t : Table} {now : Stamp} {row : Row} (h : row ∈ (Store.purge t now).table) :
    row ∈ t := by
  rcases Store.purge_cases t now with ⟨m, _, _, ht⟩ | ⟨f, _, ht⟩
  · rw [ht] at h
    exact (Table.mem_dropWhere.mp h).1
  · rw [ht] at h
    exact h

/-- Requests, purges and drills keep records sound. -/
theorem Sound.step (hs : Sound e.freshId s.records) (event : Event τ) :
    Sound e.freshId (e.step s event).records := by
  cases event with
  | request now d => exact (serve_effect e.policy (e.context now) s d).sound hs
  | purge now =>
    exact ⟨hs.accounts, issued_of_stems hs.issued fun r' hr' => ⟨r', mem_purge hr', rfl⟩⟩
  | tamper id =>
    refine ⟨hs.accounts, issued_of_stems hs.issued ?_⟩
    intro r' hr'
    obtain ⟨r, hr, hheader, _⟩ := mem_tampered hr'
    exact ⟨r, hr, hheader⟩

/-- **Every run keeps accounts usable and ids issued.** -/
theorem Sound.run (hs : Sound e.freshId s.records) (events : List (Event τ)) :
    Sound e.freshId (e.run s events).records := by
  induction events generalizing s with
  | nil => exact hs
  | cons event events ih => exact ih (hs.step event)

/-- **Only the route of creations draws an id.** -/
theorem runRoute_issued {c : Context} {s : Records} {route : Route} (h : route ≠ .create)
    (parameter : Text) (body : Bytes) :
    (runRoute c s route parameter body).2.issued = s.issued := by
  cases route with
  | create => exact absurd rfl h
  | register =>
    show (registerEndpoint s body).2.issued = s.issued
    unfold registerEndpoint
    split
    next => rfl
    next => split <;> rfl
  | list => exact congrArg Records.issued listEndpoint_same
  | expire =>
    show (expireEndpoint s body).2.issued = s.issued
    unfold expireEndpoint
    split
    next => rfl
    next =>
      dsimp only
      split <;> rfl
  | read =>
    show (readEndpoint c s parameter).2.issued = s.issued
    unfold readEndpoint
    split
    next => rfl
    next =>
      split
      next => rfl
      next =>
        dsimp only
        split <;> rfl

/-- A request that does not go to the route of creations issues no id. -/
theorem issued_step_request (e : Setup τ) (s : State τ) (now : Stamp) {d : Delivery τ}
    (h : ∀ parameter, ¬ GoesTo d.request .create parameter) :
    (e.step s (.request now d)).records.issued = s.records.issued := by
  show (serve e.policy (e.context now) s d).2.records.issued = s.records.issued
  rcases serve_leaves e.policy (e.context now) s d with hsame | ⟨route, parameter, hroute, hrun⟩
  · rw [hsame]
  · rw [hrun]
    refine runRoute_issued ?_ parameter d.request.body
    rintro rfl
    exact h parameter hroute

/-- No event takes an issued id back. -/
theorem issued_le_step (e : Setup τ) (s : State τ) (event : Event τ) :
    s.records.issued ≤ (e.step s event).records.issued := by
  cases event with
  | request now d => exact (serve_effect e.policy (e.context now) s d).issued_le
  | purge now => exact Nat.le_refl _
  | tamper id => exact Nat.le_refl _

/-- The same of runs. -/
theorem issued_le_run (e : Setup τ) (s : State τ) (events : List (Event τ)) :
    s.records.issued ≤ (e.run s events).records.issued := by
  induction events generalizing s with
  | nil => exact Nat.le_refl _
  | cons event events ih => exact Nat.le_trans (issued_le_step e s event) (ih (e.step s event))

end Runs

/-! ## §3. Standing -/

/-- A secret is there with its envelope, alone under its id, and its owner's account is `a`. -/
structure Standing (a : Account) (h : Header) (d : Text) (s : Records) : Prop where
  /-- The row is there. -/
  row : ⟨h, some d⟩ ∈ s.secrets
  /-- No other row has its id. -/
  only : ∀ r ∈ s.secrets, r.header.id = h.id → r = ⟨h, some d⟩
  /-- The owner's account is what it was. -/
  account : s.accounts.find? h.owner = some a

/-- A request expires a secret: it posts an expiration of its id that its owner has signed. -/
def Expires (accounts : Accounts) (h : Header) (r : Request) : Prop :=
  ∃ (q : Form.Expiration) (parameter : Text), GoesTo r .expire parameter
    ∧ Asks accounts h.owner r.body q ∧ q.id = h.id

/-- An event does nothing that ends a secret. -/
def Event.Spares {τ : Type} (accounts : Accounts) (h : Header) : Event τ → Prop
  | .request now d =>
    (∀ m, now.clock = .ok m → m ≤ h.expiresAt) ∧ ¬ Expires accounts h d.request
      ∧ (h.singleUse = true → ¬ GoesTo d.request .read h.id)
  | .purge now => ∀ m, now.toUtc = .ok m → m ≤ h.expiresAt
  | .tamper id => id ≠ h.id

/-- What a name asks for depends on the account of the name only. -/
theorem Asks.congr {α : Type} [Signed α] {accounts accounts' : Accounts} {name : Text} {body : Bytes}
    {q : α} (h : Asks accounts name body q) (hname : accounts'.find? name = accounts.find? name) :
    Asks accounts' name body q := by
  obtain ⟨p, a, octets, message, hbody, hp, ha, hrest⟩ := h
  exact ⟨p, a, octets, message, hbody, hp, hname.trans ha, hrest⟩

/-- A later account does not hide an earlier one of its name. -/
theorem find?_add {as : Accounts} {name other : Text} {key : Bytes} {a : Account}
    (h : as.find? name = some a) : (as.add other key).find? name = some a := by
  unfold Accounts.find? at h ⊢
  unfold Accounts.add
  rw [List.find?_append, h]
  rfl

theorem utc_utc (m : Moment) : Store.utc (Stamp.utc m) = .ok m := by
  unfold Store.utc Stamp.toUtc Stamp.utc
  dsimp only [Stamp.instant]
  rw [Option.getD_some, Int.zero_mul, Int.sub_zero, Moment.ofMicros?_micros]

/-- The time of a request is what its clock tells. -/
theorem clock_of_time {c : Context} {now : Stamp} {m : Moment} (h : c.time = .ok now)
    (hm : Store.utc now = .ok m) : c.now.clock = .ok m := by
  unfold Context.time at h
  cases hc : c.now.clock with
  | error f =>
    rw [hc] at h
    cases h
  | ok m' =>
    rw [hc] at h
    injection h with h
    subst h
    rw [utc_utc] at hm
    injection hm with hm
    rw [hm]

theorem not_lt_of_le {a b : Moment} (h : a ≤ b) : ¬ b < a := by
  have h' : a.micros ≤ b.micros := h
  show ¬ b.micros < a.micros
  omega

section Standing

variable {a : Account} {h : Header} {d : Text} {s s' : Records}

/-- A secret stands in another table that has its row, and no other under its id. -/
theorem Standing.of_secrets (hs : Standing a h d s) {t : Table} (hrow : ⟨h, some d⟩ ∈ t)
    (honly : ∀ r ∈ t, r.header.id = h.id → r = ⟨h, some d⟩) :
    Standing a h d (s.withSecrets t) :=
  ⟨hrow, honly, hs.account⟩

/-- A standing secret survives a clearing that does not pick it. -/
theorem Standing.clearWhere (hs : Standing a h d s) {p : Row → Bool}
    (hp : p ⟨h, some d⟩ = false) : Standing a h d (s.withSecrets (s.secrets.clearWhere p)) := by
  refine hs.of_secrets (Table.mem_clearWhere.mpr (.inl ⟨hs.row, hp⟩)) ?_
  intro r hr hid
  rcases Table.mem_clearWhere.mp hr with ⟨hmem, _⟩ | ⟨r₀, hr₀, hpr, rfl⟩
  · exact hs.only r hmem hid
  · rw [hs.only r₀ hr₀ hid, hp] at hpr
    cases hpr

/-- What is loaded for the id of a standing secret is the secret. -/
theorem Standing.load_eq (hs : Standing a h d s) {row : Row}
    (hl : Store.load s.secrets h.id = .ok row) : row = ⟨h, some d⟩ := by
  rcases Store.load_cases s.secrets h.id with ⟨r, hr, hid, hload⟩ | ⟨_, hload⟩ | ⟨e, _, hload⟩
  · rw [hl] at hload
    injection hload with hload
    rw [hload]
    exact hs.only r hr hid
  · rw [hl] at hload
    cases hload
  · rw [hl] at hload
    cases hload

/-- A row under its deadline that has its envelope is live. -/
theorem view_of_le {m : Moment} (hm : m ≤ h.expiresAt) :
    (Row.mk h (some d)).view m = .live h d :=
  Row.view_eq_live_iff.mpr ⟨rfl, rfl, not_lt_of_le hm⟩

/-- **A request that spares a standing secret leaves it standing.** -/
theorem Standing.effect {c : Context} {r : Request} (hs : Standing a h d s)
    (he : Effect c s r s') {accounts : Accounts} (ha : accounts.find? h.owner = some a)
    (htime : ∀ m, c.now.clock = .ok m → m ≤ h.expiresAt) (hexpire : ¬ Expires accounts h r)
    (hread : h.singleUse = true → ¬ GoesTo r .read h.id) : Standing a h d s' := by
  cases he with
  | nothing => exact hs
  | account hreg =>
    obtain ⟨key, _, _, rfl⟩ := register_eq_ok_iff.mp hreg
    exact ⟨hs.row, hs.only, find?_add hs.account⟩
  | draw => exact ⟨hs.row, hs.only, hs.account⟩
  | create route signed clock valid fresh =>
    refine ⟨Table.mem_insert.mpr (.inl hs.row), ?_, hs.account⟩
    intro row hrow hid
    rcases Table.mem_insert.mp hrow with hrow | rfl
    · exact hs.only row hrow hid
    · exact absurd hid.symm (fresh _ hs.row)
  | @expire q parameter route signed =>
    refine hs.clearWhere ?_
    rw [← Bool.not_eq_true, Row.isOf_iff]
    -- an expiration that picks the row is the owner's, which is ruled out
    rintro ⟨hid, hnone | howner⟩
    · cases hnone
    · injection howner with howner
      rw [howner] at signed
      exact hexpire ⟨q, parameter, route, signed.congr (ha.trans hs.account.symm), hid.symm⟩
  | @read id now m row route clock moment found =>
    by_cases hid : id = h.id
    · -- a read of the secret itself: it is live, and not single-use
      subst hid
      have hrow := hs.load_eq found
      subst hrow
      have hlive : (Row.mk h (some d)).view m = .live h d :=
        view_of_le (htime m (clock_of_time clock moment))
      have hlasting : h.singleUse = false := by
        rw [← Bool.not_eq_true]
        exact fun honce => hread honce route
      have hsame : (Store.finish s.secrets h.id ⟨h, some d⟩ m).2.1 = s.secrets := by
        rw [Store.finish_of_lasting hlive hlasting]
      exact hs.of_secrets (hsame.symm ▸ hs.row) (hsame.symm ▸ hs.only)
    · rcases Store.finish_clears s.secrets id row m with ht | ⟨p, hp, _, ht⟩
      · exact hs.of_secrets (ht.symm ▸ hs.row) (ht.symm ▸ hs.only)
      · have hother : p ⟨h, some d⟩ = false := by
          rw [← Bool.not_eq_true]
          exact fun hpick => hid (hp _ hpick).symm
        have hclear := hs.clearWhere hother
        exact hs.of_secrets (ht.symm ▸ hclear.row) (ht.symm ▸ hclear.only)

end Standing

section StandingRuns

variable {τ : Type} [Sub τ] [LT τ] [DecidableLT τ] [OfNat τ 1] {e : Setup τ} {s : State τ}
  {a : Account} {h : Header} {d : Text} {accounts : Accounts}

/-- **An event that spares a secret leaves it standing.** -/
theorem Standing.step (hs : Standing a h d s.records) (ha : accounts.find? h.owner = some a)
    {event : Event τ} (hspares : event.Spares accounts h) :
    Standing a h d (e.step s event).records := by
  cases event with
  | request now x =>
    obtain ⟨htime, hexpire, hread⟩ := hspares
    exact hs.effect (serve_effect e.policy (e.context now) s x) ha htime hexpire hread
  | purge now =>
    refine hs.of_secrets ?_ fun r hr => hs.only r (mem_purge hr)
    rcases Store.purge_cases s.records.secrets now with ⟨m, hm, _, ht⟩ | ⟨f, _, ht⟩
    · rw [ht]
      refine Table.mem_dropWhere.mpr ⟨hs.row, Row.isGone_eq_false_iff.mpr ⟨by simp, ?_⟩⟩
      -- the purge goes by the same moment that the deadline is held against
      exact not_lt_of_le (hspares m (Store.toUtc_of_utc hm))
    · rw [ht]
      exact hs.row
  | tamper id =>
    refine hs.of_secrets (mem_tampered_of_ne hs.row hspares.symm) ?_
    intro r' hr' hid
    obtain ⟨r, hr, hheader, rfl | ⟨hrid, _⟩⟩ := mem_tampered hr'
    · exact hs.only r' hr hid
    · rw [hheader] at hid
      exact absurd (hrid.symm.trans hid) hspares

/-- **A secret stands as long as it is spared.** -/
theorem Standing.run (hs : Standing a h d s.records) (ha : accounts.find? h.owner = some a)
    {events : List (Event τ)} (hspares : ∀ event ∈ events, event.Spares accounts h) :
    Standing a h d (e.run s events).records := by
  induction events generalizing s with
  | nil => exact hs
  | cons event events ih =>
    exact ih (hs.step ha (hspares event List.mem_cons_self))
      fun x hx => hspares x (List.mem_cons_of_mem _ hx)

end StandingRuns

/-! ## §4. Spent -/

/-- No row of an id has an envelope, and the id has been issued. -/
structure Spent (freshId : Nat → Text) (id : Text) (s : Records) : Prop where
  /-- Rows of the id are empty. -/
  empty : ∀ r ∈ s.secrets, r.header.id = id → r.data = none
  /-- The id is used up. -/
  used : ∃ k < s.issued, freshId k = id

section Spent

variable {c : Context} {s s' : Records} {id : Text}

/-- Rows of an id that are all cleared stay so. -/
theorem cleared_clearWhere {t : Table} (p : Row → Bool)
    (ht : ∀ r ∈ t, r.header.id = id → r.data = none) :
    ∀ r ∈ t.clearWhere p, r.header.id = id → r.data = none := by
  intro r hr hid
  rcases Table.mem_clearWhere.mp hr with ⟨hmem, _⟩ | ⟨r₀, _, _, rfl⟩
  · exact ht r hmem hid
  · rfl

/-- **Whatever a request does, a spent secret stays spent**, if ids are not issued twice. -/
theorem Spent.effect {r : Request} (hs : Spent c.freshId id s) (he : Effect c s r s')
    (hids : Store.DistinctIds c.freshId s'.issued) : Spent c.freshId id s' := by
  obtain ⟨k, hk, hused⟩ := hs.used
  cases he with
  | nothing => exact hs
  | account => exact ⟨hs.empty, hs.used⟩
  | draw => exact ⟨hs.empty, k, Nat.lt_succ_of_lt hk, hused⟩
  | create route signed clock valid fresh =>
    refine ⟨?_, k, Nat.lt_succ_of_lt hk, hused⟩
    intro row hrow hid
    rcases Table.mem_insert.mp hrow with hrow | rfl
    · exact hs.empty row hrow hid
    · -- the new id was not issued before
      have hsame : k = s.issued :=
        hids k (Nat.lt_succ_of_lt hk) s.issued (Nat.lt_succ_self _) (hused.trans hid.symm)
      omega
  | expire route signed => exact ⟨cleared_clearWhere _ hs.empty, hs.used⟩
  | @read id' now m row route clock moment found =>
    refine ⟨?_, hs.used⟩
    show ∀ r ∈ (Store.finish s.secrets id' row m).2.1, _
    rcases Store.finish_clears s.secrets id' row m with ht | ⟨p, _, _, ht⟩
    · rw [ht]
      exact hs.empty
    · rw [ht]
      exact cleared_clearWhere p hs.empty

end Spent

section SpentRuns

variable {τ : Type} [Sub τ] [LT τ] [DecidableLT τ] [OfNat τ 1] {e : Setup τ} {s : State τ} {id : Text}

/-- **No event brings a spent secret back**, while ids are not issued twice. -/
theorem Spent.step (hs : Spent e.freshId id s.records) (event : Event τ)
    (hids : Store.DistinctIds e.freshId (e.step s event).records.issued) :
    Spent e.freshId id (e.step s event).records := by
  cases event with
  | request now d =>
    have hc : Spent (e.context now).freshId id s.records := hs
    exact hc.effect (serve_effect e.policy (e.context now) s d) hids
  | purge now => exact ⟨fun r hr => hs.empty r (mem_purge hr), hs.used⟩
  | tamper other =>
    refine ⟨?_, hs.used⟩
    intro r' hr' hid
    obtain ⟨r, hr, hheader, rfl | ⟨hrid, first, hfirst, hdata⟩⟩ := mem_tampered hr'
    · exact hs.empty r' hr hid
    · -- a drill finds no envelope under the id
      rw [hheader] at hid
      obtain ⟨hmem, hfid⟩ := Table.find?_eq_some hfirst
      exact absurd (hs.empty first hmem (hfid.trans (hrid.symm.trans hid))) hdata

/-- **A spent secret stays spent**, as long as ids are not issued twice. -/
theorem Spent.run (hs : Spent e.freshId id s.records) (events : List (Event τ))
    (hids : Store.DistinctIds e.freshId (e.run s events).records.issued) :
    Spent e.freshId id (e.run s events).records := by
  induction events generalizing s with
  | nil => exact hs
  | cons event events ih =>
    exact ih (hs.step event (hids.mono (issued_le_run e (e.step s event) events))) hids

end SpentRuns

/-! ## §5. Reads -/

section Reads

variable {c : Context} {s : Records} {a : Account} {h : Header} {d : Text} {m : Moment}

/-- A clock that shows a moment tells that time. -/
theorem time_of_clock (hm : c.now.clock = .ok m) : c.time = .ok (Stamp.utc m) := by
  unfold Context.time
  rw [hm]

/-- The rows that a read of a standing secret leaves. -/
def afterRead (h : Header) (t : Table) : Table :=
  if h.singleUse then t.clearWhere (fun r => r.hasId h.id && r.data.isSome) else t

/-- **A read of a standing secret, under its deadline, gets its envelope.** -/
theorem readEndpoint_standing (hs : Standing a h d s) (hid : isIdentifier h.id = true)
    (hscalar : h.id.isScalar = true) (hclock : c.now.clock = .ok m) (hm : m ≤ h.expiresAt) :
    readEndpoint c s h.id = (okReply (Store.publicJson h d), s.withSecrets (afterRead h s.secrets)) := by
  -- the only row of the id is the one that is loaded
  have hload : Store.load s.secrets h.id = .ok ⟨h, some d⟩ := by
    rcases Store.load_cases s.secrets h.id with ⟨r, hr, hrid, hload⟩ | ⟨hnone, _⟩ | ⟨e, he, _⟩
    · rw [hload, hs.only r hr hrid]
    · exact absurd rfl (hnone _ hs.row)
    · rw [Store.encodable_eq_ok_iff.mpr (by simpa using hscalar)] at he
      cases he
  have hlive : (Row.mk h (some d)).view m = .live h d := view_of_le hm
  have hfinish : (Store.finish s.secrets h.id ⟨h, some d⟩ m).1 = .live h d
      ∧ (Store.finish s.secrets h.id ⟨h, some d⟩ m).2.1 = afterRead h s.secrets := by
    unfold afterRead
    cases honce : h.singleUse with
    | false =>
      rw [Store.finish_of_lasting hlive honce]
      exact ⟨rfl, rfl⟩
    | true =>
      refine Store.finish_of_present hlive honce ?_
      intro hgone
      exact absurd (hgone _ hs.row rfl) (by simp)
  have hget : (Store.get s.secrets h.id (Stamp.utc m)).result = .ok (.live h d)
      ∧ (Store.get s.secrets h.id (Stamp.utc m)).table = afterRead h s.secrets := by
    unfold Store.get
    rw [utc_utc]
    dsimp only
    rw [hload]
    exact ⟨congrArg Except.ok hfinish.1, hfinish.2⟩
  unfold readEndpoint
  rw [hid, time_of_clock hclock]
  dsimp only
  rw [if_neg (by simp), hget.1, hget.2]
  rfl

/-- After a read of a secret that one read uses up, the secret is spent. -/
theorem spent_afterRead (honce : h.singleUse = true) {freshId : Nat → Text}
    (hused : ∃ k < s.issued, freshId k = h.id) :
    Spent freshId h.id (s.withSecrets (afterRead h s.secrets)) := by
  refine ⟨?_, hused⟩
  show ∀ r ∈ afterRead h s.secrets, _
  unfold afterRead
  rw [if_pos honce]
  intro r hr hid
  exact Store.Table.cleared_clearWhere hr hid

/-- After a read of any other secret, it stands. -/
theorem standing_afterRead (hs : Standing a h d s) (hlasting : h.singleUse = false) :
    Standing a h d (s.withSecrets (afterRead h s.secrets)) := by
  unfold afterRead
  rw [hlasting]
  exact hs

/-- **A reader of an id whose rows are all expired is told that there is none.** -/
theorem readEndpoint_gone {id : Text} (he : Store.encodable [id] = .ok ())
    (hclock : c.now.clock = .ok m) (hgone : ∀ r ∈ s.secrets, r.header.id = id → r.isGone m = true) :
    (readEndpoint c s id).1 = ErrorAnswer.secretNotFound.reply := by
  unfold readEndpoint
  split
  next => rfl
  next =>
    rw [time_of_clock hclock]
    dsimp only
    -- the expired view and the missing row get the same reply
    rcases Store.get_of_gone (utc_utc m) he hgone with ⟨v, hexpired⟩ | hnone
    · rw [hexpired]
    · rw [hnone]
      rfl

/-- **A read of a spent secret finds nothing.** -/
theorem readEndpoint_spent {freshId : Nat → Text} {id : Text} (hs : Spent freshId id s)
    (hscalar : id.isScalar = true) (hclock : c.now.clock = .ok m) :
    (readEndpoint c s id).1 = ErrorAnswer.secretNotFound.reply := by
  refine readEndpoint_gone (Store.encodable_eq_ok_iff.mpr (by simpa using hscalar)) hclock ?_
  intro r hr hid
  exact Row.isGone_iff.mpr (.inl (hs.empty r hr hid))

end Reads

end SealedDrop.Server
