/-
  SealedDrop.Proofs.Server.Ownership
  ──────────────────────────────────
  **ONLY THE OWNER'S KEY ACTS FOR THE OWNER.**

  The table of secrets only ever grows at its end (`Table.insert`), and rows keep
  their place and their header (`Table.clearWhere`).  What `serve` may do to one
  row is therefore said by position: a row stays as it is or loses its envelope,
  and each loss, each new row and each list of rows has a request behind it that
  its owner signed (`Asks`), or, for a loss, a read that the row itself provides
  for.

  That a read clears the row it has looked at, and no other of that id, needs
  an invariant of runs: ids are unique in the table (`DistinctRows`).

  Main results:
    • `Effect.distinctRows` — every request keeps ids unique,
    • `Effect.kept`, `Effect.created` — one request, row by row,
    • `only_owner_acts` — every request of every run.
-/
import SealedDrop.Client.Operation
import SealedDrop.Proofs.Server.Effect

namespace SealedDrop.Server

open Http (Request Response)

/-! ## §1. Runs of requests -/

section Runs

variable {τ : Type} [Sub τ] [LT τ] [DecidableLT τ] [OfNat τ 1]

/-- The server after requests in order, each with the context it meets. -/
def serveAll (p : RateLimit.Policy τ) (s : State τ) (steps : List (Context × Delivery τ)) : State τ :=
  steps.foldl (fun s x => (serve p x.1 s x.2).2) s

end Runs

/-- No two rows share an id. -/
def DistinctRows (t : Store.Table) : Prop := (t.map fun r => r.header.id).Nodup

theorem DistinctRows.eq {t : Store.Table} (h : DistinctRows t) {r r' : Store.Row} (hr : r ∈ t)
    (hr' : r' ∈ t) (hid : r.header.id = r'.header.id) : r = r' :=
  Store.Table.Keyed.eq h hr hr' hid

theorem DistinctRows.clearWhere {t : Store.Table} (h : DistinctRows t) (p : Store.Row → Bool) :
    DistinctRows (t.clearWhere p) :=
  Store.Table.Keyed.clearWhere h p

theorem DistinctRows.insert {t : Store.Table} (h : DistinctRows t) {r : Store.Row}
    (hr : ∀ x ∈ t, x.header.id ≠ r.header.id) : DistinctRows (t.insert r) :=
  Store.Table.Keyed.insert h hr

/-! ## §2. One request, row by row -/

/-- A request posts to a route without parameters: to its path, which the router also takes with one
line feed behind it. -/
def Posts (r : Request) (route : Route) : Prop :=
  r.method = Text.ofString "POST"
    ∧ (r.path = route.fixedPath ∨ r.path = route.fixedPath ++ Text.ofString "\n")

theorem posts_of_goesTo {r : Request} {route : Route} {parameter : Text} (hroute : route ≠ .read)
    (h : GoesTo r route parameter) : Posts r route := by
  obtain ⟨hmethod, hfit⟩ := destination_eq_route h
  refine ⟨?_, Route.eq_of_fit?_fixed hroute hfit⟩
  rw [← hmethod]
  cases route with
  | read => exact absurd rfl hroute
  | register | create | list | expire => rfl

/-- The router takes a posted request to its route. -/
theorem goesTo_of_posts {r : Request} {route : Route} (hroute : route ≠ .read) (h : Posts r route) :
    GoesTo r route [] := by
  obtain ⟨hmethod, hpath⟩ := h
  unfold GoesTo
  rw [hmethod]
  rcases hpath with hpath | hpath
  · rw [hpath]
    cases route with
    | read => exact absurd rfl hroute
    | register | create | list | expire => decide +kernel
  · rw [hpath]
    cases route with
    | read => exact absurd rfl hroute
    | register | create | list | expire => decide +kernel

/-- What entitles a request to clear the envelope of a row. -/
inductive MayClear (c : Context) (s : Records) (r : Request) (h : Store.Header) : Prop where
  /-- The owner signed an expiration that names the row. -/
  | expire {q : Form.Expiration} (posts : Posts r .expire) (signed : Asks s.accounts h.owner r.body q)
      (named : q.id = h.id)
  /-- It reads the row, and the row is single-use. -/
  | use (get : r.method = Text.ofString "GET") (path : r.path = Route.read.fixedPath ++ h.id)
      (once : h.singleUse = true)
  /-- It reads the row past its deadline. -/
  | late {now : Stamp} {m : Moment} (get : r.method = Text.ofString "GET")
      (path : r.path = Route.read.fixedPath ++ h.id) (clock : c.time = .ok now)
      (moment : Store.utc now = .ok m) (past : h.expiresAt < m)

section Effects

variable {c : Context} {s s' : Records} {r : Request}

theorem Effect.distinctRows (h : Effect c s r s') (hs : DistinctRows s.secrets) :
    DistinctRows s'.secrets := by
  cases h with
  | nothing => exact hs
  | account => exact hs
  | draw => exact hs
  | create route signed clock valid fresh => exact hs.insert fresh
  | expire route signed => exact hs.clearWhere _
  | @read id now m row route clock moment found =>
    rcases Store.finish_clears s.secrets id row m with ht | ⟨p, _, _, ht⟩
    · show DistinctRows (Store.finish s.secrets id row m).2.1
      rw [ht]
      exact hs
    · show DistinctRows (Store.finish s.secrets id row m).2.1
      rw [ht]
      exact hs.clearWhere p

/-- A cleared row has its place and its header. -/
theorem kept_of_clearWhere {t : Store.Table} {p : Store.Row → Bool} {i : Nat} {row : Store.Row}
    (hi : t[i]? = some row) (hwhy : p row = true → row.data ≠ none → MayClear c s r row.header) :
    ∃ row', (t.clearWhere p)[i]? = some row' ∧ row'.header = row.header
      ∧ (row'.data = row.data ∨ row'.data = none ∧ MayClear c s r row.header) := by
  rw [Store.Table.getElem?_clearWhere, hi]
  refine ⟨row.clearIf p, rfl, (Store.Row.clearIf_stems p row).1, ?_⟩
  unfold Store.Row.clearIf
  split
  next hp =>
    by_cases hdata : row.data = none
    · exact .inl hdata.symm
    · exact .inr ⟨rfl, hwhy hp hdata⟩
  next => exact .inl rfl

/-- **A row keeps its place and its header, and its envelope unless the request may clear it.** -/
theorem Effect.kept (h : Effect c s r s') (hs : DistinctRows s.secrets) {i : Nat} {row : Store.Row}
    (hi : s.secrets[i]? = some row) :
    ∃ row', s'.secrets[i]? = some row' ∧ row'.header = row.header
      ∧ (row'.data = row.data ∨ row'.data = none ∧ MayClear c s r row.header) := by
  cases h with
  | nothing => exact ⟨row, hi, rfl, .inl rfl⟩
  | account => exact ⟨row, hi, rfl, .inl rfl⟩
  | draw => exact ⟨row, hi, rfl, .inl rfl⟩
  | create route signed clock valid fresh =>
    refine ⟨row, ?_, rfl, .inl rfl⟩
    obtain ⟨hlt, _⟩ := List.getElem?_eq_some_iff.mp hi
    exact (List.getElem?_append_left hlt).trans hi
  | expire route signed =>
    refine kept_of_clearWhere hi ?_
    intro hp _
    obtain ⟨hid, hnone | howner⟩ := Store.Row.isOf_iff.mp hp
    · cases hnone
    · injection howner with howner
      rw [howner] at signed
      exact .expire (posts_of_goesTo (by decide) route) signed hid.symm
  | @read id now m loaded route clock moment found =>
    obtain ⟨hget, hfit⟩ := destination_eq_route route
    rcases Store.finish_clears s.secrets id loaded m with ht | ⟨p, hid, hwhy, ht⟩
    · exact ⟨row, by rw [← hi]; exact congrArg (fun t => t[i]?) ht, rfl, .inl rfl⟩
    · have hkept := kept_of_clearWhere (t := s.secrets) (p := p) (c := c) (s := s) (r := r) hi ?_
      · obtain ⟨row', hrow', hrest⟩ := hkept
        exact ⟨row', by rw [← hrow']; exact congrArg (fun t => t[i]?) ht, hrest⟩
      · intro hp hdata
        -- the row that was loaded is the row that is cleared
        have hrow : row = loaded := by
          rcases Store.load_cases s.secrets id with ⟨x, hx, hxid, hload⟩ | ⟨_, hload⟩ | ⟨e, _, hload⟩
          · rw [found] at hload
            injection hload with hload
            subst hload
            exact hs.eq (List.mem_of_getElem? hi) hx ((hid row hp).trans hxid.symm)
          · rw [found] at hload
            cases hload
          · rw [found] at hload
            cases hload
        subst hrow
        have hpath : r.path = Route.read.fixedPath ++ row.header.id := by
          rw [hid row hp]
          exact Route.eq_of_fit?_read hfit
        rcases hwhy with hnone | hlate | honce
        · exact absurd hnone hdata
        · exact .late hget.symm hpath clock moment hlate
        · exact .use hget.symm hpath honce

/-- **A new row is created by its owner.** -/
theorem Effect.created (h : Effect c s r s') {i : Nat} {row : Store.Row}
    (hi : s.secrets.length ≤ i) (hrow : s'.secrets[i]? = some row) :
    ∃ q : Form.Creation, Posts r .create ∧ Asks s.accounts row.header.owner r.body q := by
  -- a row at a new place needs a longer table, and only a creation makes one
  have hold : ∀ {t : Store.Table}, t.length = s.secrets.length → t[i]? = some row → False := by
    intro t ht hti
    obtain ⟨hlt, _⟩ := List.getElem?_eq_some_iff.mp hti
    omega
  have hclear : ∀ p, (s.secrets.clearWhere p).length = s.secrets.length := fun p => List.length_map _
  cases h with
  | nothing => exact (hold rfl hrow).elim
  | account => exact (hold rfl hrow).elim
  | draw => exact (hold rfl hrow).elim
  | @create q now created expires parameter route signed clock valid fresh =>
    have hmem := List.mem_of_getElem? hrow
    have hnew : row = Store.Request.row ⟨q.username, q.data, q.expiresAt, q.singleUse⟩
        (c.freshId s.issued) created expires := by
      have := (List.getElem?_append_right hi).symm.trans hrow
      obtain ⟨hlt, heq⟩ := List.getElem?_eq_some_iff.mp this
      rw [← heq]
      exact List.getElem_singleton _
    refine ⟨q, posts_of_goesTo (by decide) route, ?_⟩
    rw [hnew]
    exact signed
  | expire route signed => exact (hold (hclear _) hrow).elim
  | @read id now m loaded route clock moment found =>
    rcases Store.finish_clears s.secrets id loaded m with ht | ⟨p, _, _, ht⟩
    · exact (hold (congrArg List.length ht) hrow).elim
    · exact (hold ((congrArg List.length ht).trans (hclear p)) hrow).elim

end Effects

/-! ## §3. Every request of every run -/

/-- What a request, its response and the records before and after it have to do with owners. -/
structure Rightful (c : Context) (r : Request) (s : Records) (a : Response) (s' : Records) :
    Prop where
  /-- Rows keep their places and headers; an envelope is only cleared by a request that may. -/
  kept : ∀ (i : Nat) (row : Store.Row), s.secrets[i]? = some row → ∃ row', s'.secrets[i]? = some row'
    ∧ row'.header = row.header
    ∧ (row'.data = row.data ∨ row'.data = none ∧ MayClear c s r row.header)
  /-- A new row is posted and signed by its owner. -/
  created : ∀ (i : Nat) (row : Store.Row), s.secrets.length ≤ i → s'.secrets[i]? = some row →
    ∃ q : Form.Creation, Posts r .create ∧ Asks s.accounts row.header.owner r.body q
  /-- Rows are only listed for their owner, who has signed for the list. -/
  listed : ∀ vs, a.body = .json (.list vs) → ∃ (u : Text) (q : Form.Listing) (m : Moment),
    Posts r .list ∧ Asks s.accounts u r.body q
      ∧ ∀ v ∈ vs, ∃ row ∈ s.secrets, row.header.owner = u ∧ v = (row.view m).toJson
  /-- Whoever asks for a list and gets none is told why, and no more. -/
  refused : ∀ parameter, GoesTo r .list parameter → (∀ vs, a.body ≠ .json (.list vs)) →
    IsRefusal a.body

section Theorem

variable {τ : Type} [Sub τ] [LT τ] [DecidableLT τ] [OfNat τ 1]

/-- **What every effect keeps, every run keeps.** -/
theorem serveAll_invariant {P : Records → Prop}
    (hstep : ∀ {c : Context} {s s' : Records} {r : Request}, Effect c s r s' → P s → P s')
    (p : RateLimit.Policy τ) (s : State τ) (hs : P s.records) (steps : List (Context × Delivery τ)) :
    P (serveAll p s steps).records := by
  induction steps generalizing s with
  | nil => exact hs
  | cons x steps ih => exact ih _ (hstep (serve_effect p x.1 s x.2) hs)

theorem distinctRows_serveAll (p : RateLimit.Policy τ) (s : State τ)
    (hs : DistinctRows s.records.secrets) (steps : List (Context × Delivery τ)) :
    DistinctRows (serveAll p s steps).records.secrets :=
  serveAll_invariant (P := fun s => DistinctRows s.secrets) Effect.distinctRows p s hs steps

/-- **Only the owner's key acts for the owner**, at every request of every run from an empty server. -/
theorem only_owner_acts (p : RateLimit.Policy τ) (steps : List (Context × Delivery τ)) (c : Context)
    (d : Delivery τ) :
    let s := serveAll p State.empty steps
    Rightful c d.request s.records (serve p c s d).1 (serve p c s d).2.records := by
  intro s
  -- the invariant of runs, then the list of effects of the one request
  have hs : DistinctRows s.records.secrets := distinctRows_serveAll p State.empty List.nodup_nil steps
  have heffect := serve_effect p c s d
  refine ⟨?_, ?_, ?_, ?_⟩
  · intro i row hi
    exact heffect.kept hs hi
  · intro i row hi hrow
    exact heffect.created hi hrow
  · intro vs hvs
    obtain ⟨q, m, parameter, hroute, hq, _, rfl⟩ := serve_lists hvs
    refine ⟨q.username, q, m, posts_of_goesTo (by decide) hroute, hq, ?_⟩
    intro v hv
    obtain ⟨row, hrow, rfl⟩ := List.mem_map.mp hv
    obtain ⟨hmem, howner⟩ := Store.Table.mem_ofOwner.mp hrow
    exact ⟨row, hmem, howner, rfl⟩
  · intro parameter hroute hnone
    exact serve_refusal hroute hnone

end Theorem

/-! ## §4. A path with a line feed

The router takes a fixed path with one line feed behind it for the path itself, so `Posts` has to
allow for it: a creation posted there is carried out. -/

/-- A client with a name and a key. -/
def alice : Client := ⟨"http://127.0.0.1:8000", some "alice", some (List.replicate 32 7)⟩

/-- A request with a payload, as a client sends it. -/
def carrying (target : Text) (p : Except Client.Fault Form.SignedPayload) : Request :=
  Client.requestOf "127.0.0.1:8000" target p.toOption

/-- The registration of the client. -/
def registration : Request :=
  carrying "/auth/register" (alice.signed
    (Form.Registration.mk "alice" (Base64.encode (Ed25519.publicKey (List.replicate 32 7)))))

/-- A creation for an hour, sent to a path with a line feed. -/
def creationBehindLineFeed : Request :=
  carrying "/secret-sharing/create%0A" (alice.signed
    (Form.Creation.mk "alice" "c2VhbGVk" ⟨⟨3600 * microsPerSecond, by decide⟩, none⟩ false))

/-- The first moment of the calendar, on a server that numbers its secrets. -/
def firstContext : Context := ⟨none, fun n => Text.hex 32 (n + 1), ⟨.first, some 0⟩, .blank⟩

/-- The steps of a run that registers the client. -/
def registering : List (Context × Delivery Int) := [(firstContext, ⟨registration, none, 0⟩)]

/-- The creation is carried out, and its secret is the first. -/
theorem run_creationBehindLineFeed :
    (serveAll ⟨10, 30⟩ State.empty registering).records.secrets.length = 0
      ∧ (serve ⟨10, 30⟩ firstContext (serveAll ⟨10, 30⟩ State.empty registering)
        ⟨creationBehindLineFeed, none, 0⟩).2.records.secrets.length = 1 := by
  set_option maxRecDepth 100000 in decide +kernel

/-- A new row does not need a post to the very path of creation. -/
theorem created_behind_line_feed :
    ¬ ∀ (p : RateLimit.Policy Int) (steps : List (Context × Delivery Int)) (c : Context)
        (d : Delivery Int) (i : Nat) (row : Store.Row),
      (serveAll p State.empty steps).records.secrets.length ≤ i →
      (serve p c (serveAll p State.empty steps) d).2.records.secrets[i]? = some row →
      d.request.method = Text.ofString "POST" ∧ d.request.path = Route.create.fixedPath := by
  intro h
  obtain ⟨hbefore, hafter⟩ := run_creationBehindLineFeed
  obtain ⟨row, hrow⟩ := List.length_eq_one_iff.mp hafter
  have hget : (serve ⟨10, 30⟩ firstContext (serveAll ⟨10, 30⟩ State.empty registering)
      ⟨creationBehindLineFeed, none, 0⟩).2.records.secrets[0]? = some row := by
    rw [hrow]
    rfl
  have hpath := (h ⟨10, 30⟩ registering firstContext ⟨creationBehindLineFeed, none, 0⟩ 0 row
    (Nat.le_of_eq hbefore) hget).2
  revert hpath
  decide +kernel

end SealedDrop.Server
