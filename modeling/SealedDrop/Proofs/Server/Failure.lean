/-
  SealedDrop.Proofs.Server.Failure
  ────────────────────────────────
  **A REQUEST THAT FAILS LEAVES THE TABLES AS THEY WERE.**

  `serve` can fail in many places: the limiter, the rules for other origins, the
  router, the checks of the body, the store, a clock that tells nothing.  Each of
  them comes before anything is written, so the tables of accounts and secrets
  stay as they were (`Records.SameTables`).  Nothing needs to be said about how
  each of them fails; it is enough that an endpoint that has written something
  says so with a status below 300.

  There is one exception.  Whoever reads a secret past its deadline is told
  that there is none, and the read clears the envelope of that one row:

      readsLate — the rows that a request reads past their deadline

  A read that finds no live row clears exactly these (`get_of_dead`).  Which
  rows they are, and that they are one at most, depends on ids: those of a
  running server were issued, so they are keys, and a path that ends in one
  leads to the endpoint of reads.

  Main results:
    • `get_of_dead` — what a read clears that finds nothing live,
    • `keyed_run` — ids stay keys of the table as a server runs,
    • `respond_failed` — one failed request behind the limiter,
    • `failed_leaves_tables` — one failed request of any run.
-/
import SealedDrop.Proofs.Client.Sharing
import SealedDrop.Proofs.Server.Anonymity

namespace SealedDrop

open Http (Request Response)
open Store (Row Table disclosed)

/-! ## §1. Reads that find nothing live -/

namespace Store

section Dead

variable {t : Table} {id : Text} {now : Stamp} {m : Moment}

/-- Two conditions that do the same to every row of a table clear it alike. -/
theorem Table.clearWhere_congr {p q : Row → Bool} (h : ∀ r ∈ t, r.clearIf p = r.clearIf q) :
    t.clearWhere p = t.clearWhere q :=
  List.map_congr_left h

/-- A condition that holds of no row clears nothing. -/
theorem Table.clearWhere_of_none {p : Row → Bool} (h : ∀ r ∈ t, p r = false) :
    t.clearWhere p = t := by
  unfold clearWhere
  have hsame : ∀ r ∈ t, (if p r = true then r.clear else r) = r := fun r hr =>
    if_neg (Bool.eq_false_iff.mp (h r hr))
  rw [List.map_congr_left hsame, List.map_id']

theorem Row.clearIf_congr {p q : Row → Bool} {r : Row} (h : p r = q r) :
    r.clearIf p = r.clearIf q := by
  unfold clearIf
  rw [h]

/-- Clearing a row that has no envelope changes nothing. -/
theorem Row.clearIf_of_data_none {p : Row → Bool} {r : Row} (h : r.data = none) :
    r.clearIf p = r := by
  unfold clearIf
  split
  · obtain ⟨header, data⟩ := r
    cases h
    rfl
  · rfl

/-- **A read that finds no live row clears the rows of its id that are past their deadline.** -/
theorem get_of_dead (hm : utc now = .ok m) (he : encodable [id] = .ok ()) (hkeyed : t.Keyed)
    (hdead : ∀ r ∈ t, r.header.id = id → r.isLive now = false) :
    (get t id now).table = t.clearWhere fun r => r.hasId id && r.isPast now := by
  rcases get_cases t id now with
    ⟨e, hu, _⟩ | ⟨n, hn, ⟨r, hr, hid, _, hg⟩ | ⟨hnone, hg⟩ | ⟨e, hbad, _⟩⟩
  · rw [hm] at hu
    cases hu
  · have hsame : m = n := Except.ok.inj (hm.symm.trans hn)
    subst hsame
    have hgone : r.isGone m = true := (Row.isLive_eq_false_iff hm).mp (hdead r hr hid)
    rw [hg, finished, finish_of_expired (Row.view_of_isGone hgone)]
    refine Table.clearWhere_congr ?_
    intro x hx
    by_cases hxid : x.header.id = id
    · -- the row of the id is empty already, or past its deadline
      have hxr : x = r := hkeyed.eq hx hr (hxid.trans hid.symm)
      rcases Row.isGone_iff.mp hgone with hdata | hpast
      · rw [hxr, Row.clearIf_of_data_none hdata, Row.clearIf_of_data_none hdata]
      · refine Row.clearIf_congr ?_
        rw [hxr, (Row.isPast_iff hm).mpr hpast, Bool.and_true]
    · have hno : x.hasId id = false := decide_eq_false hxid
      refine Row.clearIf_congr ?_
      rw [hno, Bool.false_and]
  · rw [hg]
    refine (Table.clearWhere_of_none ?_).symm
    intro r hr
    have hno : r.hasId id = false := decide_eq_false (hnone r hr)
    rw [hno, Bool.false_and]
  · rw [he] at hbad
    cases hbad

end Dead

end Store

namespace Server

/-! ## §2. Ids of a running server -/

section Runs

variable {τ : Type} [Sub τ] [LT τ] [DecidableLT τ] [OfNat τ 1] {e : Setup τ} {s : State τ}

/-- A drill keeps the ids of a table. -/
theorem keyed_tampered {t : Table} (h : t.Keyed) (id : Text) : (tampered t id).Keyed := by
  -- the drill writes envelopes, and leaves every id where it is
  have hids : (tampered t id).map (fun r => r.header.id) = t.map fun r => r.header.id := by
    unfold tampered Store.tamper
    cases Utf8.firstSurrogates id with
    | some e => rfl
    | none =>
      dsimp only
      cases (t.find? id).bind Row.data with
      | none => rfl
      | some d =>
        dsimp only
        cases Store.tamperText d with
        | error e => rfl
        | ok d' =>
          dsimp only
          rw [List.map_map]
          refine List.map_congr_left ?_
          intro r _
          show (if r.header.id = id then Row.mk r.header (some d') else r).header.id = r.header.id
          split <;> rfl
  unfold Table.Keyed
  rw [hids]
  exact h

/-- No event puts two rows under one id. -/
theorem keyed_step (h : s.records.secrets.Keyed) (event : Event τ) :
    (e.step s event).records.secrets.Keyed := by
  cases event with
  | request now d => exact (serve_effect e.policy (e.context now) s d).distinctRows h
  | purge now =>
    show (Store.purge s.records.secrets now).table.Keyed
    rcases Store.purge_cases s.records.secrets now with ⟨m, _, _, ht⟩ | ⟨f, _, ht⟩
    · rw [ht]
      exact h.dropWhere _
    · rw [ht]
      exact h
  | tamper id => exact keyed_tampered h id

/-- **Ids stay keys of the table, whatever a server meets.** -/
theorem keyed_run (h : s.records.secrets.Keyed) (events : List (Event τ)) :
    (e.run s events).records.secrets.Keyed := by
  induction events generalizing s with
  | nil => exact h
  | cons event events ih => exact ih (keyed_step h event)

end Runs

/-! ## §3. Endpoints that fail -/

/-- The status of a reply. -/
def Reply.status : Reply → Nat
  | .response a => a.status
  | .breakdown => breakdownResponse.status

/-- The tables of the records are the same; ids that were used up in vain do not show in them. -/
structure Records.SameTables (s s' : Records) : Prop where
  accounts : s'.accounts = s.accounts
  secrets : s'.secrets = s.secrets

theorem Records.SameTables.refl (s : Records) : s.SameTables s := ⟨rfl, rfl⟩

section Endpoints

variable {c : Context} {s : Records} {body : Bytes} {id : Text} {m : Moment}

/-- A reply with a document is no failure. -/
theorem not_failed_okReply {j : Json} (h : 300 ≤ (okReply j).status) : False :=
  absurd h (by show ¬ 300 ≤ 200; decide)

/-- A registration that fails adds no account. -/
theorem registerEndpoint_failed (h : 300 ≤ (registerEndpoint s body).1.status) :
    s.SameTables (registerEndpoint s body).2 := by
  unfold registerEndpoint at h ⊢
  split
  next => exact .refl s
  next hq =>
    rw [hq] at h
    dsimp only at h
    split
    next hregister =>
      rw [hregister] at h
      exact (not_failed_okReply h).elim
    next => exact .refl s
    next => exact .refl s
    next => exact .refl s
    next => exact .refl s

/-- A creation that fails inserts no row; an id may be used up. -/
theorem createEndpoint_failed (h : 300 ≤ (createEndpoint c s body).1.status) :
    s.SameTables (createEndpoint c s body).2 := by
  unfold createEndpoint at h ⊢
  split
  next => exact .refl s
  next q hq =>
    rw [hq] at h
    split
    next => exact .refl s
    next now hnow =>
      rw [hnow] at h
      dsimp only at h ⊢
      rcases Store.create_cases c.limit s.secrets (c.freshId s.issued)
          ⟨q.username, q.data, q.expiresAt, q.singleUse⟩ now with ⟨_, _, _, _, _, _, ho⟩ | ⟨e, ho⟩
      · rw [ho] at h
        exact (not_failed_okReply h).elim
      · -- an id may be used up, but nothing is inserted
        rw [ho]
        exact ⟨rfl, rfl⟩

/-- An expiration that fails clears nothing: it found no row with an envelope. -/
theorem expireEndpoint_failed (h : 300 ≤ (expireEndpoint s body).1.status) :
    s.SameTables (expireEndpoint s body).2 := by
  unfold expireEndpoint at h ⊢
  split
  next => exact .refl s
  next q hq =>
    rw [hq] at h
    dsimp only at h ⊢
    rcases Store.expire_cases s.secrets q.id (some q.username) with ⟨_, ho, _⟩ | ⟨e, _, ho⟩
    · rw [ho] at h
      exact (not_failed_okReply h).elim
    · rw [ho]
      exact ⟨rfl, rfl⟩

/-- A parameter that is no id is turned down before the table is read. -/
theorem readEndpoint_improper (h : isIdentifier id = false) : (readEndpoint c s id).2 = s := by
  unfold readEndpoint
  rw [h]
  rfl

/-- A clock that shows no moment ends a read in a 500, with nothing changed. -/
theorem readEndpoint_clockless {f : Stamp.ClockFault} (hid : isIdentifier id = true)
    (h : c.now.clock = .error f) :
    (readEndpoint c s id).1.status = 500 ∧ (readEndpoint c s id).2 = s := by
  unfold readEndpoint Context.time
  rw [hid, h]
  exact ⟨rfl, rfl⟩

/-- **A read that fails clears the rows of its id that are past their deadline**, and changes
nothing else. -/
theorem readEndpoint_failed (hclock : c.now.clock = .ok m) (he : Store.encodable [id] = .ok ())
    (hid : isIdentifier id = true) (hkeyed : s.secrets.Keyed)
    (h : 300 ≤ (readEndpoint c s id).1.status) :
    (readEndpoint c s id).1.status = 404
      ∧ (readEndpoint c s id).2
        = s.withSecrets (s.secrets.clearWhere fun r => r.hasId id && r.isPast c.now) := by
  have hm := utc_of_clock hclock
  rw [readEndpoint_eq hclock s hid] at h ⊢
  rcases Store.get_disclosed hm he hkeyed with ⟨r, _, _, _, hresult, _⟩ | ⟨hdead, hresult, _⟩
  · rw [hresult] at h
    exact (not_failed_okReply h).elim
  · rw [hresult, Store.get_of_dead hm he hkeyed hdead]
    exact ⟨rfl, rfl⟩

end Endpoints

/-! ## §4. Requests that fail -/

/-- Whether a request reads a row past its deadline: it gets the path of its id. -/
def readsLate (now : Stamp) (r : Request) (row : Row) : Bool :=
  r.method = "GET" ∧ r.path = Route.read.fixedPath ++ row.header.id ∧ row.isPast now

/-- Only a `GET` reads, so nothing else reads late. -/
theorem readsLate_of_method {now : Stamp} {r : Request} (h : r.method ≠ "GET") (row : Row) :
    readsLate now r row = false :=
  decide_eq_false fun hlate => h hlate.1

/-- A request that gets the path of an id reads the rows of that id. -/
theorem readsLate_of_path {now : Stamp} {r : Request} {id : Text} (hget : r.method = "GET")
    (hpath : r.path = Route.read.fixedPath ++ id) (row : Row) :
    readsLate now r row = (row.hasId id && row.isPast now) := by
  unfold readsLate Row.hasId
  rw [Bool.eq_iff_iff, Bool.and_eq_true, decide_eq_true_iff, decide_eq_true_iff, hpath,
    List.append_cancel_left_eq]
  constructor
  · rintro ⟨_, hid, hpast⟩
    exact ⟨hid.symm, hpast⟩
  · rintro ⟨hid, hpast⟩
    exact ⟨hget, hid.symm, hpast⟩

/-- Two rows that one request reads have the same id. -/
theorem id_of_readsLate {now : Stamp} {r : Request} {x y : Row} (hx : readsLate now r x = true)
    (hy : readsLate now r y = true) : x.header.id = y.header.id := by
  have hpath := (of_decide_eq_true hx).2.1.symm.trans (of_decide_eq_true hy).2.1
  exact List.append_cancel_left hpath

/-- A path that ends in an id leads to the endpoint of reads. -/
structure Addressable (id : Text) : Prop where
  proper : isIdentifier id = true
  route : destination "GET" (Route.read.fixedPath ++ id) = .route .read id

theorem addressable_identifierOf (octets : Bytes) : Addressable (identifierOf octets) :=
  ⟨isIdentifier_identifierOf octets, destination_read octets⟩

/-- What a request that fails leaves of the tables. -/
structure FailsCleanly (now : Stamp) (r : Request) (s : Records) (status : Nat) (s' : Records) :
    Prop where
  /-- The accounts are what they were. -/
  accounts : s'.accounts = s.accounts
  /-- The secrets are what they were, unless there is said to be none. -/
  untouched : status ≠ 404 → s'.secrets = s.secrets
  /-- Then the row that the request reads past its deadline is cleared, and no other. -/
  overdue : status = 404 → s'.secrets = s.secrets.clearWhere (readsLate now r)

section Requests

variable {c : Context} {s s' : Records} {r : Request}

/-- A request that reads nothing past its deadline fails cleanly if it leaves the tables. -/
theorem FailsCleanly.of_same {now : Stamp} {status : Nat} (h : s.SameTables s')
    (hnone : status = 404 → ∀ row ∈ s.secrets, readsLate now r row = false) :
    FailsCleanly now r s status s' := by
  refine ⟨h.accounts, fun _ => h.secrets, ?_⟩
  intro hstatus
  rw [h.secrets, Table.clearWhere_of_none (hnone hstatus)]

/-- A request that reads a row late goes to the endpoint of reads. -/
theorem goesTo_of_readsLate {now : Stamp} {row : Row} (hid : Addressable row.header.id)
    (h : readsLate now r row = true) : GoesTo r .read row.header.id := by
  obtain ⟨hget, hpath, _⟩ := of_decide_eq_true h
  unfold GoesTo
  rw [hget, hpath]
  exact hid.route

/-- A request that goes nowhere reads nothing. -/
theorem FailsCleanly.of_nowhere {now : Stamp} {status : Nat}
    (hids : ∀ row ∈ s.secrets, Addressable row.header.id)
    (h : ∀ route parameter, ¬ GoesTo r route parameter) : FailsCleanly now r s status s :=
  .of_same (.refl s) fun _ row hrow =>
    Bool.eq_false_iff.mpr fun hlate => h _ _ (goesTo_of_readsLate (hids row hrow) hlate)

/-- A pre-flight request has a method of its own. -/
theorem method_of_preflight? {answer : Response} (h : preflight? r = some answer) :
    r.method = Text.ofString "OPTIONS" := by
  unfold preflight? at h
  split at h
  next =>
    split at h
    next hoptions => exact hoptions
    next => cases h
  next => cases h

/-- Headers do not change the status of an answer, and a breakdown has that of its bare answer. -/
theorem respond_of_no_preflight (h : preflight? r = none) :
    (respond c s r).1.status = (dispatch c s r).1.status
      ∧ (respond c s r).2 = (dispatch c s r).2 := by
  unfold respond
  rw [h]
  dsimp only
  generalize dispatch c s r = x
  obtain ⟨reply, s'⟩ := x
  cases reply with
  | response a => exact ⟨rfl, rfl⟩
  | breakdown => exact ⟨rfl, rfl⟩

section Dispatch

variable (hkeyed : s.secrets.Keyed) (hids : ∀ row ∈ s.secrets, Addressable row.header.id)

include hkeyed hids

/-- **A read that fails leaves the tables**, but for the row that it reads late. -/
theorem read_failed {id : Text} (hroute : GoesTo r .read id)
    (h : 300 ≤ (readEndpoint c s id).1.status) :
    FailsCleanly c.now r s (readEndpoint c s id).1.status (readEndpoint c s id).2 := by
  obtain ⟨hmethod, hfit⟩ := destination_eq_route hroute
  have hlate : ∀ row, readsLate c.now r row = (row.hasId id && row.isPast c.now) :=
    readsLate_of_path hmethod.symm (Route.eq_of_fit?_read hfit)
  cases hproper : isIdentifier id with
  | false =>
    -- the id of a row would be proper
    rw [readEndpoint_improper hproper]
    refine .of_same (.refl s) ?_
    intro _ row hrow
    rw [hlate, Bool.and_eq_false_imp]
    intro hid
    rw [← Row.hasId_iff.mp hid, (hids row hrow).proper] at hproper
    cases hproper
  | true =>
    cases hclock : c.now.clock with
    | error f =>
      obtain ⟨hstatus, hsame⟩ := readEndpoint_clockless (s := s) hproper hclock
      rw [hstatus, hsame]
      exact .of_same (.refl s) fun hno => absurd hno (by decide)
    | ok m =>
      obtain ⟨hstatus, hcleared⟩ :=
        readEndpoint_failed hclock (encodable_parameter hroute) hproper hkeyed h
      rw [hstatus, hcleared]
      exact ⟨rfl, fun hne => absurd rfl hne, fun _ => Table.clearWhere_congr fun row _ =>
        Row.clearIf_congr (hlate row).symm⟩

/-- **A request that fails at its endpoint leaves the tables**, but for a row that it reads late. -/
theorem dispatch_failed (h : 300 ≤ (dispatch c s r).1.status) :
    FailsCleanly c.now r s (dispatch c s r).1.status (dispatch c s r).2 := by
  unfold dispatch at h ⊢
  cases hd : destination r.method r.path with
  | route route parameter =>
    rw [hd] at h
    -- no route but that of reads takes the method of a read
    have hposts : route ≠ .read → ∀ row, readsLate c.now r row = false := by
      intro hroute
      refine readsLate_of_method ?_
      rw [← (destination_eq_route hd).1]
      cases route with
      | read => exact absurd rfl hroute
      | register | create | list | expire => decide
    cases route with
    | register =>
      exact .of_same (registerEndpoint_failed h) fun _ row _ => hposts (by decide) row
    | create => exact .of_same (createEndpoint_failed h) fun _ row _ => hposts (by decide) row
    | list =>
      refine .of_same ?_ fun _ row _ => hposts (by decide) row
      show s.SameTables (listEndpoint c s r.body).2
      rw [listEndpoint_same]
      exact .refl s
    | expire => exact .of_same (expireEndpoint_failed h) fun _ row _ => hposts (by decide) row
    | read => exact read_failed hkeyed hids hd h
  | page => exact .of_nowhere hids (by simp [GoesTo, hd])
  | otherMethod allowed => exact .of_nowhere hids (by simp [GoesTo, hd])
  | otherPath path => exact .of_nowhere hids (by simp [GoesTo, hd])
  | nowhere => exact .of_nowhere hids (by simp [GoesTo, hd])

/-- **A request that fails behind the limiter leaves the tables**, but for a row it reads late. -/
theorem respond_failed (h : 300 ≤ (respond c s r).1.status) :
    FailsCleanly c.now r s (respond c s r).1.status (respond c s r).2 := by
  cases hpreflight : preflight? r with
  | some answer =>
    have hrespond : respond c s r = (answer, s) := by
      unfold respond
      rw [hpreflight]
    -- a pre-flight request has a method of its own
    have hmethod : r.method ≠ "GET" := by
      rw [method_of_preflight? hpreflight]
      decide
    rw [hrespond]
    exact .of_same (.refl s) fun _ row _ => readsLate_of_method hmethod row
  | none =>
    obtain ⟨hstatus, hrecords⟩ := respond_of_no_preflight (c := c) (s := s) hpreflight
    rw [hstatus] at h ⊢
    rw [hrecords]
    exact dispatch_failed hkeyed hids h

end Dispatch

end Requests

/-! ## §5. Every failed request of every run -/

section Service

variable {τ : Type} [Sub τ] [LT τ] [DecidableLT τ] [OfNat τ 1]

/-- **A failed request leaves every live row.** -/
theorem FailsCleanly.mem_of_isLive {now : Stamp} {r : Request} {s s' : Records} {status : Nat}
    (h : FailsCleanly now r s status s') {row : Row} (hrow : row ∈ s.secrets)
    (hlive : row.isLive now = true) : row ∈ s'.secrets := by
  by_cases hstatus : status = 404
  · rw [h.overdue hstatus]
    refine Table.mem_clearWhere.mpr (.inl ⟨hrow, ?_⟩)
    refine decide_eq_false fun hlate => ?_
    rw [(Row.isLive_eq_true_iff.mp hlive).2] at hlate
    cases hlate.2.2
  · rw [h.untouched hstatus]
    exact hrow

/-- **A request that is answered with a status of 300 or more leaves the tables as they were**, in
every state that a server can reach.  The one exception is the row that it reads past its deadline
and is told not to exist: that row alone is cleared.  No live secret is lost. -/
theorem failed_leaves_tables (e : Setup τ) (before : List (Event τ)) (now : Stamp) (d : Delivery τ)
    (h : 300 ≤ (serve e.policy (e.context now) (e.run State.empty before) d).1.status) :
    let s := (e.run State.empty before).records
    let o := serve e.policy (e.context now) (e.run State.empty before) d
    FailsCleanly now d.request s o.1.status o.2.records
    ∧ (∀ x ∈ s.secrets, ∀ y ∈ s.secrets,
        readsLate now d.request x = true → readsLate now d.request y = true → x = y)
    ∧ ∀ row ∈ s.secrets, row.isLive now = true → row ∈ o.2.records.secrets := by
  intro s o
  have hkeyed : s.secrets.Keyed := keyed_run Table.keyed_nil before
  have hids : ∀ row ∈ s.secrets, Addressable row.header.id := by
    intro row hrow
    obtain ⟨k, _, hid⟩ := (Sound.run (sound_empty e.freshId) before).issued row hrow
    rw [hid]
    exact addressable_identifierOf (e.octets k)
  -- behind the limiter by cases on the route; the limiter itself touches no table
  have hfails : FailsCleanly now d.request s o.1.status o.2.records := by
    have hbehind := respond_failed (c := e.context now) (r := d.request) hkeyed hids
    show FailsCleanly now d.request s (serve _ _ _ _).1.status (serve _ _ _ _).2.records
    unfold serve at h ⊢
    dsimp only at h ⊢
    split
    next hadmitted =>
      rw [if_pos hadmitted] at h
      exact hbehind h
    next => exact .of_same (.refl s) fun hno => absurd hno (by show ¬ 429 = 404; decide)
  refine ⟨hfails, ?_, fun row => hfails.mem_of_isLive⟩
  intro x hx y hy hlatex hlatey
  exact hkeyed.eq hx hy (id_of_readsLate hlatex hlatey)

end Service

/-! ## §6. A late reader -/

/-- A creation of the client for two hours, sent to a path. -/
def creationPosted (target : Text) : Delivery Int :=
  ⟨carrying target (alice.signed (Form.Creation.mk "alice" "c2VhbGVk"
    ⟨⟨7200 * microsPerSecond, by decide⟩, none⟩ false)), none, 1⟩

/-- The client registers and shares a secret for two hours. -/
def shared : List (Event Int) :=
  registered ++ [.request ⟨.first, some 0⟩ (creationPosted "/secret-sharing/create")]

/-- Another reads it a second too late. -/
def lateReading : Delivery Int :=
  ⟨Client.requestOf "127.0.0.1:8000" (readPath (countingSetup.freshId 0)) none, none, 2⟩

/-- When that is. -/
def late : Stamp := ⟨⟨7201 * microsPerSecond, by decide⟩, some 0⟩

/-- The late reader is told that there is no secret, and its envelope is cleared. -/
theorem failed_leaves_tables_late :
    let s := countingSetup.run State.empty shared
    let o := serve countingSetup.policy (countingSetup.context late) s lateReading
    300 ≤ o.1.status ∧ FailsCleanly late lateReading.request s.records o.1.status o.2.records
      ∧ s.records.secrets.map Row.data = [some (Text.ofString "c2VhbGVk")]
      ∧ o.2.records.secrets.map Row.data = [none] := by
  have hrun : 300 ≤ (serve countingSetup.policy (countingSetup.context late)
        (countingSetup.run State.empty shared) lateReading).1.status
      ∧ (countingSetup.run State.empty shared).records.secrets.map Row.data
        = [some (Text.ofString "c2VhbGVk")]
      ∧ (serve countingSetup.policy (countingSetup.context late)
          (countingSetup.run State.empty shared) lateReading).2.records.secrets.map Row.data
        = [none] := by
    set_option maxRecDepth 100000 in decide +kernel
  exact ⟨hrun.1, (failed_leaves_tables countingSetup shared late lateReading hrun.1).1, hrun.2⟩

end Server

end SealedDrop
