/-
  SealedDrop.Proofs.Server.Anonymity
  ──────────────────────────────────
  **AN ANONYMOUS READER LEARNS NOTHING BUT LIVE SECRETS.**

  Two servers get the same GET requests from the same clients at the same
  times.  Their limiters are in the same state, and their tables hold the same
  live rows, owners aside; nothing else about them needs to agree.  Then they
  give the same responses: whether an id is unknown, was cleared, read up,
  purged or is past its deadline, and who owns what, cannot be told.

      State.Alike — two servers as a reader finds them
      replies     — what a server answers, request by request

  A GET request reaches one endpoint only, and that endpoint answers by what
  the read discloses (`readEndpoint_eq`).  So one request keeps servers alike
  and gets the same answer of both (`State.Alike.serve`), and a run of them is
  an induction.  Reading clears rows, so the run needs that times do not
  decrease: a row that one server has cleared must be past its deadline for
  every later reader of the other.

  Main results:
    • `State.Alike.serve` — one request,
    • `serve_unreadable` — one answer for every id without a live row,
    • `anonymous_reads_blind` — a whole run.
-/
import SealedDrop.Proofs.Server.Lifetime
import SealedDrop.Proofs.Server.Ownership
import SealedDrop.Proofs.Store.Likeness

namespace SealedDrop.Server

open Http (Request Response)
open Store (Row Table disclosed)

/-! ## §1. The endpoint of a GET request -/

/-- The reply to a reader to whom a read discloses so much. -/
def disclosureReply : Except Store.Error (Option Row) → Reply
  | .ok (some r) => okReply (Store.publicJson r.header (r.data.getD []))
  | .ok none => ErrorAnswer.secretNotFound.reply
  | .error e => storeReply e

/-- A clock that tells the time is one that the store understands. -/
theorem utc_of_clock {now : Stamp} {m : Moment} (h : now.clock = .ok m) : Store.utc now = .ok m := by
  unfold Stamp.clock at h
  unfold Store.utc
  -- a naive clock is taken for UTC, any other is shifted
  cases ho : now.offset with
  | none =>
    rw [ho] at h
    dsimp only at h
    split at h
    next => cases h
    next =>
      injection h with h
      unfold Stamp.toUtc
      rw [ho, ← h]
  | some o =>
    rw [ho] at h
    cases hu : now.toUtc with
    | error e =>
      rw [hu] at h
      cases h
    | ok m' =>
      rw [hu] at h
      injection h with h
      rw [h]

/-- A read depends on the moment only. -/
theorem get_utc {t : Table} {id : Text} {now : Stamp} {m : Moment} (h : Store.utc now = .ok m) :
    Store.get t id (Stamp.utc m) = Store.get t id now := by
  unfold Store.get
  rw [h, utc_utc]

section Endpoint

variable {c : Context} {m : Moment}

/-- **A reader with a proper id is answered by what the read discloses.** -/
theorem readEndpoint_eq (hclock : c.now.clock = .ok m) (s : Records) {id : Text}
    (hid : isIdentifier id = true) :
    readEndpoint c s id = (disclosureReply (disclosed (Store.get s.secrets id c.now).result),
      s.withSecrets (Store.get s.secrets id c.now).table) := by
  unfold readEndpoint
  rw [hid, time_of_clock hclock]
  dsimp only
  rw [get_utc (utc_of_clock hclock), if_neg (by simp)]
  cases hresult : (Store.get s.secrets id c.now).result with
  | error e => cases e <;> rfl
  | ok v => cases v <;> rfl

theorem keyed_get {t : Table} (h : t.Keyed) (id : Text) (now : Stamp) :
    (Store.get t id now).table.Keyed :=
  (Store.Call.change none t ⟨now, .get id⟩).keyed h

end Endpoint

/-! ## §2. Alike servers -/

/-- The records of two servers as an anonymous reader finds them at a time. -/
structure Records.Alike (now : Stamp) (s s' : Records) : Prop where
  keyed : s.secrets.Keyed
  keyed' : s'.secrets.Keyed
  secrets : s.secrets.Alike now s'.secrets

section Records

variable {c : Context} {s s' : Records}

/-- Records that are alike stay so as time goes by. -/
theorem Records.Alike.mono {a b : Stamp} (hab : a.instant ≤ b.instant) (h : s.Alike a s') :
    s.Alike b s' :=
  ⟨h.keyed, h.keyed', h.secrets.mono hab⟩

/-- A read of alike records gets the same reply, and leaves alike records. -/
theorem Records.Alike.readEndpoint (h : s.Alike c.now s') (id : Text) :
    (readEndpoint c s id).1 = (readEndpoint c s' id).1
      ∧ (readEndpoint c s id).2.Alike c.now (readEndpoint c s' id).2 := by
  -- without a proper id or a clock, no server looks into its table
  cases hid : isIdentifier id with
  | false =>
    unfold Server.readEndpoint
    rw [hid]
    exact ⟨rfl, h⟩
  | true =>
    cases hclock : c.now.clock with
    | error f =>
      unfold Server.readEndpoint Context.time
      rw [hid, hclock]
      exact ⟨rfl, h⟩
    | ok m =>
      obtain ⟨hsame, halike⟩ := Store.get_alike (utc_of_clock hclock) h.keyed h.keyed' h.secrets id
      rw [readEndpoint_eq hclock s hid, readEndpoint_eq hclock s' hid, hsame]
      exact ⟨rfl, keyed_get h.keyed id c.now, keyed_get h.keyed' id c.now, halike⟩

/-- A GET request goes to no endpoint but that of reads. -/
theorem eq_read_of_get {r : Request} {route : Route} {parameter : Text} (hget : r.method = "GET")
    (hroute : GoesTo r route parameter) : route = .read := by
  have hmethod := (destination_eq_route hroute).1
  rw [hget] at hmethod
  cases route with
  | read => rfl
  | register => exact absurd hmethod (by decide)
  | create => exact absurd hmethod (by decide)
  | list => exact absurd hmethod (by decide)
  | expire => exact absurd hmethod (by decide)

/-- The same of whatever a `GET` is routed to. -/
theorem Records.Alike.dispatch (h : s.Alike c.now s') {r : Request} (hget : r.method = "GET") :
    (dispatch c s r).1 = (dispatch c s' r).1
      ∧ (dispatch c s r).2.Alike c.now (dispatch c s' r).2 := by
  unfold Server.dispatch
  cases hd : destination r.method r.path with
  | route route parameter =>
    have hread : route = .read := eq_read_of_get hget hd
    subst hread
    exact h.readEndpoint parameter
  | page => exact ⟨rfl, h⟩
  | otherMethod allowed => exact ⟨rfl, h⟩
  | otherPath path => exact ⟨rfl, h⟩
  | nowhere => exact ⟨rfl, h⟩

/-- And of the rules for other origins around it. -/
theorem Records.Alike.respond (h : s.Alike c.now s') {r : Request} (hget : r.method = "GET") :
    (respond c s r).1 = (respond c s' r).1
      ∧ (respond c s r).2.Alike c.now (respond c s' r).2 := by
  obtain ⟨hsame, halike⟩ := h.dispatch hget
  unfold Server.respond
  cases preflight? r with
  | some answer => exact ⟨rfl, h⟩
  | none =>
    dsimp only
    -- the same reply gets the same headers
    generalize Server.dispatch c s r = x at hsame halike
    generalize Server.dispatch c s' r = x' at hsame halike
    obtain ⟨reply, records⟩ := x
    obtain ⟨reply', records'⟩ := x'
    dsimp only at hsame halike
    subst hsame
    cases reply with
    | response a => exact ⟨rfl, halike⟩
    | breakdown => exact ⟨rfl, halike⟩

end Records

section Service

variable {τ : Type} [Sub τ] [LT τ] [DecidableLT τ] [OfNat τ 1]

/-- Two servers as an anonymous reader finds them at a time. -/
structure State.Alike (now : Stamp) (s s' : State τ) : Prop where
  lanes : s.lanes = s'.lanes
  records : s.records.Alike now s'.records

/-- **One GET request gets the same answer from alike servers, and leaves them alike.** -/
theorem State.Alike.serve (p : RateLimit.Policy τ) {c : Context} {s s' : State τ} {d : Delivery τ}
    (h : s.Alike c.now s') (hget : d.request.method = "GET") :
    (serve p c s d).1 = (serve p c s' d).1 ∧ (serve p c s d).2.Alike c.now (serve p c s' d).2 := by
  obtain ⟨hsame, halike⟩ := h.records.respond hget
  unfold Server.serve
  rw [← h.lanes]
  generalize RateLimit.step p s.lanes ⟨d.client, d.request.method, d.tick⟩ = admitted
  obtain ⟨ok, lanes⟩ := admitted
  cases ok with
  | true => exact ⟨hsame, rfl, halike⟩
  | false => exact ⟨rfl, rfl, h.records⟩

/-! ## §3. Ids without a live row -/

/-- The answer to a reader of an id that has no live row. -/
def notFoundResponse (r : Request) : Response :=
  (Response.detail 404 secretNotFound).withHeaders (originHeaders r)

/-- A parameter out of a path holds no surrogates. -/
theorem encodable_parameter {r : Request} {id : Text} (hroute : GoesTo r .read id) :
    Store.encodable [id] = .ok () := by
  have hpath : r.path = Route.read.fixedPath ++ id :=
    Route.eq_of_fit?_read (destination_eq_route hroute).2
  -- the path was read from octets, so it holds no surrogate, and its end holds none
  have hscalar : r.path.isScalar = true := Utf8.isScalar_decodeLossy _
  refine Store.encodable_eq_ok_iff.mpr ?_
  intro t ht
  rw [List.mem_singleton] at ht
  subst ht
  rw [hpath] at hscalar
  unfold Text.isScalar at hscalar ⊢
  rw [List.all_append, Bool.and_eq_true] at hscalar
  exact hscalar.2

/-- **A reader of an id without a live row gets one answer**, unless the limiter refuses it. -/
theorem serve_unreadable (p : RateLimit.Policy τ) {c : Context} {m : Moment}
    (hclock : c.now.clock = .ok m) {s : State τ} {d : Delivery τ} {id : Text}
    (hroute : GoesTo d.request .read id)
    (hdead : ∀ r ∈ s.records.secrets, r.header.id = id → r.isLive c.now = false) :
    (serve p c s d).1 = limitedResponse ∨ (serve p c s d).1 = notFoundResponse d.request := by
  have hmethod : d.request.method = "GET" := (destination_eq_route hroute).1.symm
  have hpreflight : preflight? d.request = none := by
    have hno : ¬ d.request.method = "OPTIONS" := by
      rw [hmethod]
      decide
    unfold preflight?
    split
    next => exact if_neg hno
    next => rfl
  -- the row is over at the server's moment, so that `get` shows nothing of it
  have hreply : (dispatch c s.records d.request).1 = ErrorAnswer.secretNotFound.reply := by
    have hd : destination d.request.method d.request.path = .route .read id := hroute
    unfold dispatch
    rw [hd]
    refine readEndpoint_gone (encodable_parameter hroute) hclock ?_
    intro r hr hid
    exact (Row.isLive_eq_false_iff (utc_of_clock hclock)).mp (hdead r hr hid)
  have hanswer : (respond c s.records d.request).1 = notFoundResponse d.request := by
    unfold respond
    rw [hpreflight]
    dsimp only
    generalize dispatch c s.records d.request = x at hreply
    obtain ⟨reply, records⟩ := x
    dsimp only at hreply
    subst hreply
    rfl
  unfold serve
  generalize RateLimit.step p s.lanes ⟨d.client, d.request.method, d.tick⟩ = admitted
  obtain ⟨ok, lanes⟩ := admitted
  cases ok with
  | true => exact .inr hanswer
  | false => exact .inl rfl

/-! ## §4. Runs -/

/-- What a server answers to requests in order, each with the context it meets. -/
def replies (p : RateLimit.Policy τ) (s : State τ) : List (Context × Delivery τ) → List Response
  | [] => []
  | (c, d) :: steps => (serve p c s d).1 :: replies p (serve p c s d).2 steps

/-- **A run of `GET` requests at times that do not go back gets the same replies.** -/
theorem State.Alike.replies (p : RateLimit.Policy τ) {start : Stamp} {s s' : State τ}
    (h : s.Alike start s') (steps : List (Context × Delivery τ))
    (hget : ∀ x ∈ steps, x.2.request.method = "GET")
    (htimes : ((start :: steps.map fun x => x.1.now).map Stamp.instant).Pairwise (· ≤ ·)) :
    replies p s steps = replies p s' steps := by
  induction steps generalizing start s s' with
  | nil => rfl
  | cons x steps ih =>
    obtain ⟨c, d⟩ := x
    rw [List.map_cons, List.map_cons, List.map_cons, List.pairwise_cons] at htimes
    -- servers that were alike are so when the request comes, and then for the requests behind it
    have hstart : start.instant ≤ c.now.instant := htimes.1 _ List.mem_cons_self
    have hhere : s.Alike c.now s' := ⟨h.lanes, h.records.mono hstart⟩
    obtain ⟨hsame, hnext⟩ := hhere.serve p (hget (c, d) List.mem_cons_self)
    have hrest := ih hnext (fun y hy => hget y (List.mem_cons_of_mem _ hy)) htimes.2
    show _ :: _ = _ :: _
    rw [hsame, hrest]

/-- **An anonymous reader learns nothing but live secrets.**  Two servers with their limiters in the
same state and the same live rows, owners aside, answer every run of GET requests, at times that do
not decrease, alike.  And whatever requests a server has had, there is one answer for all ids that
have no live row by then, whatever the reason, besides the refusal of the limiter. -/
theorem anonymous_reads_blind (p : RateLimit.Policy τ) (start : Stamp) (s s' : State τ)
    (h : s.Alike start s') (steps : List (Context × Delivery τ))
    (hget : ∀ x ∈ steps, x.2.request.method = "GET")
    (htimes : ((start :: steps.map fun x => x.1.now).map Stamp.instant).Pairwise (· ≤ ·)) :
    replies p s steps = replies p s' steps
    ∧ ∀ before c d id m, GoesTo d.request .read id → c.now.clock = .ok m →
        (∀ r ∈ (serveAll p s before).records.secrets, r.header.id = id → r.isLive c.now = false) →
        (serve p c (serveAll p s before) d).1 = limitedResponse
          ∨ (serve p c (serveAll p s before) d).1 = notFoundResponse d.request := by
  refine ⟨h.replies p steps hget htimes, ?_⟩
  intro before c d id m hroute hclock hdead
  exact serve_unreadable p hclock hroute hdead

end Service

/-- A row of an owner, with a deadline some minutes on. -/
def rowOf (id : Nat) (owner : Text) (deadline : Nat) (data : Option Text) : Row :=
  ⟨⟨Text.hex 32 id, owner, (Store.minute 0).wall, (Store.minute deadline).wall, false⟩, data⟩

def serverOf (rows : Table) : State Int := ⟨⟨[], rows, 0⟩, []⟩

/-- A reader of an id at a moment. -/
def readingOf (id : Nat) (m : Moment) : Context × Delivery Int :=
  (⟨none, fun n => Text.hex 32 (n + 1), Stamp.utc m, .blank⟩,
    ⟨⟨"GET", "server", "/secret-sharing/" ++ Text.hex 32 id, [], []⟩, some "reader", m.micros⟩)

/-- A server with a live, an overdue and a cleared secret. -/
def crowdedServer : State Int :=
  serverOf [rowOf 1 "alice" 5 (some "c2VhbGVk"), rowOf 2 "bob" 1 (some "b2xk"),
    rowOf 3 "bob" 5 none]

/-- A server with the live one only, and of another owner. -/
def sparseServer : State Int := serverOf [rowOf 1 "carol" 5 (some "c2VhbGVk")]

def readings : List (Context × Delivery Int) :=
  [readingOf 1 (Store.minute 2).wall, readingOf 2 (Store.minute 3).wall,
    readingOf 3 (Store.minute 4).wall]

/-- The two servers answer readers alike: the live secret is shown, the others are not found. -/
theorem anonymous_reads_blind_crowd :
    crowdedServer.Alike (Store.minute 2) sparseServer
      ∧ (∀ x ∈ readings, x.2.request.method = "GET")
      ∧ ((Store.minute 2 :: readings.map fun x => x.1.now).map Stamp.instant).Pairwise (· ≤ ·)
      ∧ replies ⟨10, 1⟩ crowdedServer readings = replies ⟨10, 1⟩ sparseServer readings
      ∧ (replies ⟨10, 1⟩ crowdedServer readings).map Response.status = [200, 404, 404] := by
  have halike : crowdedServer.Alike (Store.minute 2) sparseServer :=
    ⟨rfl, by decide, by decide, by decide, by decide⟩
  have hget : ∀ x ∈ readings, x.2.request.method = "GET" := by decide
  have htimes : ((Store.minute 2 :: readings.map fun x => x.1.now).map Stamp.instant).Pairwise
      (· ≤ ·) := by decide
  have hblind := anonymous_reads_blind ⟨10, 1⟩ (Store.minute 2) crowdedServer sparseServer halike
    readings hget htimes
  exact ⟨halike, hget, htimes, hblind.1, by decide +kernel⟩

end SealedDrop.Server
