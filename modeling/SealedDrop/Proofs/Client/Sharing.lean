/-
  SealedDrop.Proofs.Client.Sharing
  ────────────────────────────────
  **WHAT IS SHARED IS REVEALED.**

  `Client.share` seals a secret, signs its creation and sends it; with the link
  and the password `Client.reveal` fetches the envelope and opens it.  Every
  layer in between has its own law by now, and this module puts them together: a
  creation of a registered signer makes the secret stand (`Standing`), a secret
  that is spared stands, and a read of a standing secret gets the envelope that
  was sealed.

  What lies outside the service is assumed by name: the address of the server
  leads to it, the limiter lets the client's own requests pass, and ids are not
  issued twice.

  Main results:
    • `share_eq` — a secret is stored under a fresh id, and stands,
    • `reveal_standing`, `reveal_spent` — what a recipient gets,
    • `share_then_reveal` — both ends, and every run in between.
-/
import SealedDrop.Proofs.Client.Signing
import SealedDrop.Proofs.Envelope
import SealedDrop.Proofs.Server.Identifier
import SealedDrop.Proofs.Server.Lifetime
import SealedDrop.Proofs.Server.Ownership

namespace SealedDrop.Server

open Client (Deposit)
open Form (Document)
open Http (Address Request Response)
open Json (Style)
open Store (Header Row Table)

/-! ## §1. Calls that are answered -/

/-- When and from where a client calls a server. -/
structure Call (τ : Type) where
  /-- The time of day on the server. -/
  now : Stamp
  /-- The address of the client, if it has one. -/
  client : Option Text
  /-- The reading of the monotonic clock. -/
  tick : τ

section Calls

variable {τ : Type} [Sub τ] [LT τ] [DecidableLT τ] [OfNat τ 1]

/-- The server as it answers a call. -/
def Setup.server (e : Setup τ) (x : Call τ) : Client.Server (State τ) := fun s q =>
  serve e.policy (e.context x.now) s ⟨q, x.client, x.tick⟩

/-- A request of a client is let through to the server: its address leads there, with the path as it
is, and the limiter lets it pass. -/
structure Passes (e : Setup τ) (s : State τ) (c : Client) (x : Call τ) (method path : Text) : Prop where
  /-- The address leads to the server. -/
  address : ∃ host, Address.ofText (Text.stripRight '/' c.address ++ path) = .ok ⟨host, path⟩
  /-- The limiter lets it pass. -/
  admitted : (RateLimit.step e.policy s.lanes ⟨x.client, method, x.tick⟩).1 = true

variable {e : Setup τ} {s : State τ} {c : Client} {x : Call τ}

/-- A request of a client comes from no other origin. -/
theorem header?_origin (host target : Text) (p : Option Form.SignedPayload) :
    Http.header? "origin" (Client.requestOf host target p).headers = none := by
  cases p with
  | none => rfl
  | some p => rfl

/-- Behind the limiter a request without an origin is answered by the router. -/
theorem server_of_dispatch {q : Request} {a : Response} {t : Records}
    (hadmitted : (RateLimit.step e.policy s.lanes ⟨x.client, q.method, x.tick⟩).1 = true)
    (horigin : Http.header? "origin" q.headers = none)
    (hdispatch : dispatch (e.context x.now) s.records q = (.response a, t)) :
    ∃ lanes, e.server x s q = (a.withHeaders (originHeaders q), ⟨t, lanes⟩) := by
  -- without an origin there is no preflight, and no headers to add for one
  have hpreflight : preflight? q = none := by
    unfold preflight?
    rw [horigin]
  have hrespond : respond (e.context x.now) s.records q = (a.withHeaders (originHeaders q), t) := by
    unfold respond
    rw [hpreflight, hdispatch]
  refine ⟨(RateLimit.step e.policy s.lanes ⟨x.client, q.method, x.tick⟩).2, ?_⟩
  unfold Setup.server serve
  dsimp only
  rw [if_pos hadmitted, hrespond]

/-- What the router makes of a request is what the caller gets. -/
theorem server_eq {q : Request} {route : Route} {parameter : Text} {a : Response} {t : Records}
    (hadmitted : (RateLimit.step e.policy s.lanes ⟨x.client, q.method, x.tick⟩).1 = true)
    (horigin : Http.header? "origin" q.headers = none) (hroute : GoesTo q route parameter)
    (hrun : runRoute (e.context x.now) s.records route parameter q.body = (.response a, t)) :
    ∃ lanes, e.server x s q = (a.withHeaders (originHeaders q), ⟨t, lanes⟩) := by
  refine server_of_dispatch hadmitted horigin ?_
  unfold dispatch
  rw [show destination q.method q.path = .route route parameter from hroute]
  exact hrun

/-- Only a redirect makes the client ask again. -/
theorem exchange_stay {σ : Type} {f : Client.Server σ} {host target : Text}
    {p : Option Form.SignedPayload} {s s' : σ} {r : Response} (n : Nat)
    (hf : f s (Client.requestOf host target p) = (r, s')) (hr : r.status ≠ 307) :
    Client.exchange f host p n s target = ⟨.ok (Client.answerOf r), s',
      [⟨(Client.requestOf host target p).method, target, p, r.status⟩]⟩ := by
  have hstay : Client.redirect? r = none := by
    unfold Client.redirect?
    exact if_neg hr
  -- however many redirects are left, none is needed
  cases n with
  | zero | succ n =>
    unfold Client.exchange
    dsimp only
    rw [hf]
    dsimp only
    rw [hstay]

/-- **What the router makes of a request is what the client reads.** -/
theorem send_eq {path parameter : Text} {p : Option Form.SignedPayload} {route : Route}
    {a : Response} {t : Records} {method : Text} (hpasses : Passes e s c x method path)
    (hmethod : ∀ host, (Client.requestOf host path p).method = method)
    (hroute : ∀ host, GoesTo (Client.requestOf host path p) route parameter)
    (hrun : ∀ host, runRoute (e.context x.now) s.records route parameter
      (Client.requestOf host path p).body = (.response a, t)) (ha : a.status ≠ 307) :
    (c.send (e.server x) s path p).result
        = (Client.check (Client.answerOf a)).mapError Client.Fault.answer
      ∧ (c.send (e.server x) s path p).state.records = t := by
  obtain ⟨host, haddress⟩ := hpasses.address
  obtain ⟨lanes, hserver⟩ := server_eq (x := x) ((hmethod host).symm ▸ hpasses.admitted)
    (header?_origin host path p) (hroute host) (hrun host)
  unfold Client.send
  rw [haddress]
  dsimp only [Client.Outcome.andThen]
  rw [exchange_stay Client.maxRedirects hserver ha]
  exact ⟨rfl, rfl⟩

/-! ## §2. Answers -/

/-- A record in a successful answer is read back. -/
theorem check_ok {α : Type} [Document α] {v : α} (hv : Form.WritesFlat v) :
    Client.check (Client.answerOf (Response.json 200 (Document.write v))) = .ok (Document.write v) := by
  have hread : Json.read (Client.answerOf (Response.json 200 (Document.write v))).body
      = .ok (Document.write v) := hv.read_render Style.readable_compact
  have hstatus : (Client.answerOf (Response.json 200 (Document.write v))).status < 400 := by
    show 200 < 400
    decide
  unfold Client.check
  rw [if_pos hstatus]
  rw [hread]

/-- An error answer is an error of the client with its detail. -/
theorem check_detail {status : Nat} {text : Text} (hstatus : 400 ≤ status)
    (htext : text.isScalar = true) :
    Client.check (Client.answerOf (Response.detail status text)) = .error (if status = 404
      then .notFound text else if status = 400 then .rejected text else .failed status text) := by
  -- the refusal is a flat object of one member, so the client reads it back
  have hread : Json.read (Json.render Style.compact (.object [("detail", .text text)]))
      = .ok (.object [("detail", .text text)]) := by
    refine Json.read_render Style.readable_compact (.of_names ["detail"] rfl (by decide) ?_)
    intro m hm
    rw [List.mem_singleton] at hm
    subst hm
    exact .text htext
  have hdetail : Client.detail (Client.answerOf (Response.detail status text)).body = .ok text := by
    show Client.detail (Json.render Style.compact (.object [("detail", .text text)])) = _
    unfold Client.detail
    rw [hread]
    rfl
  have hfailed : ¬ (Client.answerOf (Response.detail status text)).status < 400 := by
    show ¬ status < 400
    omega
  unfold Client.check
  rw [if_neg hfailed, hdetail]
  rfl

/-- The answer to a read without a secret is an error of its own. -/
theorem check_notFound : Client.check (Client.answerOf
    (Response.detail ErrorAnswer.secretNotFound.status ErrorAnswer.secretNotFound.detail))
      = .error (.notFound secretNotFound) :=
  check_detail (by decide) (by decide)

end Calls

/-! ## §3. Sharing -/

/-- **A valid creation stores the secret under the fresh id.** -/
theorem createEndpoint_eq {c : Context} {s : Records} {body : Bytes} {q : Form.Creation}
    {created expires : Moment} (hq : unwrap s.accounts body = .ok q)
    (hclock : c.now.clock = .ok created)
    (hvalid : Store.validate c.limit ⟨q.username, q.data, q.expiresAt, q.singleUse⟩
      (Stamp.utc created) = .ok (created, expires))
    (hencodable : Store.encodable [c.freshId s.issued, q.username, q.data] = .ok ())
    (hfresh : ∀ r ∈ s.secrets, r.header.id ≠ c.freshId s.issued) :
    createEndpoint c s body = (okReply (Document.write (Form.Created.mk (c.freshId s.issued))),
      { s with
        secrets := s.secrets.insert
          ⟨⟨c.freshId s.issued, q.username, created, expires, q.singleUse⟩, some q.data⟩
        issued := s.issued + 1 }) := by
  -- what the store makes of a request that passes every check
  have hcreate : Store.create c.limit s.secrets (c.freshId s.issued)
      ⟨q.username, q.data, q.expiresAt, q.singleUse⟩ (Stamp.utc created)
        = (⟨.ok (c.freshId s.issued), s.secrets.insert
            ⟨⟨c.freshId s.issued, q.username, created, expires, q.singleUse⟩, some q.data⟩,
            [Store.createdEntry ⟨c.freshId s.issued, q.username, created, expires, q.singleUse⟩]⟩,
          true) := by
    unfold Store.create
    rw [hvalid]
    dsimp only
    rw [hencodable]
    dsimp only
    rw [Table.contains_eq_false.mpr hfresh]
    rfl
  unfold createEndpoint
  rw [hq]
  dsimp only
  rw [time_of_clock hclock]
  dsimp only
  rw [hcreate]
  rfl

/-- Every id that the server draws is scalar. -/
theorem isScalar_freshId {τ : Type} (e : Setup τ) (k : Nat) : (e.freshId k).isScalar = true :=
  Text.isScalar_of_isAscii (isAscii_identifierOf (e.octets k))

/-- An id comes back out of the link that carries it. -/
theorem toId_freshId {τ : Type} (e : Setup τ) (publicUrl : Text) (k : Nat) :
    Link.toId (Link.ofId publicUrl (e.freshId k)) = e.freshId k :=
  Link.toId_ofId publicUrl (identifierOf_ne_nil _) fun _ hc => (idSign_identifierOf hc).ne (by decide)

section Sharing

variable {τ : Type} [Sub τ] [LT τ] [DecidableLT τ] [OfNat τ 1]

/-- What it takes to share a secret. -/
structure CanShare (e : Setup τ) (s : State τ) (c : Client) (x : Call τ) (n : Int) (d : Deposit)
    (entropy : Entropy) (u : Text) (seed : Bytes) (created expires : Moment) : Prop where
  /-- The client has a name. -/
  name : c.username = some u
  /-- It has a private key. -/
  key : c.key = some seed
  /-- The name is registered with the public half of the key. -/
  registered : ∃ a, s.records.accounts.find? u = some a ∧ a.publicKey = Ed25519.publicKey seed
  /-- The rounds of password stretching can be counted. -/
  rounds : 1 ≤ n ∧ n < 0x10000000000000000
  /-- The secret holds no surrogate. -/
  plaintext : d.plaintext.isScalar = true
  /-- There is a password, without surrogates. -/
  password : d.password ≠ [] ∧ d.password.isScalar = true
  /-- The deadline is naive or has an offset of whole minutes. -/
  offset : Reading.WholeMinutes d.expiresAt.offset
  /-- The clock of the server tells the time. -/
  clock : x.now.clock = .ok created
  /-- The deadline is in the calendar and lies ahead. -/
  deadline : d.expiresAt.toUtc = .ok expires ∧ created < expires
  /-- The envelope is not too long. -/
  fits : ∀ data, (Envelope.wrapFresh n d.plaintext d.password entropy).1 = .ok data →
    ∀ limit, e.limit = some limit → (data.length : Int) ≤ limit
  /-- The signature of the creation verifies. -/
  sound : ∀ data, (Envelope.wrapFresh n d.plaintext d.password entropy).1 = .ok data →
    SignsSoundly seed (textOf (Form.Creation.mk u data d.expiresAt d.singleUse))
  /-- The request reaches the server. -/
  passes : Passes e s c x "POST" "/secret-sharing/create"
  /-- The next id has not been issued before. -/
  ids : Store.DistinctIds e.freshId (s.records.issued + 1)

variable {e : Setup τ} {s : State τ} {c : Client} {x : Call τ} {n : Int} {d : Deposit}
  {entropy : Entropy} {u : Text} {seed : Bytes} {created expires : Moment}

/-- A creation that a client posts goes to the route of creations. -/
theorem goesTo_create (host : Text) (p : Option Form.SignedPayload) (hp : p.isSome = true) :
    GoesTo (Client.requestOf host "/secret-sharing/create" p) .create [] := by
  cases p with
  | none => cases hp
  | some p =>
    show destination (Text.ofString "POST") (Percent.decode
      ((Text.ofString "/secret-sharing/create").takeWhile (· ≠ CodePoint.ofChar '?'))) = _
    decide +kernel

/-- An id that comes next belongs to no secret. -/
theorem fresh_of_distinct {s : Records} {freshId : Nat → Text} (hs : Sound freshId s)
    (hids : Store.DistinctIds freshId (s.issued + 1)) :
    ∀ r ∈ s.secrets, r.header.id ≠ freshId s.issued := by
  intro r hr hid
  obtain ⟨k, hk, hrid⟩ := hs.issued r hr
  -- the row would have been issued the id that comes next
  have hsame : k = s.issued :=
    hids k (Nat.lt_succ_of_lt hk) s.issued (Nat.lt_succ_self _) (hrid.symm.trans hid)
  omega

/-- The request that a client makes of a sealed secret. -/
def creationOf (u : Text) (d : Deposit) (data : Text) : Form.Creation :=
  ⟨u, data, d.expiresAt, d.singleUse⟩

/-- **What the client makes of an answer with the new id.** -/
theorem share_of_send {data id : Text} (h : CanShare e s c x n d entropy u seed created expires)
    (hdata : (Envelope.wrapFresh n d.plaintext d.password entropy).1 = .ok data)
    (hq : Form.WritesFlat (creationOf u d data))
    (hresult : (c.send (e.server x) s "/secret-sharing/create"
      (some (payloadOf seed u (creationOf u d data)))).result
        = .ok (Document.write (Form.Created.mk id))) :
    (c.share n (e.server x) s d entropy).1.result = .ok id
      ∧ (c.share n (e.server x) s d entropy).1.state
        = (c.send (e.server x) s "/secret-sharing/create"
          (some (payloadOf seed u (creationOf u d data)))).state := by
  -- a password is there, so the secret is sealed and sent
  have hempty : d.password.isEmpty = false := List.isEmpty_eq_false_iff.mpr h.password.1
  have hsigned : c.signed (Form.Creation.mk u data d.expiresAt d.singleUse)
      = .ok (payloadOf seed u (creationOf u d data)) := signed_eq h.name h.key hq
  unfold Client.share
  rw [hempty, if_neg (by simp)]
  dsimp only
  rw [hdata]
  dsimp only
  unfold Client.author
  rw [h.name]
  dsimp only
  unfold Client.post
  rw [hsigned]
  dsimp only [Client.Outcome.andThen]
  rw [hresult]
  exact ⟨rfl, rfl⟩

/-- **What the server makes of the creation that a client signs.** -/
theorem create_signed {data : Text} {a : Account} (hs : Sound e.freshId s.records)
    (h : CanShare e s c x n d entropy u seed created expires)
    (hdata : (Envelope.wrapFresh n d.plaintext d.password entropy).1 = .ok data)
    (hscalar : data.isScalar = true) (hnonempty : data.isEmpty = false)
    (ha : s.records.accounts.find? u = some a) (hpublic : a.publicKey = Ed25519.publicKey seed)
    (hq : Form.WritesFlat (creationOf u d data)) :
    createEndpoint (e.context x.now) s.records
        (Client.bodyOf (payloadOf seed u (creationOf u d data)))
      = (okReply (Document.write (Form.Created.mk (e.freshId s.records.issued))),
        { s.records with
          secrets := s.records.secrets.insert
            ⟨⟨e.freshId s.records.issued, u, created, expires, d.singleUse⟩, some data⟩
          issued := s.records.issued + 1 }) := by
  obtain ⟨hu, hsize⟩ := hs.account_of_find? ha
  -- what the server unwraps is what the client signed
  have hunwrap := unwrap_signed ha hpublic hsize hu hq (Form.read_write_creation h.offset) rfl
    (h.sound data hdata)
  have hutc : Store.utc d.expiresAt = .ok expires := by
    unfold Store.utc
    rw [h.deadline.1]
  -- the envelope is not empty and fits, and the deadline lies ahead
  have hvalid : Store.validate e.limit ⟨u, data, d.expiresAt, d.singleUse⟩ (Stamp.utc created)
      = .ok (created, expires) :=
    Store.validate_eq_ok_iff.mpr ⟨utc_utc created, hutc, hnonempty, h.fits data hdata,
      fun hle => not_lt_of_le hle h.deadline.2⟩
  have hencodable : Store.encodable [e.freshId s.records.issued, u, data] = .ok () := by
    refine Store.encodable_eq_ok_iff.mpr ?_
    intro t ht
    simp only [List.mem_cons, List.not_mem_nil, or_false] at ht
    rcases ht with rfl | rfl | rfl
    · exact isScalar_freshId e _
    · exact hu
    · exact hscalar
  exact createEndpoint_eq (c := e.context x.now) hunwrap h.clock hvalid hencodable
    (fresh_of_distinct hs h.ids)

/-- **What is shared is stored under a fresh id, and stands.** -/
theorem share_eq (hs : Sound e.freshId s.records)
    (h : CanShare e s c x n d entropy u seed created expires) :
    ∃ a data, s.records.accounts.find? u = some a ∧ data.isScalar = true
      ∧ Envelope.unwrap n data d.password = .ok d.plaintext
      ∧ (c.share n (e.server x) s d entropy).1.result = .ok (e.freshId s.records.issued)
      ∧ Standing a ⟨e.freshId s.records.issued, u, created, expires, d.singleUse⟩ data
          (c.share n (e.server x) s d entropy).1.state.records
      ∧ (c.share n (e.server x) s d entropy).1.state.records.issued = s.records.issued + 1 := by
  obtain ⟨a, ha, hpublic⟩ := h.registered
  obtain ⟨data, hdata, hascii, hnonempty, hopen⟩ := Envelope.exists_wrapFresh h.rounds.1 h.rounds.2
    h.plaintext h.password.2 entropy
  have hscalar := Text.isScalar_of_isAscii hascii
  have hq : Form.WritesFlat (creationOf u d data) :=
    Form.writesFlat_creation (hs.account_of_find? ha).1 hscalar h.offset
  -- both ends of the request: what the server does, and what the client makes of the answer
  have hcreate := create_signed hs h hdata hscalar hnonempty ha hpublic hq
  obtain ⟨hresult, hrecords⟩ := send_eq h.passes (p := some (payloadOf seed u (creationOf u d data)))
    (fun _ => rfl) (fun host => goesTo_create host _ rfl) (fun _ => hcreate)
    (show (200 : Nat) ≠ 307 by decide)
  rw [check_ok (Form.writesFlat_created (isScalar_freshId e _))] at hresult
  obtain ⟨hid, hstate⟩ := share_of_send h hdata hq hresult
  rw [hstate, hrecords]
  refine ⟨a, data, ha, hscalar, hopen, hid, ?_, rfl⟩
  refine ⟨Table.mem_insert.mpr (.inr rfl), ?_, ha⟩
  -- the id is fresh, so the new row is the only one that has it
  intro r hr hrid
  rcases Table.mem_insert.mp hr with hr | rfl
  · exact absurd hrid (fresh_of_distinct hs h.ids r hr)
  · rfl

end Sharing

/-! ## §4. Revealing -/

section Revealing

variable {τ : Type} [Sub τ] [LT τ] [DecidableLT τ] [OfNat τ 1] {e : Setup τ} {s : State τ}
  {reader : Client} {x : Call τ} {n : Int} {password plaintext : Text} {m : Moment}

/-- The path of a read. -/
def readPath (id : Text) : Text := "/secret-sharing/" ++ id

/-- A fetch of an issued id goes to the route of reads. -/
theorem goesTo_read (host : Text) (octets : Bytes) :
    GoesTo (Client.requestOf host (readPath (identifierOf octets)) none) .read
      (identifierOf octets) := by
  have hplain : ∀ c ∈ readPath (identifierOf octets), Plain c := by
    intro c hc
    rcases List.mem_append.mp hc with hc | hc
    · have hfixed : (Text.ofString "/secret-sharing/").all (fun c => decide (Plain c)) = true := by
        decide
      exact of_decide_eq_true (List.all_eq_true.mp hfixed c hc)
    · have hsign := idSign_identifierOf hc
      exact ⟨hsign.isAscii, hsign.ne (by decide), hsign.ne (by decide)⟩
  unfold GoesTo
  rw [path_plain (r := Client.requestOf host (readPath (identifierOf octets)) none) hplain]
  exact destination_read octets

/-- **Whoever reads a standing secret gets what was sealed.** -/
theorem reveal_standing {a : Account} {h : Header} {data : Text} {k : Nat}
    (hs : Standing a h data s.records) (hid : h.id = e.freshId k) (hdata : data.isScalar = true)
    (hopen : Envelope.unwrap n data password = .ok plaintext) (hclock : x.now.clock = .ok m)
    (hm : m ≤ h.expiresAt) (hpasses : Passes e s reader x "GET" (readPath h.id)) :
    (reader.reveal n (e.server x) s h.id password).result = .ok plaintext
      ∧ (reader.reveal n (e.server x) s h.id password).state.records
        = s.records.withSecrets (afterRead h s.records.secrets) := by
  have hscalar : h.id.isScalar = true := hid ▸ isScalar_freshId e k
  have hidentifier : isIdentifier h.id = true := hid ▸ isIdentifier_identifierOf (e.octets k)
  have hread := readEndpoint_standing (c := e.context x.now) hs hidentifier hscalar hclock hm
  have hroute : ∀ host, GoesTo (Client.requestOf host (readPath h.id) none) .read h.id := by
    rw [hid]
    exact fun host => goesTo_read host (e.octets k)
  obtain ⟨hresult, hstate⟩ := send_eq hpasses (p := none) (fun _ => rfl) hroute (fun _ => hread)
    (show (200 : Nat) ≠ 307 by decide)
  -- the public view is read back, and the envelope in it opens
  have hcheck : Client.check (Client.answerOf (Response.json 200 (Store.publicJson h data)))
      = .ok (Store.publicJson h data) := check_ok (Form.writesFlat_publicView hscalar hdata)
  rw [hcheck] at hresult
  unfold Client.reveal Client.fetch
  unfold readPath at hresult hstate
  dsimp only [Client.Outcome.andThen]
  rw [hresult, hstate]
  refine ⟨?_, rfl⟩
  show Client.openEnvelope n data password = .ok plaintext
  unfold Client.openEnvelope
  exact Result.mapError_eq_ok_iff.mpr hopen

/-- **Whoever reads a spent secret is told that there is none.** -/
theorem reveal_spent {k : Nat} (hs : Spent e.freshId (e.freshId k) s.records)
    (hclock : x.now.clock = .ok m)
    (hpasses : Passes e s reader x "GET" (readPath (e.freshId k))) :
    (reader.reveal n (e.server x) s (e.freshId k) password).result
      = .error (.answer (.notFound secretNotFound)) := by
  have hreply := readEndpoint_spent (c := e.context x.now) hs (isScalar_freshId e k) hclock
  obtain ⟨t, hread⟩ : ∃ t, readEndpoint (e.context x.now) s.records (e.freshId k)
      = (ErrorAnswer.secretNotFound.reply, t) := by
    rcases hpair : readEndpoint (e.context x.now) s.records (e.freshId k) with ⟨reply, t⟩
    rw [hpair] at hreply
    exact ⟨t, congrArg (·, t) hreply⟩
  obtain ⟨hresult, _⟩ := send_eq hpasses (p := none) (fun _ => rfl)
    (fun host => goesTo_read host (e.octets k)) (fun _ => hread) (by decide)
  rw [check_notFound] at hresult
  unfold Client.reveal Client.fetch
  unfold readPath at hresult
  dsimp only [Client.Outcome.andThen]
  rw [hresult]
  rfl

end Revealing

/-! ## §5. Both ends -/

section BothEnds

variable {τ : Type} [Sub τ] [LT τ] [DecidableLT τ] [OfNat τ 1]

/-- A recipient reads a secret in time. -/
structure CanRead (e : Setup τ) (s : State τ) (reader : Client) (x : Call τ) (h : Header) : Prop where
  /-- The request reaches the server. -/
  passes : Passes e s reader x "GET" (readPath h.id)
  /-- The clock of the server has not passed the deadline. -/
  inTime : ∃ m, x.now.clock = .ok m ∧ m ≤ h.expiresAt

/-- **What is shared is revealed.**  In every state that a server can reach, sharing gives a fresh id;
after every run that spares the secret, whoever has the link and the password gets exactly the
plaintext; and after every such run from there, the next one gets it again, or is told that there is
no secret if one read used it up. -/
theorem share_then_reveal (e : Setup τ) (before : List (Event τ)) (c : Client) (x : Call τ) (n : Int)
    (d : Deposit) (entropy : Entropy) (u : Text) (seed : Bytes) (created expires : Moment)
    (publicUrl : Text)
    (h : CanShare e (e.run State.empty before) c x n d entropy u seed created expires) :
    let s := e.run State.empty before
    let id := e.freshId s.records.issued
    let header : Header := ⟨id, u, created, expires, d.singleUse⟩
    let shared := (c.share n (e.server x) s d entropy).1
    shared.result = .ok id ∧ (∀ r ∈ s.records.secrets, r.header.id ≠ id)
    ∧ ∀ (between : List (Event τ)) (reader : Client) (y : Call τ),
      (∀ event ∈ between, event.Spares s.records.accounts header) →
      let s' := e.run shared.state between
      CanRead e s' reader y header →
      let first := reader.reveal n (e.server y) s' (Link.toId (Link.ofId publicUrl id)) d.password
      first.result = .ok d.plaintext
      ∧ ∀ (later : List (Event τ)) (reader' : Client) (z : Call τ),
        (∀ event ∈ later, event.Spares s.records.accounts header) →
        let s'' := e.run first.state later
        CanRead e s'' reader' z header →
        let second := reader'.reveal n (e.server z) s'' (Link.toId (Link.ofId publicUrl id)) d.password
        (d.singleUse = false → second.result = .ok d.plaintext)
        ∧ (d.singleUse = true → Store.DistinctIds e.freshId s''.records.issued →
            second.result = .error (.answer (.notFound secretNotFound))) := by
  intro s id header shared
  have hs : Sound e.freshId s.records := Sound.run (sound_empty _) before
  obtain ⟨a, data, ha, hdata, hopen, hresult, hstanding, hissued⟩ := share_eq hs h
  have hlink : Link.toId (Link.ofId publicUrl id) = id := toId_freshId e publicUrl s.records.issued
  rw [hlink]
  refine ⟨hresult, fresh_of_distinct hs h.ids, ?_⟩
  intro between reader y hbetween s' hfirst first
  have hstanding' : Standing a header data s'.records := hstanding.run ha hbetween
  obtain ⟨m, hclock, hm⟩ := hfirst.inTime
  obtain ⟨hrevealed, hafter⟩ :=
    reveal_standing hstanding' rfl hdata hopen hclock hm hfirst.passes
  refine ⟨hrevealed, ?_⟩
  intro later reader' z hlater s'' hsecond second
  obtain ⟨m', hclock', hm'⟩ := hsecond.inTime
  have hfirstRecords : first.state.records
      = s'.records.withSecrets (afterRead header s'.records.secrets) := hafter
  constructor
  · intro hlasting
    -- a read leaves a secret that is not single-use where it was
    have hagain : Standing a header data first.state.records := by
      rw [hfirstRecords]
      exact standing_afterRead hstanding' hlasting
    have hstanding'' : Standing a header data s''.records := hagain.run ha hlater
    exact (reveal_standing hstanding'' rfl hdata hopen hclock' hm' hsecond.passes).1
  · intro honce hids
    -- the id has been issued by then, so it is used up
    have hused : s.records.issued < s'.records.issued := by
      have hle := issued_le_run e shared.state between
      have hnext : shared.state.records.issued = s.records.issued + 1 := hissued
      show s.records.issued < (e.run shared.state between).records.issued
      omega
    have hid : ∃ k < s'.records.issued, e.freshId k = header.id := ⟨s.records.issued, hused, rfl⟩
    have hspent : Spent e.freshId id first.state.records := by
      rw [hfirstRecords]
      exact spent_afterRead honce hid
    have hspent'' : Spent e.freshId id s''.records := hspent.run later hids
    exact reveal_spent hspent'' hclock' hsecond.passes

/-- **Sharing issues one id, and revealing none**, whatever happens in between. -/
theorem issued_reveal {e : Setup τ} {s : State τ} {c reader : Client} {x y : Call τ} {n : Int}
    {d : Deposit} {entropy : Entropy} {u : Text} {seed : Bytes} {created expires : Moment}
    (publicUrl : Text) (hs : Sound e.freshId s.records)
    (h : CanShare e s c x n d entropy u seed created expires) (between : List (Event τ)) :
    let id := e.freshId s.records.issued
    let header : Header := ⟨id, u, created, expires, d.singleUse⟩
    let shared := (c.share n (e.server x) s d entropy).1
    let s' := e.run shared.state between
    (∀ event ∈ between, event.Spares s.records.accounts header) →
    CanRead e s' reader y header →
    shared.state.records.issued = s.records.issued + 1
      ∧ (reader.reveal n (e.server y) s' (Link.toId (Link.ofId publicUrl id))
        d.password).state.records.issued = s'.records.issued := by
  intro id header shared s' hbetween hread
  obtain ⟨a, data, ha, hdata, hopen, _, hstanding, hissued⟩ := share_eq hs h
  obtain ⟨m, hclock, hm⟩ := hread.inTime
  have hlink : Link.toId (Link.ofId publicUrl id) = id := toId_freshId e publicUrl s.records.issued
  -- the secret still stands, and a read of it only touches the table
  have hafter := (reveal_standing (n := n) (hstanding.run ha hbetween) rfl hdata hopen hclock hm
    hread.passes).2
  refine ⟨hissued, ?_⟩
  rw [hlink, hafter]
  rfl

end BothEnds

/-! ## §6. One secret from both ends -/

/-- A server that counts the ids it issues. -/
def countingSetup : Setup Int := ⟨⟨10, 30⟩, some 65536, fun k => [UInt8.ofNat k], .blank⟩

/-- The registration of a client. -/
def registered : List (Event Int) :=
  [.request ⟨.first, some 0⟩ ⟨registration, some "10.0.0.1", 0⟩]

/-- A secret for two minutes that one read uses up. -/
def hello : Deposit := ⟨"hello", "pw", ⟨⟨120 * microsPerSecond, by decide⟩, none⟩, true⟩

/-- A call at the start of the calendar, from a client without an address. -/
def promptCall : Call Int := ⟨⟨.first, some 0⟩, none, 1⟩

/-- A call a minute and a half later. -/
def laterCall : Call Int := ⟨⟨⟨90 * microsPerSecond, by decide⟩, some 0⟩, none, 2⟩

/-- Random octets that are all zero. -/
def silence : Entropy := ⟨fun _ => 0, 0⟩

/-- The registration leaves one account, and issues no id. -/
theorem run_registered :
    (countingSetup.run State.empty registered).records.accounts
        = [⟨1, "alice", Ed25519.publicKey (List.replicate 32 7)⟩]
      ∧ (countingSetup.run State.empty registered).records.issued = 0 := by
  set_option maxRecDepth 100000 in decide +kernel

/-- The address of the client leads to the server, for creations and for the first id. -/
theorem address_alice : ∀ path ∈ [Text.ofString "/secret-sharing/create",
      readPath (countingSetup.freshId 0)],
    Address.ofText (Text.stripRight '/' alice.address ++ path) = .ok ⟨"127.0.0.1", path⟩ := by
  set_option maxRecDepth 100000 in decide +kernel

/-- What the client signs and sends to the path of a route is posted to that route. -/
theorem posts_signed {α : Type} [Form.Document α] {q : α} (hq : Form.WritesFlat q) {target : Text}
    {route : Route} (hpath : Percent.decode (target.takeWhile (· ≠ CodePoint.ofChar '?'))
      = route.fixedPath) : Posts (carrying target (alice.signed q)) route := by
  rw [signed_eq (c := alice) rfl rfl hq]
  exact ⟨rfl, .inl hpath⟩

/-- The envelope of a secret is short enough for `countingSetup`, and what the client signs with it
verifies. -/
def sealsSoundly (d : Deposit) : Bool :=
  (Envelope.wrapFresh 1 d.plaintext d.password silence).1.toOption.all fun data =>
    let message := (textOf (Form.Creation.mk "alice" data d.expiresAt d.singleUse)).flatMap
      Utf8.encodePoint
    decide ((data.length : Int) ≤ 65536)
      && Ed25519.verify (Ed25519.publicKey (List.replicate 32 7))
        (Ed25519.sign (List.replicate 32 7) message) message

/-- The two things that `sealsSoundly` computes. -/
theorem sound_of_sealsSoundly {d : Deposit} (h : sealsSoundly d = true) {data : Text}
    (hdata : (Envelope.wrapFresh 1 d.plaintext d.password silence).1 = .ok data) :
    (data.length : Int) ≤ 65536 ∧ SignsSoundly (List.replicate 32 7)
      (textOf (Form.Creation.mk "alice" data d.expiresAt d.singleUse)) := by
  obtain ⟨hlength, hsound⟩ := Bool.and_eq_true_iff.mp (Result.of_all_toOption h hdata)
  exact ⟨of_decide_eq_true hlength, hsound⟩

/-- Its envelope fits, and what the client signs with it verifies. -/
theorem sealsSoundly_hello : sealsSoundly hello = true := by
  set_option maxRecDepth 100000 in decide +kernel

/-- The registered client can share it. -/
theorem canShare_hello : CanShare countingSetup (countingSetup.run State.empty registered) alice
    promptCall 1 hello silence "alice" (List.replicate 32 7) .first
    hello.expiresAt.wall where
  name := rfl
  key := rfl
  registered := by
    rw [run_registered.1]
    exact ⟨_, rfl, rfl⟩
  rounds := by decide
  plaintext := by decide
  password := by decide
  offset := by
    intro o ho
    cases ho
  clock := rfl
  deadline := ⟨rfl, by decide⟩
  fits := by
    intro data hdata limit hlimit
    injection hlimit with hlimit
    subst hlimit
    exact (sound_of_sealsSoundly sealsSoundly_hello hdata).1
  sound := fun data hdata => (sound_of_sealsSoundly sealsSoundly_hello hdata).2
  passes := ⟨⟨_, address_alice _ (by simp)⟩, rfl⟩
  ids := by
    rw [run_registered.2]
    decide

/-- It can be read at the later call, in whatever state the server is. -/
theorem canRead_hello (s : State Int) : CanRead countingSetup s alice laterCall
    ⟨countingSetup.freshId (countingSetup.run State.empty registered).records.issued, "alice", .first,
      hello.expiresAt.wall, hello.singleUse⟩ := by
  rw [run_registered.2]
  exact ⟨⟨⟨_, address_alice _ (by simp)⟩, rfl⟩, _, rfl, by decide⟩

/-- What happens between the acts: a purge, a drill on another id, and a list that a stranger asks
for. -/
def interlude : List (Event Int) :=
  [.purge ⟨.first, some 0⟩, .tamper "another",
   .request ⟨.first, some 0⟩ ⟨carrying "/secret-sharing/list" (.ok ⟨[], [], "bob"⟩), none, 1⟩]

/-- The stranger's request goes to the route of lists. -/
theorem goesTo_interlude : GoesTo (carrying "/secret-sharing/list" (.ok ⟨[], [], "bob"⟩)) .list [] := by
  unfold GoesTo
  decide +kernel

/-- Nothing of this touches a secret of another id whose deadline lies ahead. -/
theorem interlude_spares {accounts : Accounts} {h : Header} (hdeadline : .first ≤ h.expiresAt)
    (hid : Text.ofString "another" ≠ h.id) : ∀ event ∈ interlude, event.Spares accounts h := by
  intro event hevent
  simp only [interlude, List.mem_cons, List.not_mem_nil, or_false] at hevent
  rcases hevent with rfl | rfl | rfl
  · intro m hm
    obtain rfl := Except.ok.inj hm
    exact hdeadline
  · exact hid
  · refine ⟨?_, ?_, fun _ hread => ?_⟩
    · intro m hm
      obtain rfl := Except.ok.inj hm
      exact hdeadline
    · rintro ⟨_, _, hexpire, _⟩
      cases goesTo_interlude.symm.trans hexpire
    · cases goesTo_interlude.symm.trans hread

/-- Nobody creates a secret between the acts. -/
theorem issued_interlude (s : State Int) :
    (countingSetup.run s interlude).records.issued = s.records.issued := by
  have hsteps : countingSetup.run s interlude = countingSetup.step (countingSetup.run s
      [.purge ⟨.first, some 0⟩, .tamper "another"]) (.request ⟨.first, some 0⟩
        ⟨carrying "/secret-sharing/list" (.ok ⟨[], [], "bob"⟩), none, 1⟩) := rfl
  rw [hsteps, issued_step_request]
  · rfl
  · intro parameter hroute
    cases goesTo_interlude.symm.trans hroute

/-- A client shares a secret and reads it twice, and others are at work in between. -/
theorem share_then_reveal_hello :
    let s := countingSetup.run State.empty registered
    let id := countingSetup.freshId s.records.issued
    let shared := (alice.share 1 (countingSetup.server promptCall) s hello silence).1
    let reveal := fun s => alice.reveal 1 (countingSetup.server laterCall) s
      (Link.toId (Link.ofId "http://127.0.0.1:8000/" id)) hello.password
    let first := reveal (countingSetup.run shared.state interlude)
    let second := reveal (countingSetup.run first.state interlude)
    shared.result = .ok id ∧ first.result = .ok hello.plaintext
      ∧ second.result = .error (.answer (.notFound secretNotFound)) := by
  obtain ⟨hshared, _, hreveal⟩ := share_then_reveal countingSetup registered alice promptCall 1 hello
    silence "alice" (List.replicate 32 7) .first hello.expiresAt.wall
    "http://127.0.0.1:8000/" canShare_hello
  have hspares : ∀ event ∈ interlude, event.Spares
      (countingSetup.run State.empty registered).records.accounts
      ⟨countingSetup.freshId (countingSetup.run State.empty registered).records.issued, "alice",
        .first, hello.expiresAt.wall, hello.singleUse⟩ := by
    refine interlude_spares (by decide) ?_
    rw [run_registered.2]
    decide
  obtain ⟨hfirst, hagain⟩ := hreveal interlude alice laterCall hspares (canRead_hello _)
  obtain ⟨_, hsecond⟩ := hagain interlude alice laterCall hspares (canRead_hello _)
  refine ⟨hshared, hfirst, hsecond rfl ?_⟩
  -- one id has been issued by the time of the second reading
  have hsound : Sound countingSetup.freshId (countingSetup.run State.empty registered).records :=
    Sound.run (sound_empty _) registered
  obtain ⟨hone, hsame⟩ := issued_reveal "http://127.0.0.1:8000/" hsound canShare_hello interlude
    hspares (canRead_hello _)
  rw [issued_interlude, hsame, issued_interlude, hone, run_registered.2]
  decide

end SealedDrop.Server
