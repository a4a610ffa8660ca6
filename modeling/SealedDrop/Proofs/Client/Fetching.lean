/-
  SealedDrop.Proofs.Client.Fetching
  ─────────────────────────────────
  **WHAT A FETCH READS.**

  `Client.fetch` takes a text that came with a link and puts it into an address
  as it is.  Between that text and a row there are the marks of an address,
  dots, escapes and redirects, and all of them count: the id that a text names
  is

      namedBy x = named? (seenPath ("/secret-sharing/" ++ x))

  A fetch reads the live row of that id and no other, and without one it reads
  nothing.  A text without marks and escapes names itself.  Any other may name
  an id that it is not: whatever is put behind an id and a question mark names
  that id.

  Main results:
    • `namedBy_bare`, `namedBy_mark` — what texts name,
    • `dispatch_reads` — what a reader gets of a server, and leaves of it,
    • `exchange_reads` — the same through a redirect,
    • `fetch_reads_named` — a fetch in any state that a server can reach.
-/
import SealedDrop.Proofs.Server.Failure
import SealedDrop.Proofs.Server.Redirect
import SealedDrop.Proofs.Store.View

namespace SealedDrop.Server

open Http (Address PlainAuthority Request Response Root Shows seenPath staysInPath)
open Store (Row Table)

/-! ## §1. What a text names -/

/-- The path that a server sees when a text is fetched. -/
def fetchedPath (x : Text) : Text := seenPath (Route.read.fixedPath ++ x)

/-- The id that a text names. -/
def namedBy (x : Text) : Option Text := named? (fetchedPath x)

/-- The signs that have a meaning in the path of an address, but for dots. -/
def pathMarks : Text := "/%?#"

/-- A text without such signs. -/
def IsBare (x : Text) : Prop := ∀ c ∈ x, c ∉ pathMarks

section Names

variable {x id : Text}

/-- A bare text has none of the marks that end a path. -/
theorem IsBare.not_mem (h : IsBare x) {c : CodePoint} (hc : c ∈ pathMarks) : c ∉ x :=
  fun hmem => h c hmem hc

theorem IsBare.staysInPath (h : IsBare x) {c : CodePoint} (hc : c ∈ x) : staysInPath c = true := by
  have hmarks := h c hc
  unfold Http.staysInPath
  rw [Bool.and_eq_true, decide_eq_true_iff, decide_eq_true_iff]
  constructor
  · rintro rfl
    exact hmarks (by decide)
  · rintro rfl
    exact hmarks (by decide)

/-- **What stands behind a mark names nothing.** -/
theorem namedBy_mark (hx : IsBare x) {c : CodePoint} (hc : staysInPath c = false) (t : Text) :
    namedBy (x ++ c :: t) = namedBy x := by
  have hfixed : ∀ d ∈ Route.read.fixedPath, staysInPath d = true := by
    have hall : Route.read.fixedPath.all staysInPath = true := by decide
    exact List.all_eq_true.mp hall
  have hcut : (Route.read.fixedPath ++ (x ++ c :: t)).takeWhile staysInPath
      = (Route.read.fixedPath ++ x).takeWhile staysInPath := by
    have hself : x.takeWhile staysInPath = x :=
      List.takeWhile_eq_self_iff.mpr fun d hd => hx.staysInPath hd
    rw [List.takeWhile_append_of_pos hfixed, List.takeWhile_append_of_pos hfixed, hself,
      List.takeWhile_append_of_pos fun d hd => hx.staysInPath hd, List.takeWhile_cons, hc,
      if_neg (by simp), List.append_nil]
  unfold namedBy fetchedPath Http.seenPath
  rw [hcut]

/-- A text without the separator is not split. -/
theorem splitOn_go {c : CodePoint} {t : Text} (ht : c ∉ t) (acc : Text) :
    Text.splitOn.go c t acc = [acc.reverse ++ t] := by
  induction t generalizing acc with
  | nil => exact congrArg (fun u => [u]) (List.append_nil _).symm
  | cons a t ih =>
    rw [List.mem_cons, not_or] at ht
    rw [Text.splitOn.go, if_neg (Ne.symm ht.1), ih ht.2, List.reverse_cons, List.append_assoc]
    rfl

/-- A path ends in a slash and a segment iff that is its last segment. -/
theorem endsWith_segment {t u s : Text} (hu : CodePoint.ofChar '/' ∉ u)
    (hs : CodePoint.ofChar '/' ∉ s) :
    Text.endsWith (t ++ CodePoint.ofChar '/' :: u) (CodePoint.ofChar '/' :: s) = true ↔ u = s := by
  rw [Text.endsWith_iff]
  constructor
  · rintro ⟨w, hw⟩
    have hlast := congrArg (Text.afterLast '/') hw
    rw [Text.afterLast_append w fun c hc (h : c = CodePoint.ofChar '/') => hs (h ▸ hc),
      Text.afterLast_append t fun c hc (h : c = CodePoint.ofChar '/') => hu (h ▸ hc)] at hlast
    exact hlast.symm
  · rintro rfl
    exact List.suffix_append _ _

/-- Nothing is resolved in a path of two segments that are no dots. -/
theorem resolveDots_read (hslash : CodePoint.ofChar '/' ∉ x) (hone : x ≠ Text.ofString ".")
    (htwo : x ≠ Text.ofString "..") :
    Http.resolveDots (Route.read.fixedPath ++ x) = Route.read.fixedPath ++ x := by
  have hsplit : Text.splitOn '/' (Route.read.fixedPath ++ x)
      = [[], Text.ofString "secret-sharing", x] := by
    show [] :: Text.ofString "secret-sharing" :: Text.splitOn.go '/' x [] = _
    rw [splitOn_go hslash]
    rfl
  have hkept : Http.resolveSegments [] [[], Text.ofString "secret-sharing", x]
      = [[], Text.ofString "secret-sharing", x] := by
    show Http.resolveSegments [Text.ofString "secret-sharing", []] [x] = _
    unfold Http.resolveSegments
    rw [if_neg hone, if_neg htwo]
    rfl
  -- the path would only be changed if its last segment were one dot or two
  have hends : ∀ s : Text, CodePoint.ofChar '/' ∉ s → x ≠ s →
      Text.endsWith (Route.read.fixedPath ++ x) (CodePoint.ofChar '/' :: s) = false := by
    intro s hs hne
    refine Bool.eq_false_iff.mpr fun h => hne ?_
    exact (endsWith_segment (t := Text.ofString "/secret-sharing") hslash hs).mp h
  have hendsOne : Text.endsWith (Route.read.fixedPath ++ x) "/." = false :=
    hends (Text.ofString ".") (by decide) hone
  have hendsTwo : Text.endsWith (Route.read.fixedPath ++ x) "/.." = false :=
    hends (Text.ofString "..") (by decide) htwo
  have hstart : Text.startsWith (Route.read.fixedPath ++ x) "/" = true := rfl
  unfold Http.resolveDots
  rw [hsplit, hkept, hstart, hendsOne, hendsTwo]
  show Text.joinWith "/" ([[], Text.ofString "secret-sharing", x] ++ []) = _
  rw [List.append_nil]
  rfl

/-- **A bare text is seen as it is**, but for its surrogates. -/
theorem fetchedPath_bare (hx : IsBare x) (hone : x ≠ Text.ofString ".")
    (htwo : x ≠ Text.ofString "..") :
    fetchedPath x = Route.read.fixedPath ++ x.flatMap Utf8.lenient := by
  have hslash : CodePoint.ofChar '/' ∉ x := hx.not_mem (by decide)
  have hfixed : Route.read.fixedPath.all
      (fun c => staysInPath c && c ≠ CodePoint.ofChar '%') = true := by decide
  -- nothing in the path begins a query or a fragment, or is an escape already
  have hstays : (Route.read.fixedPath ++ x).takeWhile staysInPath = Route.read.fixedPath ++ x := by
    refine List.takeWhile_eq_self_iff.mpr ?_
    intro c hc
    rcases List.mem_append.mp hc with hc | hc
    · exact (Bool.and_eq_true _ _ ▸ List.all_eq_true.mp hfixed c hc).1
    · exact hx.staysInPath hc
  have hplain : ∀ c ∈ Route.read.fixedPath ++ x, c ≠ CodePoint.ofChar '%' := by
    intro c hc
    rcases List.mem_append.mp hc with hc | hc
    · exact of_decide_eq_true (Bool.and_eq_true _ _ ▸ List.all_eq_true.mp hfixed c hc).2
    · rintro rfl
      exact hx.not_mem (by decide) hc
  unfold fetchedPath Http.seenPath
  rw [hstays, resolveDots_read hslash hone htwo, Http.escapePart_of_not_mem hplain]
  show Percent.decode (Percent.encode Http.isPathSign (Route.read.fixedPath ++ x)) = _
  rw [Percent.decode_encode Http.isPathSign_percent, List.flatMap_append]
  rfl

/-- **A bare text names itself**, but for its surrogates. -/
theorem namedBy_of_isBare (hx : IsBare x) (hne : x ≠ []) (hone : x ≠ Text.ofString ".")
    (htwo : x ≠ Text.ofString "..") : namedBy x = some (x.flatMap Utf8.lenient) := by
  have hslash : CodePoint.ofChar '/' ∉ x.flatMap Utf8.lenient := by
    intro hmem
    obtain ⟨c, hc, hlenient⟩ := List.mem_flatMap.mp hmem
    unfold Utf8.lenient at hlenient
    split at hlenient
    next => exact absurd hlenient (by decide)
    next =>
      rw [List.mem_singleton] at hlenient
      exact hx.not_mem (by decide) (hlenient ▸ hc)
  have hnonempty : x.flatMap Utf8.lenient ≠ [] := by
    obtain ⟨c, t, rfl⟩ := List.exists_cons_of_ne_nil hne
    rw [List.flatMap_cons]
    unfold Utf8.lenient
    split <;> simp
  -- the path does not end with a slash, so it is not redirected
  have hsettled : settled (Route.read.fixedPath ++ x.flatMap Utf8.lenient)
      = Route.read.fixedPath ++ x.flatMap Utf8.lenient := by
    unfold settled
    rw [endsWith_slash_append hnonempty hslash]
    rfl
  unfold namedBy named?
  rw [fetchedPath_bare hx hone htwo, hsettled]
  exact Route.fit?_read_eq_some_iff.mpr ⟨rfl, hnonempty, hslash⟩

/-- **A bare text names an issued id iff it is that id.** -/
theorem namedBy_bare (hx : IsBare x) (octets : Bytes) :
    namedBy x = some (identifierOf octets) ↔ x = identifierOf octets := by
  have hsigns : ∀ c ∈ identifierOf octets, IdSign c := fun _ hc => idSign_identifierOf hc
  have hdotless : ∀ t : Text, CodePoint.ofChar '.' ∈ t → t ≠ identifierOf octets := by
    rintro t ht rfl
    exact (hsigns _ ht).ne (by decide) rfl
  by_cases hproper : x ≠ [] ∧ x ≠ Text.ofString "." ∧ x ≠ Text.ofString ".."
  · rw [namedBy_of_isBare hx hproper.1 hproper.2.1 hproper.2.2, Option.some_inj]
    constructor
    · exact Utf8.eq_of_flatMap_lenient (isAscii_identifierOf octets)
    · rintro rfl
      exact Utf8.flatMap_lenient_of_isScalar (Text.isScalar_of_isAscii (isAscii_identifierOf octets))
  · -- nothing and dots name no id, and are none
    have hnone : namedBy [] = none ∧ namedBy (Text.ofString ".") = none
        ∧ namedBy (Text.ofString "..") = none := by decide +kernel
    have hcases : x = [] ∨ x = Text.ofString "." ∨ x = Text.ofString ".." := by
      by_contra hno
      rw [not_or, not_or] at hno
      exact hproper hno
    rcases hcases with rfl | rfl | rfl
    · rw [hnone.1]
      exact ⟨nofun, fun h => absurd h.symm (identifierOf_ne_nil octets)⟩
    · rw [hnone.2.1]
      exact ⟨nofun, fun h => absurd h (hdotless _ (by decide))⟩
    · rw [hnone.2.2]
      exact ⟨nofun, fun h => absurd h (hdotless _ (by decide))⟩

end Names

/-! ## §2. What a reader gets -/

/-- What the reader of a name gets of the records at a time, and what is left of them. -/
inductive Reads (now : Stamp) (path : Text) (name : Option Text) (s : Records) :
    Client.Answer → Records → Prop where
  /-- The live row of the name, and what a read of it leaves. -/
  | found {row : Row} {d : Text} (hrow : row ∈ s.secrets) (hlive : row.isLive now = true)
      (hdata : row.data = some d) (hname : name = some row.header.id) :
      Reads now path name s (Client.answerOf (Response.json 200 (Store.publicJson row.header d)))
        (s.withSecrets (afterRead row.header s.secrets))
  /-- Nothing, and every live row is left. -/
  | missing {status : Nat} {detail : Text} {t : Records}
      (hnone : ∀ row ∈ s.secrets, row.isLive now = true → name ≠ some row.header.id)
      (hstatus : status = 404
        ∨ status = 405 ∧ Route.isFixed path Route.register.fixedPath = true)
      (hdetail : detail.isScalar = true)
      (hkept : ∀ row ∈ s.secrets, row.isLive now = true → row ∈ t.secrets) :
      Reads now path name s (Client.answerOf (Response.detail status detail)) t

/-- No reader is sent elsewhere by what it gets. -/
theorem Reads.status_ne {now : Stamp} {path : Text} {name : Option Text} {s t : Records}
    {a : Client.Answer} (h : Reads now path name s a t) : a.status ≠ 307 := by
  cases h with
  | found => exact show (200 : Nat) ≠ 307 by decide
  | missing _ hstatus =>
    rcases hstatus with rfl | ⟨rfl, _⟩
    · exact show (404 : Nat) ≠ 307 by decide
    · exact show (405 : Nat) ≠ 307 by decide

section Readers

variable {c : Context} {m : Moment} {s : Records} {id path : Text} {name : Option Text}

/-- **A reader with a proper id gets the live row of that id, or nothing.** -/
theorem readEndpoint_reads (hclock : c.now.clock = .ok m) (hkeyed : s.secrets.Keyed)
    (hids : ∀ row ∈ s.secrets, isIdentifier row.header.id = true)
    (he : Store.encodable [id] = .ok ()) :
    ∃ a t, readEndpoint c s id = (.response a, t)
      ∧ Reads c.now path (some id) s (Client.answerOf a) t := by
  cases hproper : isIdentifier id with
  | false =>
    -- the id of a row would be proper
    have hnone : ∀ row ∈ s.secrets, row.isLive c.now = true → some id ≠ some row.header.id := by
      rintro row hrow _ hid
      injection hid with hid
      rw [hid, hids row hrow] at hproper
      cases hproper
    refine ⟨Response.detail 404 secretNotFound, s, ?_,
      .missing hnone (.inl rfl) (by decide) fun _ hrow _ => hrow⟩
    unfold readEndpoint
    rw [hproper]
    rfl
  | true =>
    have hm := utc_of_clock hclock
    rw [readEndpoint_eq hclock s hproper]
    rcases Store.get_disclosed hm he hkeyed with
      ⟨row, hrow, hid, hlive, hresult, htable⟩ | ⟨hdead, hresult, _⟩
    · obtain ⟨d, hd⟩ := Option.isSome_iff_exists.mp (Row.isLive_eq_true_iff.mp hlive).1
      refine ⟨_, _, ?_, .found hrow hlive hd (congrArg some hid.symm)⟩
      rw [hresult, htable, ← hid]
      unfold disclosureReply Row.anonymous
      dsimp only
      rw [hd]
      rfl
    · have hleft := Store.get_of_dead hm he hkeyed hdead
      refine ⟨Response.detail 404 secretNotFound,
        s.withSecrets (s.secrets.clearWhere fun row => row.hasId id && row.isPast c.now), ?_,
        .missing ?_ (.inl rfl) (by decide) ?_⟩
      · rw [hresult, hleft]
        rfl
      · rintro row hrow hlive hid
        injection hid with hid
        rw [hdead row hrow hid.symm] at hlive
        cases hlive
      · intro row hrow hlive
        refine Table.mem_clearWhere.mpr (.inl ⟨hrow, ?_⟩)
        rw [(Row.isLive_eq_true_iff.mp hlive).2, Bool.and_false]

/-- **Where a reader stays, the reader gets what the path names.** -/
theorem dispatch_reads {r : Request} (hclock : c.now.clock = .ok m) (hkeyed : s.secrets.Keyed)
    (hids : ∀ row ∈ s.secrets, isIdentifier row.header.id = true) (hget : r.method = "GET")
    (hstops : Stops r.path name) :
    ∃ a t, dispatch c s r = (.response a, t)
      ∧ Reads c.now r.path name s (Client.answerOf a) t := by
  have hdispatch : ∀ d, destination "GET" r.path = d → destination r.method r.path = d := by
    intro d hd
    rw [hget]
    exact hd
  -- what names no row names no live one
  have hunnamed : ∀ row ∈ s.secrets, row.isLive c.now = true → none ≠ some row.header.id :=
    fun _ _ _ => nofun
  unfold dispatch
  cases hstops with
  | read h =>
    rw [hdispatch _ h]
    exact readEndpoint_reads hclock hkeyed hids (encodable_parameter (hdispatch _ h))
  | register hfixed h =>
    rw [hdispatch _ h]
    exact ⟨(Response.detail 405 "Method Not Allowed").withHeaders [("allow", "POST")], s, rfl,
      .missing hunnamed (.inr ⟨rfl, hfixed⟩) (by decide) fun _ hrow _ => hrow⟩
  | nowhere h =>
    rw [hdispatch _ h]
    exact ⟨Response.detail 404 "Not Found", s, rfl,
      .missing hunnamed (.inl rfl) (by decide) fun _ hrow _ => hrow⟩

/-- What a read gets only depends on the path as far as the path is that of registrations. -/
theorem Reads.congr {now : Stamp} {path' : Text} {t : Records} {a : Client.Answer}
    (hpath : Route.isFixed path Route.register.fixedPath = true → path' = path)
    (h : Reads now path name s a t) : Reads now path' name s a t := by
  cases h with
  | found hrow hlive hdata hname => exact .found hrow hlive hdata hname
  | missing hnone hstatus hdetail hkept =>
    refine .missing hnone (hstatus.imp_right fun hregister => ⟨hregister.1, ?_⟩) hdetail hkept
    rw [hpath hregister.2]
    exact hregister.2

end Readers

/-! ## §3. One redirect -/

/-- What a reader gets through the limiter. -/
inductive Gets {τ : Type} (now : Stamp) (path : Text) (name : Option Text) (s : Records)
    (o : Client.Outcome (State τ) Client.Answer) : Prop where
  /-- The limiter refuses a request, and everything is left. -/
  | refused (hresult : o.result = .ok (Client.answerOf limitedResponse))
      (hrecords : o.state.records = s) (hexchange : ∃ z ∈ o.exchanges, z.status = 429)
  /-- The reader gets what the path names. -/
  | answered {a : Client.Answer} {t : Records} (hreads : Reads now path name s a t)
      (hresult : o.result = .ok a) (hrecords : o.state.records = t)

/-- A redirect makes the client ask again, with its exchange behind it. -/
theorem exchange_sent {σ : Type} {host target location : Text} {f : Client.Server σ}
    {p : Option Form.SignedPayload} {s s' : σ} {r : Response} (n : Nat)
    (hf : f s (Client.requestOf host target p) = (r, s'))
    (hr : Client.redirect? r = some location) :
    let o := Client.exchange f host p n s' (Http.redirectTarget location)
    Client.exchange f host p (n + 1) s target = { o with
      exchanges := ⟨(Client.requestOf host target p).method, target, p, r.status⟩ :: o.exchanges } := by
  intro o
  conv => lhs; unfold Client.exchange
  dsimp only
  rw [hf]
  dsimp only
  rw [hr]

section Exchanges

variable {τ : Type} [Sub τ] [LT τ] [DecidableLT τ] [OfNat τ 1] {e : Setup τ} {y : Call τ} {m : Moment}
  {s : State τ} {host target path : Text} {name : Option Text}

/-- A request that the limiter refuses leaves the records. -/
theorem exchange_refused (n : Nat)
    (h : (RateLimit.step e.policy s.lanes ⟨y.client, "GET", y.tick⟩).1 = false) :
    Gets y.now path name s.records (Client.exchange (e.server y) host none n s target) := by
  have hserver : e.server y s (Client.requestOf host target none) = (limitedResponse,
      ⟨s.records, (RateLimit.step e.policy s.lanes ⟨y.client, "GET", y.tick⟩).2⟩) := by
    unfold Setup.server serve
    dsimp only [Client.requestOf]
    rw [h]
    rfl
  rw [exchange_stay n hserver (by decide)]
  exact .refused rfl rfl ⟨_, List.mem_singleton_self _, rfl⟩

variable (hclock : y.now.clock = .ok m) (hkeyed : s.records.secrets.Keyed)
  (hids : ∀ row ∈ s.records.secrets, isIdentifier row.header.id = true)

include hclock hkeyed hids

/-- **Where a reader stays, the reader gets what the path names**, or is refused. -/
theorem exchange_stops (n : Nat) (hshows : Shows target path) (hstops : Stops path name) :
    Gets y.now path name s.records (Client.exchange (e.server y) host none n s target) := by
  cases hadmitted : (RateLimit.step e.policy s.lanes ⟨y.client, "GET", y.tick⟩).1 with
  | false => exact exchange_refused n hadmitted
  | true =>
    have hpath : (Client.requestOf host target none).path = path := Shows.request hshows |>.1
    obtain ⟨a, t, hdispatch, hreads⟩ := dispatch_reads (c := e.context y.now)
      (r := Client.requestOf host target none) hclock hkeyed hids rfl (hpath.symm ▸ hstops)
    obtain ⟨lanes, hserver⟩ := server_of_dispatch hadmitted (header?_origin host target none) hdispatch
    rw [hpath] at hreads
    rw [exchange_stay n hserver hreads.status_ne]
    exact .answered hreads rfl rfl

/-- **A reader gets what the path names, at once or through a redirect**, or is refused. -/
theorem exchange_reads (n : Nat) (hpage : isPage (settled path) = false)
    (hshows : Shows target path) (hscalar : path.isScalar = true)
    (hhost : PlainAuthority host) :
    Gets y.now (settled path) (named? path) s.records
      (Client.exchange (e.server y) host none (n + 1) s target) := by
  rcases settles hpage with hstops | ⟨hdestination, hsegmented, hsettled, hstops⟩
  · cases exchange_stops hclock hkeyed hids (n + 1) hshows hstops with
    | refused hresult hrecords hexchange => exact .refused hresult hrecords hexchange
    | answered hreads hresult hrecords =>
      exact .answered (hreads.congr settled_of_register) hresult hrecords
  · cases hadmitted : (RateLimit.step e.policy s.lanes ⟨y.client, "GET", y.tick⟩).1 with
    | false => exact exchange_refused (n + 1) hadmitted
    | true =>
      set q := Client.requestOf host target none with hq
      have hpath : q.path = path := Shows.request hshows |>.1
      have hdispatch : dispatch (e.context y.now) s.records q = (.response ⟨307,
          [("location", redirectAddress q (Text.stripRight '/' path))], .text []⟩, s.records) := by
        unfold dispatch
        rw [hpath, show destination q.method path = _ from hdestination]
      obtain ⟨lanes, hserver⟩ :=
        server_of_dispatch hadmitted (header?_origin host target none) hdispatch
      have hnext := shows_redirectAddress (r := q) hshows rfl hhost hsegmented
        (isScalar_stripRight _ hscalar)
      rw [← hsettled] at hnext
      -- nothing has changed but the lanes
      have hgets : Gets y.now (settled path) (named? path) s.records (Client.exchange (e.server y)
          host none n ⟨s.records, lanes⟩ (Http.redirectTarget
            (redirectAddress q (Text.stripRight '/' path)))) :=
        exchange_stops (s := ⟨s.records, lanes⟩) hclock hkeyed hids n hnext hstops
      rw [exchange_sent n hserver rfl]
      cases hgets with
      | refused hresult hrecords hexchange =>
        obtain ⟨z, hz, hstatus⟩ := hexchange
        exact .refused hresult hrecords ⟨z, List.mem_cons_of_mem _ hz, hstatus⟩
      | answered hreads hresult hrecords => exact .answered hreads hresult hrecords

end Exchanges

/-! ## §4. Fetches -/

section Fetches

variable {τ : Type}

/-- What a fetch by a text comes to at a time. -/
structure Fetches (now : Stamp) (x : Text) (s : Records) (o : Client.Outcome (State τ) Json) :
    Prop where
  /-- A value is the public view of the live row that the text names, and shows its id; what is left
  is what a read of that row leaves. -/
  value : ∀ j, o.result = .ok j → ∃ row ∈ s.secrets, ∃ d, row.isLive now = true
    ∧ row.data = some d ∧ namedBy x = some row.header.id ∧ j = Store.publicJson row.header d
    ∧ Client.textOf "id" j = row.header.id
    ∧ o.state.records = s.withSecrets (afterRead row.header s.secrets)
  /-- Without a value, every live row is left as it was. -/
  spared : ∀ f, o.result = .error f →
    ∀ row ∈ s.secrets, row.isLive now = true → row ∈ o.state.records.secrets
  /-- The live row that the text names is found, unless the limiter refuses. -/
  found : (∀ z ∈ o.exchanges, z.status ≠ 429) →
    ∀ row ∈ s.secrets, row.isLive now = true → namedBy x = some row.header.id →
      ∃ j, o.result = .ok j
  /-- If the text names no live row, there is said to be none, unless the limiter refuses. The one
  path that takes another method says so instead. -/
  missing : (∀ z ∈ o.exchanges, z.status ≠ 429) →
    (∀ row ∈ s.secrets, row.isLive now = true → namedBy x ≠ some row.header.id) →
      ∃ d, o.result = .error (.answer (.notFound d))
        ∨ Route.isFixed (settled (fetchedPath x)) Route.register.fixedPath = true
          ∧ o.result = .error (.answer (.failed 405 d))

/-- Without a value there is a reason, and every live row is left. -/
theorem Fetches.of_error {now : Stamp} {x : Text} {s : Records} {o : Client.Outcome (State τ) Json}
    {f : Client.Fault} (hresult : o.result = .error f)
    (hspared : ∀ row ∈ s.secrets, row.isLive now = true → row ∈ o.state.records.secrets)
    (hreason : (∀ z ∈ o.exchanges, z.status ≠ 429) →
      (∀ row ∈ s.secrets, row.isLive now = true → namedBy x ≠ some row.header.id)
      ∧ ∃ d, f = .answer (.notFound d)
        ∨ Route.isFixed (settled (fetchedPath x)) Route.register.fixedPath = true
          ∧ f = .answer (.failed 405 d)) : Fetches now x s o where
  value := by
    intro j hj
    rw [hresult] at hj
    cases hj
  spared := fun _ _ => hspared
  -- a live row that is named would have been found
  found := fun hadmitted row hrow hlive hname => absurd hname ((hreason hadmitted).1 row hrow hlive)
  missing := by
    intro hadmitted _
    obtain ⟨_, d, rfl | ⟨hregister, rfl⟩⟩ := hreason hadmitted
    · exact ⟨d, .inl hresult⟩
    · exact ⟨d, .inr ⟨hregister, hresult⟩⟩

/-- A client reads back the answer with a secret. -/
theorem check_publicJson (h : Store.Header) (d : Text) :
    Client.check (Client.answerOf (Response.json 200 (Store.publicJson h d)))
      = .ok (Store.publicJson h d) := by
  have hread : Json.read (Client.answerOf (Response.json 200 (Store.publicJson h d))).body
      = .ok (Store.publicJson h d) := Store.read_publicJson h d
  have hstatus : (Client.answerOf (Response.json 200 (Store.publicJson h d))).status < 400 := by
    show 200 < 400
    decide
  unfold Client.check
  rw [if_pos hstatus, hread]

/-- The last step of a fetch: the answer is told. -/
def told (o : Client.Outcome (State τ) Client.Answer) : Client.Outcome (State τ) Json :=
  o.andThen fun a => (Client.check a).mapError Client.Fault.answer

section Told

variable {o : Client.Outcome (State τ) Client.Answer} {a : Client.Answer}

/-- An answer that checks out is the result of `fetch`. -/
theorem told_of_ok {j : Json} (ho : o.result = .ok a) (ha : Client.check a = .ok j) :
    (told o).result = .ok j := by
  unfold told Client.Outcome.andThen
  rw [ho]
  dsimp only [Except.bind]
  rw [ha]
  rfl

/-- Any other is its error. -/
theorem told_of_error {f : Client.AnswerFault} (ho : o.result = .ok a)
    (ha : Client.check a = .error f) : (told o).result = .error (.answer f) := by
  unfold told Client.Outcome.andThen
  rw [ho]
  dsimp only [Except.bind]
  rw [ha]
  rfl

end Told

/-- **What a reader gets is what its client tells.** -/
theorem Gets.fetches {now : Stamp} {x : Text} {s : Records}
    {o : Client.Outcome (State τ) Client.Answer}
    (h : Gets now (settled (fetchedPath x)) (namedBy x) s o) : Fetches now x s (told o) := by
  cases h with
  | refused hresult hrecords hexchange =>
    -- the limiter's answer is an error of the client, and no table was touched
    have hlimited : Client.check (Client.answerOf limitedResponse)
        = .error (.failed 429 "Too many requests.") := check_detail (by decide) (by decide)
    obtain ⟨z, hz, hstatus⟩ := hexchange
    refine .of_error (told_of_error hresult hlimited) ?_ fun hno => absurd hstatus (hno z hz)
    intro row hrow _
    show row ∈ o.state.records.secrets
    rw [hrecords]
    exact hrow
  | answered hreads hresult hrecords =>
    cases hreads with
    | @found row d hrow hlive hdata hname =>
      -- the row is live and named, and its public view is the result
      have htold := told_of_ok hresult (check_publicJson row.header d)
      refine ⟨?_, ?_, fun _ _ _ _ _ => ⟨_, htold⟩, fun _ hnone => absurd hname (hnone row hrow hlive)⟩
      · intro j hj
        rw [htold] at hj
        injection hj with hj
        exact ⟨row, hrow, d, hlive, hdata, hname, hj.symm, hj ▸ rfl, hrecords⟩
      · intro f hf
        rw [htold] at hf
        cases hf
    | @missing status _ _ hnone hstatus hdetail hkept =>
      have hleast : 400 ≤ status := by
        rcases hstatus with rfl | ⟨rfl, _⟩
        · decide
        · decide
      refine .of_error (told_of_error hresult (check_detail hleast hdetail)) ?_ fun _ => ⟨hnone, ?_⟩
      · intro row hrow hlive
        show row ∈ o.state.records.secrets
        rw [hrecords]
        exact hkept row hrow hlive
      · rcases hstatus with rfl | ⟨rfl, hregister⟩
        · exact ⟨_, .inl rfl⟩
        · exact ⟨_, .inr ⟨hregister, rfl⟩⟩

/-- An issued id holds no sign with a meaning in a path. -/
theorem isBare_identifierOf (octets : Bytes) : IsBare (identifierOf octets) := by
  have hmarks : pathMarks.all (fun d => decide (¬ (0x30 ≤ d.val ∧ d.val ≤ 0x39)
      ∧ ¬ (0x61 ≤ d.val ∧ d.val ≤ 0x66) ∧ d.val ≠ 0x2D)) = true := by decide
  intro c hc hmark
  exact (idSign_identifierOf hc).ne (of_decide_eq_true (List.all_eq_true.mp hmarks c hmark)) rfl

variable [Sub τ] [LT τ] [DecidableLT τ] [OfNat τ 1]

/-- **A fetch reads the live row that its text names, and no other**, in every state that a server can
reach, and for every text that does not lead to one of the framework's pages (`isPage`).  A text
without the marks of an address names an issued id iff it is that id.  Any text behind an id and a
question mark or a number sign names that id all the same. -/
theorem fetch_reads_named (e : Setup τ) (before : List (Event τ)) (c : Client) (y : Call τ) (x : Text)
    {m : Moment} {scheme typed : Text} {a : Http.Authority} (hclock : y.now.clock = .ok m)
    (hroot : Root c.address scheme typed a) (hpage : isPage (settled (fetchedPath x)) = false) :
    let s := e.run State.empty before
    Fetches y.now x s.records (c.fetch (e.server y) s x)
    ∧ ∀ row ∈ s.records.secrets,
      (IsBare x → (namedBy x = some row.header.id ↔ x = row.header.id))
      ∧ ∀ t, namedBy (row.header.id ++ CodePoint.ofChar '?' :: t) = some row.header.id
        ∧ namedBy (row.header.id ++ CodePoint.ofChar '#' :: t) = some row.header.id := by
  intro s
  have hkeyed : s.records.secrets.Keyed := keyed_run Table.keyed_nil before
  have hids : ∀ row ∈ s.records.secrets, ∃ octets, row.header.id = identifierOf octets := by
    intro row hrow
    obtain ⟨k, _, hid⟩ := (Sound.run (sound_empty e.freshId) before).issued row hrow
    exact ⟨e.octets k, hid⟩
  constructor
  · have hproper : ∀ row ∈ s.records.secrets, isIdentifier row.header.id = true := by
      intro row hrow
      obtain ⟨octets, hid⟩ := hids row hrow
      rw [hid]
      exact isIdentifier_identifierOf octets
    -- the client's address and the path make a target that the server sees as that path
    have hrest : ∃ r, Route.read.fixedPath ++ x = CodePoint.ofChar '/' :: r := ⟨_, rfl⟩
    obtain ⟨target, haddress, hshows⟩ := hroot.ofText hrest
    have hgets := exchange_reads (e := e) hclock hkeyed hproper 29 hpage hshows
      (Utf8.isScalar_decodeLossy _) hroot.host_plain
    unfold Client.fetch Client.send
    rw [show Text.ofString "/secret-sharing/" ++ x = Route.read.fixedPath ++ x from rfl, haddress]
    exact hgets.fetches
  · intro row hrow
    obtain ⟨octets, hid⟩ := hids row hrow
    have hbare := isBare_identifierOf octets
    have hself : namedBy (identifierOf octets) = some (identifierOf octets) :=
      (namedBy_bare hbare octets).mpr rfl
    rw [hid]
    refine ⟨fun hx => namedBy_bare hx octets, fun t => ⟨?_, ?_⟩⟩
    · exact (namedBy_mark hbare (by decide) t).trans hself
    · exact (namedBy_mark hbare (by decide) t).trans hself

end Fetches

/-! ## §5. A question mark behind an id -/

/-- The client registers and shares a secret for two minutes that one read uses up. -/
def sharedOnce : List (Event Int) :=
  registered ++ [.request ⟨.first, some 0⟩ ⟨carrying "/secret-sharing/create" (alice.signed
    (Form.Creation.mk "alice" "c2VhbGVk" hello.expiresAt true)), none, 1⟩]

/-- A text that is no id, but names one. -/
def queried : Text := countingSetup.freshId 0 ++ "?q"

/-- What fetching it comes to. -/
def queriedFetch : Client.Outcome (State Int) Json :=
  alice.fetch (countingSetup.server promptCall) (countingSetup.run State.empty sharedOnce) queried

/-- The address of the client is the root of a server. -/
theorem root_alice : Root alice.address "http" "127.0.0.1:8000" ⟨none, "127.0.0.1", some 8000⟩ where
  text := by decide
  web := by decide
  bare := by
    have hall : (Text.ofString "127.0.0.1:8000").all (fun c => !Http.endsAuthority c) = true := by
      decide
    exact ⟨by decide, fun c hc => by simpa using List.all_eq_true.mp hall c hc⟩
  authority := fun t => rfl
  host := by decide
  start := by decide
  plain := by
    have hall : (Http.Authority.escaped ⟨none, "127.0.0.1", some 8000⟩).text.all (fun c =>
        Http.isAddressSign c && c ≠ CodePoint.ofChar '%' && !Http.endsAuthority c) = true := by
      decide +kernel
    intro c hc
    have hsign := List.all_eq_true.mp hall c hc
    rw [Bool.and_eq_true, Bool.and_eq_true, decide_eq_true_iff, Bool.not_eq_true'] at hsign
    exact ⟨hsign.1.1, hsign.1.2, hsign.2⟩

/-- What the run of the example comes to. -/
theorem queriedFetch_run : (countingSetup.run State.empty sharedOnce).records.secrets.map
        (fun row => (row.header.id, row.isLive promptCall.now))
      = [(countingSetup.freshId 0, true)]
    ∧ queriedFetch.result.toOption.isSome = true
    ∧ queriedFetch.exchanges.map (fun z => z.status) = [200]
    ∧ queriedFetch.state.records.secrets.map Row.data = [none] := by
  set_option maxRecDepth 100000 in decide +kernel

/-- The one row has the first id. -/
theorem id_sharedOnce : ∀ row ∈ (countingSetup.run State.empty sharedOnce).records.secrets,
    row.header.id = countingSetup.freshId 0 := by
  intro row hrow
  have hmem := List.mem_map_of_mem (f := fun row : Row =>
    (row.header.id, row.isLive promptCall.now)) hrow
  rw [queriedFetch_run.1, List.mem_singleton] at hmem
  exact congrArg Prod.fst hmem

/-- No page of the framework is asked for. -/
theorem isPage_queried : isPage (settled (fetchedPath queried)) = false := by
  set_option maxRecDepth 100000 in decide +kernel

/-- A text that is the id of no row names a live one, and fetches it. -/
theorem fetch_reads_named_queried :
    isPage (settled (fetchedPath queried)) = false
    ∧ Fetches promptCall.now queried (countingSetup.run State.empty sharedOnce).records queriedFetch
    ∧ ∀ row ∈ (countingSetup.run State.empty sharedOnce).records.secrets,
      row.header.id ≠ queried ∧ namedBy queried = some row.header.id := by
  obtain ⟨hfetches, hnames⟩ := fetch_reads_named countingSetup sharedOnce alice promptCall queried
    (m := .first) rfl root_alice isPage_queried
  refine ⟨isPage_queried, hfetches, fun row hrow => ?_⟩
  have hnamed := ((hnames row hrow).2 "q").1
  rw [id_sharedOnce row hrow] at hnamed ⊢
  exact ⟨by decide, hnamed⟩

/-- A fetch is not bound to the id that it is asked for: a text that is no id of a live row gets the
value of one. -/
theorem not_fetched_by_id :
    ¬ ∀ (e : Setup Int) (before : List (Event Int)) (c : Client) (y : Call Int) (x : Text),
      let s := e.run State.empty before
      let o := c.fetch (e.server y) s x
      (∀ z ∈ o.exchanges, z.status ≠ 429) →
      (∀ j, o.result = .ok j → Client.textOf "id" j = x
        ∧ ∃ row ∈ s.records.secrets, row.isLive y.now = true ∧ row.header.id = x)
      ∧ ((∀ row ∈ s.records.secrets, row.isLive y.now = true → row.header.id ≠ x) →
        (∃ d, o.result = .error (.answer (.notFound d)))
        ∧ ∀ row ∈ s.records.secrets, row.isLive y.now = true → row ∈ o.state.records.secrets) := by
  intro hclaim
  obtain ⟨_, hvalue, hstatus, _⟩ := queriedFetch_run
  have hadmitted : ∀ z ∈ queriedFetch.exchanges, z.status ≠ 429 := by
    intro z hz
    have hmem := List.mem_map_of_mem (f := fun z : Client.Exchange => z.status) hz
    rw [hstatus, List.mem_singleton] at hmem
    omega
  -- no row has the text for an id, so the claim would have the secret not found
  obtain ⟨d, hd⟩ := ((hclaim countingSetup sharedOnce alice promptCall queried hadmitted).2
    fun row hrow _ => by rw [id_sharedOnce row hrow]; decide).1
  rw [show queriedFetch.result = .error (.answer (.notFound d)) from hd] at hvalue
  cases hvalue

end SealedDrop.Server
