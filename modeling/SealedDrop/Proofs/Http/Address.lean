/-
  SealedDrop.Proofs.Http.Address
  ──────────────────────────────
  **WHAT A SERVER SEES OF AN ADDRESS.**

  Whatever is appended to the root of a server leads to that server: nothing in
  it can change scheme, host or port.  What the server sees of it is another
  matter:

      ‹root› ‹path› "?" ‹query› "#" ‹fragment›

  Only the path is seen as a path, with its dots resolved and its escapes
  undone (`seenPath`); the rest goes elsewhere or stays with the client.  A
  redirect is sent back to the same server, under its new path, which may lose
  the mark of an empty parameter on its way.

  Main results:
    • `Parts.ofText_below` — an address below a root, taken apart,
    • `Root.ofText` — where the address below a root leads,
    • `shows_redirectTarget` — where a redirect leads.
-/
import Mathlib.Data.List.TakeWhile
import SealedDrop.Proofs.Http.Escape
import SealedDrop.Proofs.Link
import SealedDrop.Proofs.Text.Literal

namespace SealedDrop.Http

open Percent (Spells encode)

/-! ## §1. Addresses taken apart -/

/-- The signs that end a path. -/
def staysInPath (c : CodePoint) : Bool :=
  c ≠ CodePoint.ofChar '?' && c ≠ CodePoint.ofChar '#'

/-- Query and fragment behind a path. -/
def cutMarks : Text → Text × Text
  | [] => ([], [])
  | c :: r =>
    if c = CodePoint.ofChar '?' then
      let q := r.takeWhile (· ≠ CodePoint.ofChar '#')
      (q, (r.drop q.length).drop 1)
    else ([], r)

/-- The parts of an address whose authority is known; `rest` stands behind it. -/
def Parts.below (scheme authority : Option Text) (rest : Text) : Parts :=
  let path := rest.takeWhile staysInPath
  let marks := cutMarks (rest.drop path.length)
  ⟨scheme, authority, path, marks.1, marks.2⟩

section Below

variable {s a rest : Text}

/-- The two schemes that the client can call. -/
theorem web_cases (h : isWebScheme s = true) : s = Text.ofString "http" ∨ s = Text.ofString "https" := by
  unfold isWebScheme at h
  rwa [Bool.or_eq_true, decide_eq_true_iff, decide_eq_true_iff] at h

/-- Such a scheme is cut off at its colon. -/
theorem scheme?_web (h : isWebScheme s = true) (t : Text) :
    scheme? (s ++ ("://" ++ t)) = some (s, "//" ++ t) := by
  rcases web_cases h with rfl | rfl
  · rfl
  · rfl

/-- **An address below a root is taken apart behind the authority.** -/
theorem Parts.ofText_below (hs : isWebScheme s = true) (ha : ∀ c ∈ a, endsAuthority c = false)
    (hrest : ∃ r, rest = CodePoint.ofChar '/' :: r) :
    Parts.ofText (s ++ ("://" ++ (a ++ rest))) = Parts.below (some s) (some a) rest := by
  obtain ⟨r, rfl⟩ := hrest
  have hslash : (!endsAuthority (CodePoint.ofChar '/')) = false := by decide
  have hall : ∀ c ∈ a, (!endsAuthority c) = true := by
    intro c hc
    rw [ha c hc]
    rfl
  have htake : (a ++ CodePoint.ofChar '/' :: r).takeWhile (fun c => !endsAuthority c) = a := by
    rw [List.takeWhile_append_of_pos hall, List.takeWhile_cons, hslash, if_neg (by simp),
      List.append_nil]
  have hdrop : (a ++ CodePoint.ofChar '/' :: r).dropWhile (fun c => !endsAuthority c)
      = CodePoint.ofChar '/' :: r := by
    rw [List.dropWhile_append_of_pos hall, List.dropWhile_cons, hslash, if_neg (by simp)]
  unfold Parts.ofText
  rw [scheme?_web hs]
  dsimp only
  rw [Text.dropLiteral?_eq_some_iff.mpr rfl]
  dsimp only
  rw [htake, hdrop]
  -- what stands behind the path is cut in one go
  show Parts.mk _ _ _ (cutMarks _).1 (cutMarks _).2 = _
  rfl

/-- A query and a fragment behind a path are cut off again. -/
theorem cutMarks_behind (query fragment : Text) (hquery : ∀ c ∈ query, c ≠ CodePoint.ofChar '#') :
    cutMarks (behind "?" query ++ behind "#" fragment) = (query, fragment) := by
  cases query with
  | nil => cases fragment <;> rfl
  | cons c q =>
    have hall : ∀ d ∈ c :: q, decide (d ≠ CodePoint.ofChar '#') = true :=
      fun d hd => decide_eq_true (hquery d hd)
    have htake : ((c :: q) ++ behind "#" fragment).takeWhile (· ≠ CodePoint.ofChar '#') = c :: q := by
      have hnone : (behind "#" fragment).takeWhile (· ≠ CodePoint.ofChar '#') = [] := by
        cases fragment <;> rfl
      rw [List.takeWhile_append_of_pos hall, hnone, List.append_nil]
    have hcut : cutMarks (CodePoint.ofChar '?' :: ((c :: q) ++ behind "#" fragment))
        = (c :: q, (behind "#" fragment).drop 1) := by
      rw [cutMarks, if_pos rfl]
      dsimp only
      rw [htake, List.drop_left]
    have hfragment : (behind "#" fragment).drop 1 = fragment := by cases fragment <;> rfl
    rw [hfragment] at hcut
    exact hcut

/-- **Path, query and fragment that are put together are taken apart again.** -/
theorem Parts.below_behind (scheme authority : Option Text) {path query fragment : Text}
    (hpath : ∀ c ∈ path, staysInPath c = true) (hquery : ∀ c ∈ query, c ≠ CodePoint.ofChar '#') :
    Parts.below scheme authority (path ++ (behind "?" query ++ behind "#" fragment))
      = ⟨scheme, authority, path, query, fragment⟩ := by
  -- what follows the path is nothing, or starts with a mark
  have hnone : (behind "?" query ++ behind "#" fragment).takeWhile staysInPath = [] := by
    cases query with
    | nil => cases fragment <;> rfl
    | cons c q => rfl
  unfold Parts.below
  dsimp only
  rw [List.takeWhile_append_of_pos hpath, hnone, List.append_nil, List.drop_left,
    cutMarks_behind query fragment hquery]

end Below

/-! ## §2. Below the root of a server -/

/-- A text can stand as the authority of an address as it is: it needs no escapes, and nothing in it
ends an authority. -/
def PlainAuthority (t : Text) : Prop :=
  ∀ c ∈ t, isAddressSign c = true ∧ c ≠ CodePoint.ofChar '%' ∧ endsAuthority c = false

/-- An address is the root of a server: a scheme of the web and an authority, behind which slashes may
follow. -/
structure Root (address scheme typed : Text) (a : Authority) : Prop where
  /-- What it consists of. -/
  text : Text.stripRight '/' address = scheme ++ ("://" ++ typed)
  /-- The scheme is one of the web. -/
  web : isWebScheme scheme = true
  /-- There is an authority, and nothing behind it. -/
  bare : typed ≠ [] ∧ ∀ c ∈ typed, endsAuthority c = false
  /-- It is one of the web. -/
  authority : ∀ t, Authority.ofText t true typed = .ok a
  /-- It has a host. -/
  host : a.host.isEmpty = false
  /-- The host starts like one. -/
  start : Text.startsWith a.host "*" = false ∧ Text.startsWith a.host "." = false
  /-- In its normal form it needs no escapes. -/
  plain : PlainAuthority a.escaped.text

/-- The path that a server sees of a text below its root. -/
def seenPath (rest : Text) : Text :=
  Percent.decode (rooted (escapePart isPathSign (resolveDots (rest.takeWhile staysInPath))))

section Root

variable {address scheme typed rest : Text} {a : Authority}

/-- An address that begins with a scheme has no blank in front. -/
theorem isBlank_web {s : Text} (h : isWebScheme s = true) (t : Text) :
    (s ++ t).dropWhile Text.isBlank = s ++ t := by
  rcases web_cases h with rfl | rfl
  · rfl
  · rfl

/-- And it is taken for one of the web, whatever the case of its letters. -/
theorem startsWith_web {s : Text} (h : isWebScheme s = true) (t : Text) :
    Text.startsWith (Text.lowerAscii (s ++ t)) "http" = true := by
  rcases web_cases h with rfl | rfl
  · rfl
  · rfl

/-- The host of a root address is written in signs that stand for themselves. -/
theorem Root.host_plain (h : Root address scheme typed a) : PlainAuthority a.escaped.host := by
  intro c hc
  refine h.plain c ?_
  unfold Authority.text
  exact List.mem_append_left _ (List.mem_append_right _ hc)

/-- **The authority of a root is that of every address below it.** -/
theorem Root.ofParts (h : Root address scheme typed a) {p : Parts} (t : Text)
    (hscheme : p.scheme = some scheme) (hauthority : p.authority = some typed) :
    Address.ofParts t p
      = .ok ⟨a.escaped.host, (Parts.ofText (requote (p.escaped.text scheme a.escaped))).target⟩ := by
  have hfilter : p.authority.filter (fun a => !a.isEmpty) = some typed := by
    rw [hauthority, Option.filter_some, List.isEmpty_eq_false_iff.mpr h.bare.1]
    rfl
  unfold Address.ofParts
  rw [hfilter, hscheme]
  dsimp only [Option.all_some]
  rw [h.web, h.authority]
  show (if a.host.isEmpty = true then _ else _) = _
  rw [h.host, if_neg (by simp)]
  show (if (Text.startsWith a.host "*" || Text.startsWith a.host ".") = true then _ else _) = _
  rw [h.start.1, h.start.2, if_neg (by simp)]
  show (if (!isWebScheme scheme) = true then _ else _) = _
  rw [h.web]
  rfl

/-- A target under which a server sees a path: a spelling of the path, and maybe a query. -/
structure Shows (target seen : Text) : Prop where
  /-- Path and query. -/
  parts : ∃ path query bp bq, target = path ++ behind "?" query ∧ Spells isPathSign path bp
    ∧ Spells isQuerySign query bq ∧ Utf8.decodeLossy bp = seen

theorem isPathSign_percent : isPathSign (CodePoint.ofChar '%') = false := by decide

/-- No path that is spelled holds the mark of a query or a fragment. -/
theorem staysInPath_of_spells {path : Text} {bp : Bytes} (h : Spells isPathSign path bp)
    {c : CodePoint} (hc : c ∈ path) : staysInPath c = true := by
  rcases h.mem (fun _ => isPathSign_of_isUnreserved) hc with hsign | rfl
  · unfold staysInPath
    rw [Bool.and_eq_true, decide_eq_true_iff, decide_eq_true_iff]
    constructor
    · rintro rfl
      exact absurd hsign (by decide)
    · rintro rfl
      exact absurd hsign (by decide)
  · decide

/-- No query that is spelled holds the mark of a fragment. -/
theorem ne_of_spells {query : Text} {bq : Bytes} (h : Spells isQuerySign query bq) {c : CodePoint}
    (hc : c ∈ query) : c ≠ CodePoint.ofChar '#' := by
  rintro rfl
  rcases h.mem (fun _ => isQuerySign_of_isUnreserved) hc with hsign | hsign
  · exact absurd hsign (by decide)
  · exact absurd hsign (by decide)

/-- **The path of a request is the one that its target shows**, and its query is spelled. -/
theorem Shows.request {r : Request} {seen : Text} (h : Shows r.target seen) :
    r.path = seen ∧ ∃ bq, Spells isQuerySign r.query bq := by
  obtain ⟨path, query, bp, bq, htarget, hpath, hquery, hseen⟩ := h.parts
  -- the path ends at the first question mark, and none of its signs is one
  have hall : ∀ c ∈ path, decide (c ≠ CodePoint.ofChar '?') = true := by
    intro c hc
    have hstays := staysInPath_of_spells hpath hc
    unfold staysInPath at hstays
    rw [Bool.and_eq_true] at hstays
    exact hstays.1
  constructor
  · have hnone : (behind "?" query).takeWhile (· ≠ CodePoint.ofChar '?') = [] := by
      cases query <;> rfl
    unfold Request.path Percent.decode
    rw [htarget, List.takeWhile_append_of_pos hall, hnone, List.append_nil, hpath.octets]
    exact hseen
  · have hdrop : ((behind "?" query).dropWhile (· ≠ CodePoint.ofChar '?')).drop 1 = query := by
      cases query <;> rfl
    refine ⟨bq, ?_⟩
    unfold Request.query
    rw [htarget, List.dropWhile_append_of_pos hall, hdrop]
    exact hquery

/-- A sign that is no percent sign spells its own octets. -/
theorem Spells.tail {p : CodePoint → Bool} {c : CodePoint} {r : Text} {bs : Bytes}
    (hc : c ≠ CodePoint.ofChar '%') (h : Spells p (c :: r) bs) :
    ∃ bs', Spells p r bs' ∧ bs = Utf8.encodePoint c ++ bs' := by
  generalize ht : c :: r = t at h
  cases h with
  | nil => cases ht
  | sign hd hne h =>
    injection ht with hhead htail
    exact ⟨_, htail ▸ h, hhead ▸ rfl⟩
  | escape hn h =>
    injection ht with hhead _
    exact absurd hhead hc

theorem rooted_cons (r : Text) : rooted (CodePoint.ofChar '/' :: r) = CodePoint.ofChar '/' :: r := rfl

/-- A path that starts with a slash is a slash and the rest. -/
theorem Text.eq_cons_of_startsWith {t : Text} (h : Text.startsWith t "/" = true) :
    ∃ r, t = CodePoint.ofChar '/' :: r := by
  obtain ⟨r, hr⟩ := Text.startsWith_iff.mp h
  exact ⟨r, hr.symm⟩

/-- A rooted spelling is a slash with a spelling behind it. -/
theorem spells_rooted {path : Text} {bs : Bytes} (h : Spells isPathSign path bs) :
    ∃ r bs', rooted path = CodePoint.ofChar '/' :: r ∧ Spells isPathSign r bs' := by
  unfold rooted
  split
  next hstart =>
    obtain ⟨r, rfl⟩ := Text.eq_cons_of_startsWith hstart
    obtain ⟨bs', hr, _⟩ := Spells.tail (by decide) h
    exact ⟨r, bs', rfl, hr⟩
  next => exact ⟨path, bs, rfl, h⟩

/-- The target of parts whose path is rooted. -/
theorem Parts.target_eq (p : Parts) {r : Text} (h : p.path = CodePoint.ofChar '/' :: r) :
    p.target = p.path ++ behind "?" p.query := by
  unfold Parts.target behind
  rw [h, rooted_cons]
  split
  next => exact (List.append_nil _).symm
  next => exact List.append_assoc _ _ _

/-- The signs before the path of an address. -/
def frontOf (scheme authority : Text) : Text := scheme ++ ("://" ++ (authority ++ "/"))

/-- The front of an address needs no escape. -/
theorem isAddressSign_front {s t : Text} (hs : isWebScheme s = true) (ht : PlainAuthority t) :
    ∀ c ∈ frontOf s t, isAddressSign c = true ∧ c ≠ CodePoint.ofChar '%' := by
  have hfixed : ∀ u : Text, u.all (fun c => isAddressSign c && c ≠ CodePoint.ofChar '%') = true →
      ∀ c ∈ u, isAddressSign c = true ∧ c ≠ CodePoint.ofChar '%' := by
    intro u hu c hc
    have hsign := List.all_eq_true.mp hu c hc
    rwa [Bool.and_eq_true, decide_eq_true_iff] at hsign
  have hscheme : ∀ c ∈ s, isAddressSign c = true ∧ c ≠ CodePoint.ofChar '%' := by
    rcases web_cases hs with rfl | rfl
    · exact hfixed _ (by decide)
    · exact hfixed _ (by decide)
  intro c hc
  unfold frontOf at hc
  simp only [List.mem_append] at hc
  rcases hc with hc | hc | hc | hc
  · exact hscheme c hc
  · exact hfixed "://" (by decide) c hc
  · exact ⟨(ht c hc).1, (ht c hc).2.1⟩
  · exact hfixed "/" (by decide) c hc

/-- An address that is put together of spelled parts is taken apart again. -/
theorem parts_of_front {s t path query : Text} {bp bq : Bytes} (hs : isWebScheme s = true)
    (ht : PlainAuthority t) (hpath : Spells isPathSign path bp)
    (hquery : Spells isQuerySign query bq) (fragment : Text) :
    Parts.ofText (frontOf s t ++ (path ++ (behind "?" query ++ behind "#" fragment)))
      = ⟨some s, some t, CodePoint.ofChar '/' :: path, query, fragment⟩ := by
  have htext : frontOf s t ++ (path ++ (behind "?" query ++ behind "#" fragment))
      = s ++ ("://" ++ (t ++ ((CodePoint.ofChar '/' :: path)
        ++ (behind "?" query ++ behind "#" fragment)))) := by
    unfold frontOf
    simp only [List.append_assoc]
    rfl
  have hstays : ∀ c ∈ CodePoint.ofChar '/' :: path, staysInPath c = true := by
    intro c hc
    rcases List.mem_cons.mp hc with rfl | hc
    · decide
    · exact staysInPath_of_spells hpath hc
  rw [htext, Parts.ofText_below hs (fun c hc => (ht c hc).2.2) ⟨_, List.cons_append⟩,
    Parts.below_behind _ _ hstays fun c hc => ne_of_spells hquery hc]

/-- **The normal form of an address below a root shows the path that was escaped.** -/
theorem Root.normal (h : Root address scheme typed a) (p : Parts) :
    Shows (Parts.ofText (requote (p.escaped.text scheme a.escaped))).target
      (Percent.decode (rooted (escapePart isPathSign (resolveDots p.path)))) := by
  -- path, query and fragment are escaped one by one, then released together
  obtain ⟨bs, hescaped⟩ := spells_escapePart (fun _ => isPathSign_of_isUnreserved)
    isPathSign_percent (resolveDots p.path)
  obtain ⟨r, br, hrooted, hr⟩ := spells_rooted hescaped
  obtain ⟨bq, hquery⟩ := spells_escapePart (fun _ => isQuerySign_of_isUnreserved)
    (show isQuerySign (CodePoint.ofChar '%') = false by decide) p.query
  obtain ⟨bf, hfragment⟩ := spells_escapePart (fun _ => isQuerySign_of_isUnreserved)
    (show isQuerySign (CodePoint.ofChar '%') = false by decide) p.fragment
  obtain ⟨r', hr', hrelease⟩ := Spells.released (fun _ => isPathSign_of_isUnreserved) hr
  obtain ⟨query', fragment', hquery', _, hrequote⟩ := requote_parts
    (isAddressSign_front h.web h.plain) hr' hrelease hquery hfragment
  have htext : p.escaped.text scheme a.escaped = frontOf scheme a.escaped.text
      ++ (r ++ (behind "?" (escapePart isQuerySign p.query)
        ++ behind "#" (escapePart isQuerySign p.fragment))) := by
    unfold Parts.text frontOf
    dsimp only [Parts.escaped]
    rw [hrooted]
    simp only [List.append_assoc]
    rfl
  rw [htext, hrequote, parts_of_front h.web h.plain hr' hquery' fragment',
    Parts.target_eq _ rfl, hrooted]
  have hslash : Spells isPathSign (CodePoint.ofChar '/' :: r) (Utf8.encodePoint '/' ++ br) :=
    .sign (by decide) (by decide) hr
  refine ⟨_, query', _, bq, rfl, .sign (by decide) (by decide) hr', hquery', ?_⟩
  unfold Percent.decode
  rw [hslash.octets]

/-- **Whatever is appended to the root of a server leads to that server**, which sees the path of it
with dots resolved and escapes undone. -/
theorem Root.ofText (h : Root address scheme typed a)
    (hrest : ∃ r, rest = CodePoint.ofChar '/' :: r) :
    ∃ target, Address.ofText (Text.stripRight '/' address ++ rest) = .ok ⟨a.escaped.host, target⟩
      ∧ Shows target (seenPath rest) := by
  have htext : Text.stripRight '/' address ++ rest = scheme ++ ("://" ++ (typed ++ rest)) := by
    rw [h.text, List.append_assoc, List.append_assoc]
  have hparts := Parts.ofText_below h.web h.bare.2 hrest
  have haddress : Address.ofText (scheme ++ ("://" ++ (typed ++ rest)))
      = Address.ofParts (scheme ++ ("://" ++ (typed ++ rest)))
        (Parts.ofText (scheme ++ ("://" ++ (typed ++ rest)))) := by
    unfold Address.ofText
    dsimp only
    rw [isBlank_web h.web, startsWith_web h.web, Bool.not_true, Bool.and_false, if_neg (by simp)]
  rw [htext, haddress, hparts, h.ofParts _ rfl rfl]
  exact ⟨_, rfl, h.normal (Parts.below (some scheme) (some typed) rest)⟩

end Root

/-! ## §3. Redirects -/

section Redirect

variable {v front segment : Text}

/-- The signs of an escaped text are those of the text, percent signs and digits. -/
theorem mem_of_mem_encode {keep : CodePoint → Bool} {d : CodePoint} {t : Text}
    (hne : d ≠ CodePoint.ofChar '%') (hd : Percent.isUnreserved d = false) (h : d ∈ encode keep t) :
    d ∈ t := by
  obtain ⟨c, hc, hmem⟩ := List.mem_flatMap.mp h
  split at hmem
  next =>
    rw [List.mem_singleton] at hmem
    rwa [hmem]
  next =>
    obtain ⟨b, _, hb⟩ := List.mem_flatMap.mp hmem
    -- an escape is a percent sign and two unreserved signs, and the sign is neither
    obtain ⟨x, y, hxy, hoctet⟩ := Percent.exists_ofOctet b
    obtain ⟨hx, hy⟩ := Percent.octet?_eq_some hoctet
    rw [hxy] at hb
    simp only [List.mem_cons, List.not_mem_nil, or_false] at hb
    rcases hb with rfl | rfl | rfl
    · exact absurd rfl hne
    · rw [hx] at hd
      cases hd
    · rw [hy] at hd
      cases hd

/-- Escapes never shorten a text to nothing. -/
theorem encode_ne_nil {t : Text} (h : t ≠ []) : encode isPathSign t ≠ [] := by
  intro hnil
  obtain ⟨c, t, rfl⟩ := List.exists_cons_of_ne_nil h
  have hoctets := (Percent.spells_encode isPathSign_percent (c :: t)).eq_nil_iff.mp hnil
  rw [List.flatMap_cons] at hoctets
  exact Percent.encodePoint_ne_nil c (List.append_eq_nil_iff.mp hoctets).1

theorem dropWhile_ne_of_not_mem {d : CodePoint} {t : Text} (h : d ∉ t) :
    t.dropWhile (· ≠ d) = [] := by
  refine List.dropWhile_eq_nil_iff.mpr ?_
  intro c hc
  rw [decide_eq_true_iff]
  rintro rfl
  exact h hc

/-- Cutting at the first mark of its kind gives back what stood behind it. -/
theorem dropWhile_ne_append {d : CodePoint} {t : Text} (h : d ∉ t) (u : Text) :
    (t ++ d :: u).dropWhile (· ≠ d) = d :: u := by
  have hall : ∀ c ∈ t, decide (c ≠ d) = true := by
    intro c hc
    rw [decide_eq_true_iff]
    rintro rfl
    exact h hc
  rw [List.dropWhile_append_of_pos hall, List.dropWhile_cons, if_neg (by simp)]

/-- The mark of a parameter is dropped behind a segment that it ends. -/
theorem dropEmptyParameter_of_end {t s : Text} (hs : CodePoint.ofChar ';' ∉ s)
    (hlast : Text.afterLast '/' (t ++ [CodePoint.ofChar ';']) = s ++ [CodePoint.ofChar ';']) :
    dropEmptyParameter (t ++ [CodePoint.ofChar ';']) = t := by
  unfold dropEmptyParameter
  rw [hlast]
  dsimp only
  rw [dropWhile_ne_append hs, List.length_singleton, if_pos rfl, List.dropLast_concat]

/-- A path is kept whose last segment has no parameter, or one that is not empty. -/
theorem dropEmptyParameter_of_filled {t s u : Text} (hs : CodePoint.ofChar ';' ∉ s) (hu : u ≠ [])
    (hlast : Text.afterLast '/' t = s ++ CodePoint.ofChar ';' :: u) : dropEmptyParameter t = t := by
  unfold dropEmptyParameter
  rw [hlast]
  dsimp only
  rw [dropWhile_ne_append hs, if_neg]
  rw [List.length_cons]
  have := List.length_pos_of_ne_nil hu
  omega

/-- Without a semicolon in the last segment there is no parameter to drop. -/
theorem dropEmptyParameter_of_none {t : Text}
    (h : CodePoint.ofChar ';' ∉ Text.afterLast '/' t) : dropEmptyParameter t = t := by
  unfold dropEmptyParameter
  dsimp only
  rw [dropWhile_ne_of_not_mem h]
  rfl

/-- What is dropped is the mark of a parameter at the end. -/
theorem dropEmptyParameter_cases (t : Text) :
    dropEmptyParameter t = t ∨ t = dropEmptyParameter t ++ [CodePoint.ofChar ';'] := by
  unfold dropEmptyParameter
  dsimp only
  split
  next h =>
    obtain ⟨c, hc⟩ := List.length_eq_one_iff.mp h
    -- what is left of the segment starts with the mark, and is the end of the path
    have hmark : c = CodePoint.ofChar ';' := by
      have hhead := List.head?_dropWhile_not (fun d => decide (d ≠ CodePoint.ofChar ';'))
        (Text.afterLast '/' t)
      rw [hc] at hhead
      simpa using hhead
    have hsuffix : [CodePoint.ofChar ';'] <:+ t := by
      rw [← hmark, ← hc]
      refine (List.dropWhile_suffix _).trans ?_
      unfold Text.afterLast
      rw [← List.reverse_prefix, List.reverse_reverse]
      exact List.takeWhile_prefix _
    obtain ⟨u, hu⟩ := hsuffix
    rw [← hu, List.dropLast_concat]
    exact .inr rfl
  next => exact .inl rfl

/-- **Escaping a path and dropping the mark of an empty parameter commute.** -/
theorem dropEmptyParameter_encode (hv : v = front ++ CodePoint.ofChar '/' :: segment)
    (hsegment : CodePoint.ofChar '/' ∉ segment) :
    dropEmptyParameter (encode isPathSign v) = encode isPathSign (dropEmptyParameter v) := by
  have hslash : isPathSign (CodePoint.ofChar '/') = true := by decide
  have hmark : isPathSign (CodePoint.ofChar ';') = true := by decide
  have hlast : Text.afterLast '/' v = segment := by
    rw [hv]
    exact Text.afterLast_append front fun c hc h => hsegment (h ▸ hc)
  have hlastEncoded : Text.afterLast '/' (encode isPathSign v) = encode isPathSign segment := by
    rw [hv, Percent.encode_append, Percent.encode_cons_of_keep hslash]
    refine Text.afterLast_append _ ?_
    rintro c hc rfl
    exact hsegment (mem_of_mem_encode (by decide) (by decide) hc)
  by_cases hmem : CodePoint.ofChar ';' ∈ segment
  · obtain ⟨s, u, hcut, hs⟩ := List.eq_append_cons_of_mem hmem
    have hsEncoded : CodePoint.ofChar ';' ∉ encode isPathSign s :=
      fun h => hs (mem_of_mem_encode (by decide) (by decide) h)
    have hcutEncoded : encode isPathSign segment
        = encode isPathSign s ++ CodePoint.ofChar ';' :: encode isPathSign u := by
      rw [hcut, Percent.encode_append, Percent.encode_cons_of_keep hmark]
    cases u with
    | nil =>
      -- the mark is the last sign of the path, escaped or not
      have hend : v = (front ++ CodePoint.ofChar '/' :: s) ++ [CodePoint.ofChar ';'] := by
        rw [hv, hcut, List.append_assoc]
        rfl
      have hendEncoded : encode isPathSign v
          = encode isPathSign (front ++ CodePoint.ofChar '/' :: s) ++ [CodePoint.ofChar ';'] := by
        rw [hend, Percent.encode_append, Percent.encode_cons_of_keep hmark]
        rfl
      rw [hendEncoded, dropEmptyParameter_of_end hsEncoded
        (by rw [← hendEncoded, hlastEncoded, hcutEncoded]; rfl)]
      rw [hend, dropEmptyParameter_of_end hs (by rw [← hend, hlast, hcut])]
    | cons c u =>
      rw [dropEmptyParameter_of_filled hs (List.cons_ne_nil c u) (hlast.trans hcut),
        dropEmptyParameter_of_filled hsEncoded (encode_ne_nil (List.cons_ne_nil c u))
          (hlastEncoded.trans hcutEncoded)]
  · have hmemEncoded : CodePoint.ofChar ';' ∉ encode isPathSign segment :=
      fun h => hmem (mem_of_mem_encode (by decide) (by decide) h)
    rw [dropEmptyParameter_of_none (hlastEncoded.symm ▸ hmemEncoded),
      dropEmptyParameter_of_none (hlast.symm ▸ hmem)]

/-- A path that starts with a slash still does without the mark of an empty parameter. -/
theorem exists_dropEmptyParameter (r : Text) :
    ∃ u, dropEmptyParameter (CodePoint.ofChar '/' :: r) = CodePoint.ofChar '/' :: u := by
  unfold dropEmptyParameter
  dsimp only
  split
  next h =>
    cases r with
    | nil => exact absurd h (by decide)
    | cons c r => exact ⟨(c :: r).dropLast, rfl⟩
  next => exact ⟨r, rfl⟩

/-- **A redirect leads to its path**, but for the mark of an empty parameter. -/
theorem shows_redirectTarget {host query r : Text} {bq : Bytes}
    (hhost : PlainAuthority host)
    (hroot : v = CodePoint.ofChar '/' :: r) (hv : v = front ++ CodePoint.ofChar '/' :: segment)
    (hsegment : CodePoint.ofChar '/' ∉ segment) (hquery : Spells isQuerySign query bq) :
    Shows (redirectTarget ("http" ++ ("://" ++ (host ++ (encode isPathSign v ++ behind "?" query)))))
      ((dropEmptyParameter v).flatMap Utf8.lenient) := by
  have hslash : isPathSign (CodePoint.ofChar '/') = true := by decide
  have hweb : isWebScheme (Text.ofString "http") = true := by decide
  have hencoded : encode isPathSign v = CodePoint.ofChar '/' :: encode isPathSign r := by
    rw [hroot, Percent.encode_cons_of_keep hslash]
  have htext : Text.ofString "http" ++ ("://" ++ (host ++ (encode isPathSign v ++ behind "?" query)))
      = frontOf "http" host ++ (encode isPathSign r ++ (behind "?" query ++ behind "#" [])) := by
    unfold frontOf
    rw [hencoded]
    simp only [List.append_assoc]
    rw [show behind "#" [] = [] from rfl, List.append_nil]
    rfl
  -- the path is escaped already, and nothing of that is undone
  have hpath := Percent.spells_encode isPathSign_percent r
  obtain ⟨query', fragment', hquery', _, hrequote⟩ := requote_parts
    (isAddressSign_front hweb hhost) hpath
    (release_encode (fun _ => isPathSign_of_isUnreserved) isPathSign_percent r) hquery
    (.nil : Spells isQuerySign [] [])
  have hparts := parts_of_front hweb hhost hpath hquery' fragment'
  obtain ⟨u, hu⟩ := exists_dropEmptyParameter r
  have hdropped : dropEmptyParameter (CodePoint.ofChar '/' :: encode isPathSign r)
      = CodePoint.ofChar '/' :: encode isPathSign u := by
    rw [← hencoded, dropEmptyParameter_encode hv hsegment, hroot, hu,
      Percent.encode_cons_of_keep hslash]
  have htarget : redirectTarget ("http"
      ++ ("://" ++ (host ++ (encode isPathSign v ++ behind "?" query))))
        = encode isPathSign (dropEmptyParameter v) ++ behind "?" query' := by
    unfold redirectTarget
    rw [htext, hrequote, hparts]
    dsimp only
    rw [Parts.target_eq _ hdropped]
    dsimp only
    rw [hdropped, hroot, hu, Percent.encode_cons_of_keep hslash]
  exact ⟨_, query', _, bq, htarget, Percent.spells_encode isPathSign_percent _, hquery',
    Utf8.decodeLossy_flatMap _⟩

end Redirect

end SealedDrop.Http
