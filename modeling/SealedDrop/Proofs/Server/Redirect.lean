/-
  SealedDrop.Proofs.Server.Redirect
  ─────────────────────────────────
  **WHERE A READER ENDS UP.**

  A reader who asks for a path gets an answer there, or is sent to another one.
  It is sent elsewhere once at most: trailing slashes are taken off, and the mark
  of an empty parameter goes with them (`settled`).  What a path names is the
  parameter of the path where its reader ends up:

      named? path = Route.read.fit? (settled path)

  The paths of the framework's pages (`isPage`) are left out: a page names no
  secret, and what it says is not the service's to tell.

  Main results:
    • `settles` — every path stops, or is sent to one that stops,
    • `shows_redirectAddress` — a redirect leads to its path.
-/
import SealedDrop.Proofs.Http.Address
import SealedDrop.Proofs.Server.Identifier
import SealedDrop.Proofs.Server.Effect

namespace SealedDrop.Server

open Http (PlainAuthority Request Shows dropEmptyParameter)
open Percent (Spells encode)

/-! ## §1. Slashes at the end -/

/-- A path ends with a slash when there is one behind the rest. -/
theorem endsWith_slash_iff {t : Text} :
    Text.endsWith t "/" = true ↔ ∃ u, t = u ++ [CodePoint.ofChar '/'] := by
  rw [Text.endsWith_iff]
  exact ⟨fun ⟨u, hu⟩ => ⟨u, hu.symm⟩, fun ⟨u, hu⟩ => ⟨u, hu.symm⟩⟩

/-- A text whose last part holds no slash ends in none. -/
theorem endsWith_slash_append {t u : Text} (hne : u ≠ []) (hu : CodePoint.ofChar '/' ∉ u) :
    Text.endsWith (t ++ u) "/" = false := by
  refine Bool.eq_false_iff.mpr fun h => ?_
  obtain ⟨w, hw⟩ := endsWith_slash_iff.mp h
  have hlast := congrArg List.getLast? hw
  rw [List.getLast?_append_of_ne_nil _ hne, List.getLast?_concat] at hlast
  exact hu (List.mem_of_getLast? hlast)

/-- The paths that fit a read: the fixed part and one segment that is not empty. -/
theorem Route.fit?_read_eq_some_iff {path id : Text} : Route.read.fit? path = some id ↔
    path = Route.read.fixedPath ++ id ∧ id ≠ [] ∧ CodePoint.ofChar '/' ∉ id := by
  constructor
  · intro h
    refine ⟨Route.eq_of_fit?_read h, ?_⟩
    rw [Route.eq_of_fit?_read h] at h
    unfold Route.fit? at h
    dsimp only at h
    rw [Text.dropLiteral?_eq_some_iff.mpr rfl] at h
    dsimp only at h
    split at h
    next => cases h
    next hproper =>
      rw [Bool.or_eq_true, not_or, List.isEmpty_iff, List.contains_iff_mem] at hproper
      exact hproper
  · rintro ⟨rfl, hne, hslash⟩
    exact fit?_read hne fun c hc h => hslash (h ▸ hc)

/-- A path that fits some route is one of fixed segments, or that of a read. -/
theorem isFixed_iff {path fixed : Text} :
    Route.isFixed path fixed = true ↔ path = fixed ∨ path = fixed ++ "\n" := by
  unfold Route.isFixed
  rw [Bool.or_eq_true, decide_eq_true_iff, decide_eq_true_iff]

/-- Of the paths that fit a route, all but those of the registration fit a read. -/
theorem fit_cases (path : Text) :
    (∃ id, Route.read.fit? path = some id)
    ∨ (Route.read.fit? path = none ∧ Route.isFixed path Route.register.fixedPath = true)
    ∨ ∀ r : Route, r.fit? path = none := by
  cases hread : Route.read.fit? path with
  | some id => exact .inl ⟨id, rfl⟩
  | none =>
    cases hregister : Route.isFixed path Route.register.fixedPath with
    | true => exact .inr (.inl ⟨rfl, rfl⟩)
    | false =>
      -- the other fixed paths would fit a read
      have hother : ∀ r : Route, (Route.read.fit? r.fixedPath).isSome = true →
          (Route.read.fit? (r.fixedPath ++ "\n")).isSome = true →
          Route.isFixed path r.fixedPath = false := by
        intro r hplain hfeed
        refine Bool.eq_false_iff.mpr fun hfixed => ?_
        rcases isFixed_iff.mp hfixed with rfl | rfl
        · rw [hread] at hplain
          cases hplain
        · rw [hread] at hfeed
          cases hfeed
      refine .inr (.inr fun r => ?_)
      cases r with
      | read => exact hread
      | register => exact if_neg (by rw [hregister]; simp)
      | create => exact if_neg (by rw [hother .create (by decide) (by decide)]; simp)
      | list => exact if_neg (by rw [hother .list (by decide) (by decide)]; simp)
      | expire => exact if_neg (by rw [hother .expire (by decide) (by decide)]; simp)

/-- What holds of the paths of all pages holds of every path of a page. -/
theorem of_isPage {path : Text} (h : isPage path = true) {q : Text → Bool}
    (hq : pagePaths.all (fun p => q p && q (p ++ "\n")) = true) : q path = true := by
  obtain ⟨p, hp, hfixed⟩ := List.any_eq_true.mp h
  have hboth := List.all_eq_true.mp hq p hp
  rw [Bool.and_eq_true] at hboth
  rcases isFixed_iff.mp hfixed with rfl | rfl
  · exact hboth.1
  · exact hboth.2

/-- The paths at which the router has something: a page, or a route. -/
theorem fitsSome_eq_true_iff {path : Text} : fitsSome path = true ↔
    isPage path = true ∨ ∃ r : Route, (r.fit? path).isSome = true := by
  unfold fitsSome
  rw [Bool.or_eq_true, List.any_eq_true]
  refine or_congr_right ⟨fun ⟨r, _, hr⟩ => ⟨r, hr⟩, fun ⟨r, hr⟩ => ⟨r, ?_, hr⟩⟩
  cases r <;> decide

/-- No path that fits anything ends in a slash. -/
theorem fitsSome_slash (path : Text) : fitsSome (path ++ "/") = false := by
  refine Bool.eq_false_iff.mpr fun h => ?_
  have hend : Text.endsWith (path ++ "/") "/" = true := endsWith_slash_iff.mpr ⟨path, rfl⟩
  rcases fitsSome_eq_true_iff.mp h with hpage | ⟨r, hr⟩
  · have hno : (!Text.endsWith (path ++ "/") "/") = true :=
      of_isPage hpage (q := fun p => !Text.endsWith p "/") (by decide)
    rw [hend] at hno
    cases hno
  · rcases fit_cases (path ++ "/") with ⟨id, hread⟩ | ⟨_, hregister⟩ | hnone
    · obtain ⟨hpath, hne, hslash⟩ := Route.fit?_read_eq_some_iff.mp hread
      rw [hpath, endsWith_slash_append hne hslash] at hend
      cases hend
    · rcases isFixed_iff.mp hregister with hpath | hpath
      · rw [hpath] at hend
        exact absurd hend (by decide)
      · rw [hpath] at hend
        exact absurd hend (by decide)
    · rw [hnone r] at hr
      cases hr

/-! ## §2. Where a path leads -/

/-- The path where a reader ends up. -/
def settled (path : Text) : Text :=
  if Text.endsWith path "/" then dropEmptyParameter (Text.stripRight '/' path) else path

/-- The id that a path names. -/
def named? (path : Text) : Option Text := Route.read.fit? (settled path)

/-- A reader stays at a path, which names so much. -/
inductive Stops (path : Text) : Option Text → Prop where
  /-- It reads an id. -/
  | read {id : Text} (h : destination "GET" path = .route .read id) : Stops path (some id)
  /-- It is that of a registration. -/
  | register (hfixed : Route.isFixed path Route.register.fixedPath = true)
      (h : destination "GET" path = .otherMethod "POST") : Stops path none
  /-- It leads nowhere. -/
  | nowhere (h : destination "GET" path = .nowhere) : Stops path none

/-- A path that fits no route leads nowhere, unless it does without its slashes. -/
theorem destination_of_no_fit (method : Text) {path : Text} (hnone : ∀ r : Route, r.fit? path = none)
    (hpage : isPage path = false) : destination method path
      = if path ≠ "/" ∧ fitsSome (toggleSlash path) then .otherPath (toggleSlash path)
        else .nowhere := by
  have hfits : Route.all.filterMap (fun r => (r.fit? path).map fun p => (r, p)) = [] := by
    refine List.filterMap_eq_nil_iff.mpr ?_
    intro r _
    rw [hnone r]
    rfl
  unfold destination
  dsimp only
  rw [hfits, hpage]
  rfl

/-- A request to the path of registrations is not redirected. -/
theorem stops_register {path : Text}
    (h : Route.isFixed path Route.register.fixedPath = true) : Stops path none := by
  refine .register h ?_
  rcases isFixed_iff.mp h with rfl | rfl
  · decide
  · decide

/-- **A path that ends in no slash is where its reader stays.** -/
theorem stops_of_no_slash {path : Text} (hpage : isPage path = false)
    (hslash : Text.endsWith path "/" = false) : Stops path (Route.read.fit? path) := by
  rcases fit_cases path with ⟨id, hread⟩ | ⟨hread, hregister⟩ | hnone
  · rw [hread]
    exact .read (destination_of_fit?_read hread)
  · rw [hread]
    exact stops_register hregister
  · have hother : fitsSome (toggleSlash path) = false := by
      unfold toggleSlash
      rw [hslash, if_neg (by simp)]
      exact fitsSome_slash path
    rw [hnone .read]
    refine .nowhere ?_
    rw [destination_of_no_fit _ hnone hpage, hother]
    exact if_neg fun h => Bool.false_ne_true h.2

/-- A path that starts with a slash, with the last of its segments. -/
structure Segmented (path : Text) : Prop where
  /-- It starts with a slash. -/
  root : ∃ r, path = CodePoint.ofChar '/' :: r
  /-- Its last segment. -/
  last : ∃ front segment, path = front ++ CodePoint.ofChar '/' :: segment
    ∧ CodePoint.ofChar '/' ∉ segment

/-- The last segment of the path of a read is the id. -/
theorem segmented_read {id : Text} (hid : CodePoint.ofChar '/' ∉ id) :
    Segmented (Route.read.fixedPath ++ id) :=
  ⟨⟨_, rfl⟩, "/secret-sharing", id, rfl, hid⟩

/-- That of the path of registrations is `register`, with a line feed behind it or not. -/
theorem segmented_register {path : Text}
    (h : Route.isFixed path Route.register.fixedPath = true) : Segmented path := by
  rcases isFixed_iff.mp h with rfl | rfl
  · exact ⟨⟨_, rfl⟩, "/auth", "register", rfl, by decide⟩
  · exact ⟨⟨_, rfl⟩, "/auth", "register\n", rfl, by decide⟩

/-- The mark of an empty parameter may be the whole of an id, or the end of one. -/
theorem stops_dropped {id : Text} (hid : id ≠ []) (hslash : CodePoint.ofChar '/' ∉ id)
    (hpage : isPage (dropEmptyParameter (Route.read.fixedPath ++ id)) = false) :
    Stops (dropEmptyParameter (Route.read.fixedPath ++ id))
      (Route.read.fit? (dropEmptyParameter (Route.read.fixedPath ++ id))) := by
  rcases Http.dropEmptyParameter_cases (Route.read.fixedPath ++ id) with hsame | hend
  · rw [hsame] at hpage ⊢
    exact stops_of_no_slash hpage (endsWith_slash_append hid hslash)
  · have hdropped : dropEmptyParameter (Route.read.fixedPath ++ id)
        = Route.read.fixedPath ++ id.dropLast := by
      have hlast := congrArg List.dropLast hend
      rwa [List.dropLast_concat, List.dropLast_append_of_ne_nil hid, eq_comm] at hlast
    rw [hdropped] at hpage ⊢
    by_cases hnil : id.dropLast = []
    · rw [hnil]
      exact .nowhere (by decide)
    · exact stops_of_no_slash hpage
        (endsWith_slash_append hnil fun h => hslash (List.dropLast_subset id h))

/-- A path that names an id without the mark of an empty parameter names one with it. -/
theorem exists_fit?_of_dropped {path id : Text}
    (h : Route.read.fit? (dropEmptyParameter path) = some id) :
    ∃ id', Route.read.fit? path = some id' := by
  rcases Http.dropEmptyParameter_cases path with hsame | hend
  · exact ⟨id, hsame ▸ h⟩
  · obtain ⟨hpath, _, hslash⟩ := Route.fit?_read_eq_some_iff.mp h
    refine ⟨id ++ [CodePoint.ofChar ';'], Route.fit?_read_eq_some_iff.mpr ⟨?_, by simp, ?_⟩⟩
    · rw [hend, hpath, List.append_assoc]
    · rw [List.mem_append, not_or]
      exact ⟨hslash, by decide⟩

/-- With slashes at its end a path fits nothing. -/
theorem no_fit_of_slash {path : Text} (hslash : Text.endsWith path "/" = true) :
    (∀ r : Route, r.fit? path = none) ∧ isPage path = false := by
  obtain ⟨u, hu⟩ := endsWith_slash_iff.mp hslash
  have hfits : fitsSome path ≠ true := by
    rw [hu, show u ++ [CodePoint.ofChar '/'] = u ++ "/" from rfl, fitsSome_slash u]
    exact Bool.false_ne_true
  rw [Ne, fitsSome_eq_true_iff, not_or, not_exists] at hfits
  refine ⟨fun r => ?_, Bool.eq_false_iff.mpr hfits.1⟩
  rw [← Option.isNone_iff_eq_none, ← Option.not_isSome, Bool.not_eq_true']
  exact Bool.eq_false_iff.mpr (hfits.2 r)

/-- A path that a reader is sent to stops the reader. -/
theorem stops_of_fitsSome {v : Text} (hfits : fitsSome v = true)
    (hpage : isPage (dropEmptyParameter v) = false) :
    Segmented v ∧ Stops (dropEmptyParameter v) (Route.read.fit? (dropEmptyParameter v)) := by
  rcases fitsSome_eq_true_iff.mp hfits with hv | ⟨r, hr⟩
  · -- the path of a page has no parameter to drop
    have hdropped : decide (dropEmptyParameter v = v) = true :=
      of_isPage hv (q := fun p => decide (dropEmptyParameter p = p)) (by decide)
    rw [of_decide_eq_true hdropped, hv] at hpage
    cases hpage
  · rcases fit_cases v with ⟨id, hread⟩ | ⟨_, hregister⟩ | hnone
    · obtain ⟨rfl, hne, hslash⟩ := Route.fit?_read_eq_some_iff.mp hread
      exact ⟨segmented_read hslash, stops_dropped hne hslash hpage⟩
    · refine ⟨segmented_register hregister, ?_⟩
      rcases isFixed_iff.mp hregister with rfl | rfl
      · exact stops_register hregister
      · exact stops_register hregister
    · rw [hnone r] at hr
      cases hr

/-- **Every path stops its reader, or sends the reader to one that does.** -/
theorem settles {path : Text} (hpage : isPage (settled path) = false) :
    Stops path (named? path)
    ∨ (destination "GET" path = .otherPath (Text.stripRight '/' path)
      ∧ Segmented (Text.stripRight '/' path)
      ∧ settled path = dropEmptyParameter (Text.stripRight '/' path)
      ∧ Stops (settled path) (named? path)) := by
  unfold named?
  cases hslash : Text.endsWith path "/" with
  | false =>
    have hsame : settled path = path := by
      unfold settled
      rw [hslash]
      rfl
    rw [hsame] at hpage ⊢
    exact .inl (stops_of_no_slash hpage hslash)
  | true =>
    have hsettled : settled path = dropEmptyParameter (Text.stripRight '/' path) := by
      unfold settled
      rw [hslash]
      rfl
    have hother : toggleSlash path = Text.stripRight '/' path := by
      unfold toggleSlash
      rw [hslash]
      rfl
    obtain ⟨hnone, hnoPage⟩ := no_fit_of_slash hslash
    have hdestination := destination_of_no_fit "GET" hnone hnoPage
    rw [hother] at hdestination
    rw [hsettled] at hpage ⊢
    by_cases hsent : path ≠ "/" ∧ fitsSome (Text.stripRight '/' path) = true
    · rw [if_pos hsent] at hdestination
      obtain ⟨hsegmented, hstops⟩ := stops_of_fitsSome hsent.2 hpage
      exact .inr ⟨hdestination, hsegmented, rfl, hstops⟩
    · rw [if_neg hsent] at hdestination
      -- a path that names an id without its slashes would have been sent there
      have hunnamed : Route.read.fit? (dropEmptyParameter (Text.stripRight '/' path)) = none := by
        rw [Option.eq_none_iff_forall_ne_some]
        intro id hid
        obtain ⟨id', hid'⟩ := exists_fit?_of_dropped hid
        refine hsent ⟨?_, fitsSome_eq_true_iff.mpr (.inr ⟨.read, by rw [hid']; rfl⟩)⟩
        rintro rfl
        have hbare : Route.read.fit? (Text.stripRight '/' (Text.ofString "/")) = none := by decide
        rw [hbare] at hid'
        cases hid'
      rw [hunnamed]
      exact .inl (.nowhere hdestination)

/-- The paths of a registration stay where they are. -/
theorem settled_of_register {path : Text}
    (h : Route.isFixed path Route.register.fixedPath = true) : settled path = path := by
  rcases isFixed_iff.mp h with rfl | rfl
  · decide
  · decide

/-! ## §3. Redirects -/

theorem isScalar_stripRight {t : Text} (c : CodePoint) (h : t.isScalar = true) :
    (Text.stripRight c t).isScalar = true := by
  have hstart : Text.stripRight c t <+: t := by
    unfold Text.stripRight
    rw [← List.reverse_suffix, List.reverse_reverse]
    exact List.dropWhile_suffix _
  exact List.all_eq_true.mpr fun d hd => List.all_eq_true.mp h d (hstart.subset hd)

theorem isScalar_dropEmptyParameter {t : Text} (h : t.isScalar = true) :
    (dropEmptyParameter t).isScalar = true := by
  rcases Http.dropEmptyParameter_cases t with hsame | hend
  · rw [hsame]
    exact h
  · rw [hend, Text.isScalar, List.all_append, Bool.and_eq_true] at h
    exact h.1

/-- The address that a client is sent to, part by part. -/
theorem redirectAddress_eq {r : Request} {v : Text} {bq : Bytes}
    (hknown : Http.header? "host" r.headers = none)
    (hhost : PlainAuthority r.host)
    (hquery : Spells Http.isQuerySign r.query bq) : redirectAddress r v
      = "http" ++ ("://" ++ (r.host ++ (encode Http.isPathSign v ++ Http.behind "?" r.query))) := by
  have hname : r.knownHost = r.host := by
    unfold Request.knownHost
    rw [hknown]
    rfl
  have htext : (if r.query.isEmpty then "http://" ++ r.host ++ encode Http.isPathSign v
      else "http://" ++ r.host ++ encode Http.isPathSign v ++ "?" ++ r.query)
        = Text.ofString "http"
          ++ ("://" ++ (r.host ++ (encode Http.isPathSign v ++ Http.behind "?" r.query))) := by
    unfold Http.behind
    split
    next => simp only [List.append_assoc, List.append_nil]; rfl
    next => simp only [List.append_assoc]; rfl
  -- every sign may stand in an address, so nothing more is escaped
  have hpath : (encode Http.isPathSign v).all Http.isAddressSign = true :=
    Http.all_isAddressSign ((Percent.spells_encode Http.isPathSign_percent v).mono
      fun _ _ => Http.isQuerySign_of_isPathSign)
  unfold redirectAddress
  rw [hname]
  dsimp only
  rw [htext]
  refine Percent.encode_of_all ?_
  rw [List.all_append, List.all_append, List.all_append, List.all_append,
    List.all_eq_true.mpr fun c hc => (hhost c hc).1, hpath,
    Http.all_behind (by decide) (Http.all_isAddressSign hquery)]
  decide

/-- **A redirect leads to its path**, but for the mark of an empty parameter. -/
theorem shows_redirectAddress {r : Request} {seen v : Text} (hshows : Shows r.target seen)
    (hknown : Http.header? "host" r.headers = none)
    (hhost : PlainAuthority r.host)
    (hv : Segmented v) (hscalar : v.isScalar = true) :
    Shows (Http.redirectTarget (redirectAddress r v)) (dropEmptyParameter v) := by
  obtain ⟨_, bq, hquery⟩ := hshows.request
  obtain ⟨u, hroot⟩ := hv.root
  obtain ⟨front, segment, hlast, hslash⟩ := hv.last
  have htarget := Http.shows_redirectTarget hhost hroot hlast hslash hquery
  rw [Utf8.flatMap_lenient_of_isScalar (isScalar_dropEmptyParameter hscalar)] at htarget
  rw [redirectAddress_eq hknown hhost hquery]
  exact htarget

end SealedDrop.Server
