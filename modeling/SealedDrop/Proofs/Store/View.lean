/-
  SealedDrop.Proofs.Store.View
  ────────────────────────────
  **WHAT IS SHOWN IS READ BACK, AS THE KIND OF VIEW THAT IT IS.**

  No member of the document of a `View` says outright which kind it is.  The two
  forms, `LiveView` and `ExpiredView`, are told apart all the same: one must have
  a text for an envelope and the other must have none, and however generously
  fields are read, no text is nothing.

      Json.Arrives  — the octets of a document are read as a document
      View.ReadAs   — a document is read as a view, and not by the form of the other kind
      Disclosed     — what anybody gets of a live secret

  Times are shown on UTC and are read with the offset that they are shown with,
  so a view comes back with the very fields that it had.

  Main results:
    • `read_views`, `read_publicJson` — documents are read back from their text,
    • `arrives_of_plain` — and from their octets, if no text holds a surrogate,
    • `not_live_and_expired` — no document is read by both forms,
    • `views_read_back` — whatever is shown comes back as what it was.
-/
import Mathlib.Data.List.Forall2
import SealedDrop.Proofs.Form.Names
import SealedDrop.Proofs.Form.Request
import SealedDrop.Proofs.Text.Utf8
import SealedDrop.Store.Row

namespace SealedDrop

namespace Json

/-- An object is plain if its names are fine and its values are plain. -/
theorem Plain.of_values {s : Style} {n : Nat} {ms : List (Text × Json)} (names : List Text)
    (hms : ms.map Prod.fst = names) (hnames : names.Nodup ∧ ∀ k ∈ names, Text.isScalar k = true)
    (hvalues : (ms.map Prod.snd).Forall (Plain s n)) : Plain s (n + 1) (.object ms) := by
  subst hms
  refine .object ?_ ?_ hnames.1
  · intro m hm _
    exact hnames.2 m.1 (List.mem_map_of_mem hm)
  · intro m hm
    exact List.forall_iff_forall_mem.mp hvalues m.2 (List.mem_map_of_mem hm)

/-- The octets of a document, in its compact style, are read as a document. -/
def Arrives (sent got : Json) : Prop :=
  ∃ octets text, Utf8.encode (render Style.compact sent) = .ok octets
    ∧ Utf8.decode octets = .ok text ∧ read text = .ok got

/-- **A plain document arrives as it was sent**, if no text in it holds a surrogate. -/
theorem arrives_of_plain {n : Nat} {v : Json} (hv : Plain Style.ascii n v)
    (hread : read (render Style.compact v) = .ok v) : Arrives v v := by
  have hscalar : (render Style.compact v).isScalar = true := Style.writesIn_compact.plain hv
  have hencode := Utf8.encode_of_isScalar hscalar
  exact ⟨_, _, hencode, Utf8.decode_eq_ok_iff_encode.mpr hencode, hread⟩

end Json

namespace Store

open Form (ExpiredView LiveView PublicView Rejection ViewHead)
open Json (Plain Style)

/-! ## §1. Texts of a document -/

/-- The compact style spoils no text. -/
theorem keeps_compact (t : Text) : Style.compact.Keeps t := by
  intro hescaped
  cases hescaped

/-- No style spoils a time on UTC. -/
theorem keeps_wireText (s : Style) (m : Moment) : s.Keeps (Stamp.utc m).wireText := fun _ =>
  Text.isScalar_of_isAscii (Reading.isAscii_wireText (Form.wholeMinutes_utc m))

/-- A style does not spoil the texts of a view. -/
structure View.KeptBy (s : Style) (v : View) : Prop where
  /-- The id. -/
  id : s.Keeps v.header.id
  /-- The owner. -/
  owner : s.Keeps v.header.owner
  /-- The envelope. -/
  data : ∀ d, v.data? = some d → s.Keeps d

theorem View.keptBy_compact (v : View) : v.KeptBy Style.compact :=
  ⟨keeps_compact _, keeps_compact _, fun _ _ => keeps_compact _⟩

section Plain

variable {s : Style} {h : Header} {d : Text}

theorem plain_publicJson (hid : s.Keeps h.id) (hd : s.Keeps d) : Plain s 1 (publicJson h d) :=
  .of_values ["id", "created_at", "expires_at", "single_use", "expired", "data"] rfl (by decide)
    ⟨.text hid, .text (keeps_wireText s _), .text (keeps_wireText s _), .bool _, .bool _, .text hd⟩

theorem plain_object (hid : s.Keeps h.id) (howner : s.Keeps h.owner) (expired : Bool) {data : Json}
    (hdata : Plain s 0 data) : Plain s 1 (h.form.object expired data) :=
  .of_values ["id", "owner_id", "created_at", "expires_at", "single_use", "expired", "data"] rfl
    (by decide) ⟨.text hid, .text howner, .text (keeps_wireText s _), .text (keeps_wireText s _),
      .bool _, .bool _, hdata⟩

theorem View.KeptBy.plain {v : View} (hv : v.KeptBy s) : Plain s 1 v.toJson := by
  cases v with
  | live h d => exact plain_object hv.id hv.owner false (.text (hv.data d rfl))
  | expired h => exact plain_object hv.id hv.owner true .null

theorem plain_views {vs : List View} (hvs : ∀ v ∈ vs, v.KeptBy s) :
    Plain s 2 (.list (vs.map View.toJson)) := by
  refine .list ?_
  intro j hj
  obtain ⟨v, hv, rfl⟩ := List.mem_map.mp hj
  exact (hvs v hv).plain

end Plain

/-- **A client reads back the secret that it is shown.** -/
theorem read_publicJson (h : Header) (d : Text) :
    Json.read (Json.render Style.compact (publicJson h d)) = .ok (publicJson h d) :=
  Json.read_plain Style.readable_compact (plain_publicJson (keeps_compact _) (keeps_compact _))
    (by decide)

/-- **A client reads back the list that it is shown.** -/
theorem read_views (vs : List View) :
    Json.read (Json.render Style.compact (.list (vs.map View.toJson)))
      = .ok (.list (vs.map View.toJson)) :=
  Json.read_plain Style.readable_compact (plain_views fun v _ => v.keptBy_compact) (by decide)

/-! ## §2. Forms of a document -/

/-- What all views show is read back. -/
theorem viewHead_object (h : Header) {expired : Bool} {data : Json} {ms : List (Text × Json)}
    (hms : h.form.object expired data = .object ms) : Form.viewHead ms = .ok h.form := by
  injection hms with hms
  subst hms
  show Form.Checked.both (Form.Checked.both (Form.Checked.both (.ok (ViewHead.mk h.id h.owner))
    ((Form.stamp (.text (Stamp.utc h.createdAt).wireText)).mapError
      fun p => [⟨["created_at"], p⟩]))
    ((Form.stamp (.text (Stamp.utc h.expiresAt).wireText)).mapError
      fun p => [⟨["expires_at"], p⟩])) (.ok h.singleUse) = _
  rw [Form.stamp_wireText (Form.wholeMinutes_utc _), Form.stamp_wireText (Form.wholeMinutes_utc _)]
  rfl

/-- **The view of a live secret is read by its form.** -/
theorem read_live (h : Header) (d : Text) :
    Form.read (View.live h d).toJson = .ok (LiveView.mk h.form d) := by
  refine Form.read_eq_ok_iff.mpr ⟨_, rfl, ?_, fun _ hclosed => nomatch hclosed⟩
  show Form.Checked.both (Form.Checked.both ((Form.viewHead _).map _) (.ok ())) (.ok d) = _
  rw [viewHead_object h rfl]
  rfl

/-- **So is that of a secret that is gone.** -/
theorem read_expired (h : Header) :
    Form.read (View.expired h).toJson = .ok (ExpiredView.mk h.form) := by
  refine Form.read_eq_ok_iff.mpr ⟨_, rfl, ?_, fun _ hclosed => nomatch hclosed⟩
  show Form.Checked.both (Form.Checked.both ((Form.viewHead _).map _) (.ok ())) (.ok ()) = _
  rw [viewHead_object h rfl]
  rfl

/-- The public view of a secret. -/
def publicView (h : Header) (d : Text) : PublicView :=
  ⟨h.id, Stamp.utc h.createdAt, Stamp.utc h.expiresAt, h.singleUse, d⟩

/-- **So is the public one.** -/
theorem read_public (h : Header) (d : Text) :
    Form.read (publicJson h d) = .ok (publicView h d) := by
  refine Form.read_eq_ok_iff.mpr ⟨_, rfl, ?_, fun _ hclosed => nomatch hclosed⟩
  show Form.Checked.both (Form.Checked.both (Form.Checked.both (Form.Checked.both (Form.Checked.both
    (.ok _) ((Form.stamp (.text (Stamp.utc h.createdAt).wireText)).mapError _))
    ((Form.stamp (.text (Stamp.utc h.expiresAt).wireText)).mapError _))
    (.ok h.singleUse)) (.ok ())) (.ok d) = _
  rw [Form.stamp_wireText (Form.wholeMinutes_utc _), Form.stamp_wireText (Form.wholeMinutes_utc _)]
  rfl

/-! ## §3. Two kinds of view -/

section Kinds

variable {j : Json}

/-- A live view has a text for its envelope. -/
theorem data_of_live {v : LiveView} (h : Form.read j = .ok v) :
    ∃ o, j = .object o ∧ Json.find? "data" o = some (.text v.data) := by
  obtain ⟨o, rfl, hfields, _⟩ := Form.read_eq_ok_iff.mp h
  obtain ⟨make, d, hmake, hd, rfl⟩ := Form.Checked.both_eq_ok_iff.mp hfields
  obtain ⟨make, mark, hhead, _, rfl⟩ := Form.Checked.both_eq_ok_iff.mp hmake
  obtain ⟨head, _, rfl⟩ := Result.map_eq_ok_iff.mp hhead
  exact ⟨o, rfl, Form.field_text_eq_ok_iff.mp hd⟩

/-- An expired view has nothing there. -/
theorem data_of_expired {v : ExpiredView} (h : Form.read j = .ok v) :
    ∃ o, j = .object o ∧ (Json.find? "data" o = none ∨ Json.find? "data" o = some .null) := by
  obtain ⟨o, rfl, hfields, _⟩ := Form.read_eq_ok_iff.mp h
  obtain ⟨make, d, _, hd, _⟩ := Form.Checked.both_eq_ok_iff.mp hfields
  refine ⟨o, rfl, ?_⟩
  rcases Form.fieldOr_eq_ok_iff.mp hd with ⟨hnone, _⟩ | ⟨v, hv, hnull⟩
  · exact .inl hnone
  · cases v with
    | null => exact .inr hv
    | _ => cases hnull

/-- **No document is read by both forms**: an envelope is a text or it is none. -/
theorem not_live_and_expired {v : LiveView} {w : ExpiredView} (hlive : Form.read j = .ok v) :
    Form.read j ≠ .ok w := by
  intro hexpired
  obtain ⟨o, rfl, htext⟩ := data_of_live hlive
  obtain ⟨o', ho, hnone⟩ := data_of_expired hexpired
  injection ho with ho
  subst ho
  rcases hnone with hnone | hnull
  · rw [htext] at hnone
    cases hnone
  · rw [htext] at hnull
    cases hnull

/-- A document is read as a view, and not by the form of the other kind. -/
def View.ReadAs (j : Json) : View → Prop
  | .live h d => Form.read j = .ok (LiveView.mk h.form d) ∧ ∀ w : ExpiredView, Form.read j ≠ .ok w
  | .expired h => Form.read j = .ok (ExpiredView.mk h.form) ∧ ∀ w : LiveView, Form.read j ≠ .ok w

/-- **Every view is read as what it is.** -/
theorem View.readAs_toJson (v : View) : v.ReadAs v.toJson := by
  cases v with
  | live h d => exact ⟨read_live h d, fun _ => not_live_and_expired (read_live h d)⟩
  | expired h => exact ⟨read_expired h, fun _ hlive => not_live_and_expired hlive (read_expired h)⟩

end Kinds

/-! ## §4. What is shown of rows -/

/-- No text of a snapshot holds a surrogate. -/
structure Snapshot.Scalar (s : Snapshot) : Prop where
  /-- The id. -/
  id : s.id.isScalar = true
  /-- The owner. -/
  owner : s.owner.isScalar = true
  /-- The envelope. -/
  data : ∀ d, s.data = some d → d.isScalar = true

/-- A snapshot is shown as a view of its row. -/
theorem Snapshot.project_eq_ok {s : Snapshot} {now : Stamp} {v : View} (h : s.project now = .ok v) :
    ∃ r, s.toRow = .ok r ∧ v.header = r.header ∧ ∀ d, v.data? = some d → r.data = some d := by
  unfold project at h
  cases hrow : s.toRow with
  | error e =>
    rw [hrow] at h
    cases h
  | ok r =>
    rw [hrow] at h
    refine ⟨r, rfl, ?_⟩
    dsimp only at h
    split at h
    next => cases h
    next =>
      split at h
      next =>
        injection h with h
        subst h
        refine ⟨rfl, fun d hd => ?_⟩
        cases hd
      -- a view shows the envelope only if there is one and the deadline is not past
      next d hd =>
        split at h
        next =>
          injection h with h
          subst h
          refine ⟨rfl, fun d hd => ?_⟩
          cases hd
        next =>
          injection h with h
          subst h
          exact ⟨rfl, fun d' hd' => hd.trans hd'⟩

/-- What is shown of texts without surrogates has none either. -/
theorem Snapshot.Scalar.keptBy {s : Snapshot} {now : Stamp} {v : View} (hs : s.Scalar)
    (h : s.project now = .ok v) (style : Style) : v.KeptBy style := by
  obtain ⟨r, hrow, hheader, hdata⟩ := Snapshot.project_eq_ok h
  -- on the way to UTC the texts stay what they were
  obtain ⟨created, _, hrow⟩ := Result.bind_eq_ok_iff.mp hrow
  obtain ⟨expires, _, hrow⟩ := Result.bind_eq_ok_iff.mp hrow
  injection hrow with hrow
  subst hrow
  refine ⟨fun _ => ?_, fun _ => ?_, fun d hd _ => hs.data d (hdata d hd)⟩
  · rw [hheader]
    exact hs.id
  · rw [hheader]
    exact hs.owner

/-- What anybody gets of a live secret: its public view, which neither names an owner nor depends on
one. -/
structure Disclosed (h : Header) (d : Text) (j : Json) : Prop where
  /-- It arrives. -/
  arrives : Json.Arrives (publicJson h d) j
  /-- It is read by its form. -/
  read : Form.read j = .ok (publicView h d)
  /-- No owner is named. -/
  unnamed : Text.ofString "owner_id" ∉ j.memberNames
  /-- It would be the same with any other owner. -/
  anonymous : ∀ owner, Json.Arrives (publicJson { h with owner } d) j

/-- **Whatever is shown comes back as what it was.**  A listing of rows whose texts hold no surrogate
arrives, and each of its documents is read as the view that was shown, and by no form of the other
kind; a live secret is disclosed as its public view; and no document at all is read by both forms. -/
theorem views_read_back (rows : List Snapshot) (now : Stamp) (views : List View)
    (hscalar : ∀ s ∈ rows, s.Scalar)
    (hviews : List.Forall₂ (fun s v => s.project now = .ok v) rows views) :
    (∃ js, Json.Arrives (.list (views.map View.toJson)) (.list js)
      ∧ List.Forall₂ View.ReadAs js views)
    ∧ (∀ h d, View.live h d ∈ views → ∃ j, Disclosed h d j)
    ∧ ∀ j : Json, ¬ ((∃ v : LiveView, Form.read j = .ok v) ∧ ∃ w : ExpiredView, Form.read j = .ok w)
    := by
  -- every view is that of a row
  have hrows := (List.forall₂_and_left rows views).mpr ⟨hscalar, hviews⟩
  have hflipped : List.Forall₂ (fun v s => (∀ style, v.KeptBy style) ∧ s.project now = .ok v)
      views rows :=
    .flip (hrows.imp fun s v h => ⟨fun style => h.1.keptBy h.2 style, h.2⟩)
  have hkept : ∀ v ∈ views, ∀ style, v.KeptBy style := ((List.forall₂_and_left views rows).mp hflipped).1
  refine ⟨⟨views.map View.toJson, ?_, ?_⟩, ?_, ?_⟩
  · exact Json.arrives_of_plain (plain_views fun v hv => hkept v hv _) (read_views views)
  · exact List.forall₂_map_left_iff.mpr (List.forall₂_same.mpr fun v _ => v.readAs_toJson)
  · intro h d hlive
    have hv := hkept _ hlive Style.ascii
    have harrives : Json.Arrives (publicJson h d) (publicJson h d) :=
      Json.arrives_of_plain (plain_publicJson hv.id (hv.data d rfl)) (read_publicJson h d)
    have hunnamed : Text.ofString "owner_id" ∉ [Text.ofString "id", "created_at", "expires_at",
      "single_use", "expired", "data"] := by decide
    exact ⟨publicJson h d, harrives, read_public h d, hunnamed, fun owner => harrives⟩
  · rintro j ⟨⟨v, hv⟩, w, hw⟩
    exact not_live_and_expired hv hw

/-- Two rows of one owner: a secret at its deadline, whose clock is an hour ahead of UTC, and one that
was cleared. -/
def shelf : List Snapshot :=
  [⟨"a1", "zoë", some "\"\\\u0007😀", .naive ⟨1234567, by decide⟩,
      ⟨⟨7200000000, by decide⟩, some 3600⟩, true⟩,
    ⟨"a2", "zoë", none, .utc .first, .utc .first, false⟩]

/-- What they are shown as an hour after the calendar starts. -/
def shelfViews : List View :=
  [.live ⟨"a1", "zoë", ⟨1234567, by decide⟩, ⟨3600000000, by decide⟩, true⟩ "\"\\\u0007😀",
    .expired ⟨"a2", "zoë", .first, .first, false⟩]

/-- One of the two is read as a live view and the other as an expired one. -/
theorem views_read_back_shelf :
    (∀ s ∈ shelf, s.Scalar)
    ∧ List.Forall₂ (fun s v => s.project (.utc ⟨3600000000, by decide⟩) = .ok v) shelf shelfViews
    ∧ (∃ js, Json.Arrives (.list (shelfViews.map View.toJson)) (.list js)
      ∧ List.Forall₂ View.ReadAs js shelfViews)
    ∧ ∃ j, Disclosed ⟨"a1", "zoë", ⟨1234567, by decide⟩, ⟨3600000000, by decide⟩, true⟩
      "\"\\\u0007😀" j := by
  have hscalar : ∀ s ∈ shelf, s.Scalar := by
    intro s hs
    simp only [shelf, List.mem_cons, List.not_mem_nil, or_false] at hs
    rcases hs with rfl | rfl
    · refine ⟨by decide, by decide, ?_⟩
      intro d hd
      injection hd with hd
      subst hd
      decide
    · refine ⟨by decide, by decide, ?_⟩
      intro d hd
      cases hd
  have hviews : List.Forall₂ (fun s v => s.project (.utc ⟨3600000000, by decide⟩) = .ok v) shelf
      shelfViews := .cons rfl (.cons rfl .nil)
  obtain ⟨hlisting, hpublic, _⟩ := views_read_back shelf _ shelfViews hscalar hviews
  exact ⟨hscalar, hviews, hlisting, hpublic _ _ List.mem_cons_self⟩

end Store

end SealedDrop
