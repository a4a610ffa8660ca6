/-
  SealedDrop.Proofs.Client.Answer
  ───────────────────────────────
  **WHAT BECOMES OF A FAILED ANSWER.**

  Anything may answer a request: the service, a proxy, a page that is no JSON.
  `Client.check` looks for a detail in the body, with `Client.detail`, before it
  looks at the status.  Most bodies have one to offer, and then the status
  decides between the faults that the client foresees: `notFound` for 404,
  `rejected` for 400, `failed` for the rest.  Two kinds of body have none, and
  both let a fault through that nobody foresees, whatever the status is:

      Offers   — an object, with or without a detail, or a text that is no JSON
      Barren   — a JSON value that is no object
      TooDeep  — a value nested beyond the reader

  Every body is of one of these kinds (`body_cases`), so the last two are the
  exact exceptions to the rule that failed answers are reported by status.

  Main results:
    • `Offers.detail`, `Barren.detail`, `TooDeep.detail` — what is found in a body of each kind,
    • `failed_answer_outcomes` — every fault of every failed answer,
    • `not_reported_null` — the rule without its exceptions is false.
-/
import SealedDrop.Client.Session
import SealedDrop.Proofs.Json.Tree

namespace SealedDrop.Client

open Json (Plain Style)

/-! ## §1. Bodies -/

/-- A body offers a detail. -/
inductive Offers (body : Text) : Text → Prop where
  /-- It is an object that has one, of any kind. -/
  | given {members : List (Text × Json)} {v : Json} (hread : Json.read body = .ok (.object members))
      (hfind : Json.find? "detail" members = some v) : Offers body v.shown
  /-- It is an object that has none: the empty text will do. -/
  | absent {members : List (Text × Json)} (hread : Json.read body = .ok (.object members))
      (hfind : Json.find? "detail" members = none) : Offers body []
  /-- It is no JSON: the body itself will do. -/
  | plain {fault : Json.Fault} (hread : Json.read body = .error fault)
      (hflat : ∀ isObject, fault ≠ .tooDeep isObject) : Offers body body

/-- A body is a JSON value that is no object. -/
def Barren (body : Text) (v : Json) : Prop :=
  Json.read body = .ok v ∧ ∀ members, v ≠ .object members

/-- A body is nested beyond the reader, by an object or else by an array. -/
def TooDeep (body : Text) (isObject : Bool) : Prop :=
  Json.read body = .error (.tooDeep isObject)

/-- **Every body is of one kind.** -/
theorem body_cases (body : Text) :
    (∃ d, Offers body d) ∨ (∃ v, Barren body v) ∨ ∃ isObject, TooDeep body isObject := by
  cases hread : Json.read body with
  | error fault =>
    cases fault with
    | malformed | tooManyDigits => exact .inl ⟨body, .plain hread (by simp)⟩
    | tooDeep isObject => exact .inr (.inr ⟨isObject, hread⟩)
  | ok v =>
    cases v with
    | object members =>
      cases hfind : Json.find? "detail" members with
      | none => exact .inl ⟨[], .absent hread hfind⟩
      | some v => exact .inl ⟨v.shown, .given hread hfind⟩
    | null | bool | int | float | text | list => exact .inr (.inl ⟨_, hread, by simp⟩)

section Bodies

variable {body d : Text} {v : Json} {isObject : Bool}

/-- The detail that a body offers is found. -/
theorem Offers.detail (h : Offers body d) : detail body = .ok d := by
  unfold Client.detail
  cases h with
  | given hread hfind | absent hread hfind =>
    rw [hread]
    dsimp only
    rw [hfind]
  | @plain fault hread hflat =>
    rw [hread]
    cases fault with
    | malformed | tooManyDigits => rfl
    | tooDeep isObject => exact absurd rfl (hflat isObject)

/-- In a value that is no object nobody can look for a detail. -/
theorem Barren.detail (h : Barren body v) : detail body = .error (.noDetail (kindOf v)) := by
  obtain ⟨hread, hkind⟩ := h
  unfold Client.detail
  rw [hread]
  cases v with
  | object members => exact absurd rfl (hkind members)
  | null | bool | int | float | text | list => rfl

theorem TooDeep.detail (h : TooDeep body isObject) :
    detail body = .error (.unreadable body (.tooDeep isObject)) := by
  unfold TooDeep at h
  unfold Client.detail
  rw [h]

/-- **A document that is written as a body offers a detail iff it is an object.** -/
theorem offers_render_iff {s : Style} {n : Nat} (hs : s.Readable) (hv : Plain s n v)
    (hdepth : n ≤ Json.maxDepth) :
    (∃ d, Offers (Json.render s v) d) ↔ ∃ members, v = .object members := by
  have hread : Json.read (Json.render s v) = .ok v := Json.read_plain hs hv hdepth
  constructor
  · rintro ⟨d, h⟩
    cases h with
    | given hobject | absent hobject =>
      rw [hread] at hobject
      injection hobject with hobject
      exact ⟨_, hobject⟩
    | plain hbad =>
      rw [hread] at hbad
      cases hbad
  · rintro ⟨members, rfl⟩
    cases hfind : Json.find? "detail" members with
    | none => exact ⟨[], .absent hread hfind⟩
    | some w => exact ⟨w.shown, .given hread hfind⟩

end Bodies

/-! ## §2. Failed answers -/

/-- A failed answer is reported with a detail, as the fault that its status stands for. -/
inductive Reported (a : Answer) (d : Text) : Prop where
  /-- There is no such secret. -/
  | notFound (hstatus : a.status = 404) (hcheck : check a = .error (.notFound d))
  /-- The request was rejected. -/
  | rejected (hstatus : a.status = 400) (hcheck : check a = .error (.rejected d))
  /-- The request failed otherwise. -/
  | failed (hunknown : a.status ≠ 404) (hvalid : a.status ≠ 400)
      (hcheck : check a = .error (.failed a.status d))

section Failed

variable {a : Answer} {d : Text}

/-- A fault in the search for a detail comes first. -/
theorem check_of_detail_error (hfailed : 400 ≤ a.status) {f : AnswerFault}
    (h : detail a.body = .error f) : check a = .error f := by
  unfold check
  rw [if_neg (Nat.not_lt.mpr hfailed), h]

/-- With a detail at hand, the status decides. -/
theorem reported_of_detail (hfailed : 400 ≤ a.status) (h : detail a.body = .ok d) :
    Reported a d := by
  have hcheck : check a = .error (if a.status = 404 then .notFound d
      else if a.status = 400 then .rejected d else .failed a.status d) := by
    unfold check
    rw [if_neg (Nat.not_lt.mpr hfailed), h]
  by_cases hunknown : a.status = 404
  · rw [if_pos hunknown] at hcheck
    exact .notFound hunknown hcheck
  · rw [if_neg hunknown] at hcheck
    by_cases hinvalid : a.status = 400
    · rw [if_pos hinvalid] at hcheck
      exact .rejected hinvalid hcheck
    · rw [if_neg hinvalid] at hcheck
      exact .failed hunknown hinvalid hcheck

/-- What is reported is a fault with that detail, and one that the client foresees. -/
theorem Reported.fault (h : Reported a d) : ∃ f, check a = .error f
    ∧ (f = .notFound d ∨ f = .rejected d ∨ f = .failed a.status d)
    ∧ (Fault.answer f).isForeseen = true := by
  cases h with
  | notFound _ hcheck => exact ⟨_, hcheck, .inl rfl, rfl⟩
  | rejected _ hcheck => exact ⟨_, hcheck, .inr (.inl rfl), rfl⟩
  | failed _ _ hcheck => exact ⟨_, hcheck, .inr (.inr rfl), rfl⟩

/-- There is one fault, so there is one detail. -/
theorem Reported.unique {d' : Text} (h : Reported a d) (h' : Reported a d') : d = d' := by
  obtain ⟨f, hf, hkind, _⟩ := h.fault
  obtain ⟨f', hf', hkind', _⟩ := h'.fault
  rw [hf] at hf'
  injection hf' with hf'
  rw [← hf'] at hkind'
  rcases hkind with rfl | rfl | rfl <;> simpa using hkind'

/-- What is not foreseen is not reported. -/
theorem not_reported {f : AnswerFault} (hcheck : check a = .error f)
    (hf : (Fault.answer f).isForeseen = false) : ¬ Reported a d := by
  intro h
  obtain ⟨g, hg, _, hforeseen⟩ := h.fault
  rw [hcheck] at hg
  injection hg with hg
  rw [← hg, hf] at hforeseen
  cases hforeseen

/-- A failed answer is reported with what its body offers. -/
theorem reported_iff_offers (hfailed : 400 ≤ a.status) : Reported a d ↔ Offers a.body d := by
  constructor
  · intro h
    rcases body_cases a.body with ⟨d', hd'⟩ | ⟨v, hv⟩ | ⟨isObject, hv⟩
    · rw [h.unique (reported_of_detail hfailed hd'.detail)]
      exact hd'
    · exact absurd h (not_reported (check_of_detail_error hfailed hv.detail) rfl)
    · exact absurd h (not_reported (check_of_detail_error hfailed hv.detail) rfl)
  · intro h
    exact reported_of_detail hfailed h.detail

/-- A failed answer that is not reported has one of the two other kinds of body. -/
theorem exists_reported_iff (hfailed : 400 ≤ a.status) : (∃ d, Reported a d) ↔
    (∀ v, ¬ Barren a.body v) ∧ ∀ isObject, ¬ TooDeep a.body isObject := by
  constructor
  · rintro ⟨d, hd⟩
    exact ⟨fun v hv => not_reported (check_of_detail_error hfailed hv.detail) rfl hd,
      fun isObject hv => not_reported (check_of_detail_error hfailed hv.detail) rfl hd⟩
  · rintro ⟨hnotBarren, hnotDeep⟩
    rcases body_cases a.body with ⟨d, hd⟩ | ⟨v, hv⟩ | ⟨isObject, hv⟩
    · exact ⟨d, (reported_iff_offers hfailed).mpr hd⟩
    · exact absurd hv (hnotBarren v)
    · exact absurd hv (hnotDeep isObject)

/-- The client foresees what is reported and nothing else. -/
theorem foreseen_iff_reported (hfailed : 400 ≤ a.status) {f : AnswerFault}
    (hf : check a = .error f) : (Fault.answer f).isForeseen = true ↔ ∃ d, Reported a d := by
  constructor
  · intro hforeseen
    -- a fault in the search for a detail would be the one that is foreseen
    have hfault : ∀ {g}, detail a.body = .error g → g = f := by
      intro g hg
      have h := (check_of_detail_error hfailed hg).symm.trans hf
      injection h
    refine (exists_reported_iff hfailed).mpr ⟨?_, ?_⟩
    · intro v hv
      rw [← hfault hv.detail] at hforeseen
      cases hforeseen
    · intro isObject hv
      rw [← hfault hv.detail] at hforeseen
      cases hforeseen
  · rintro ⟨d, hd⟩
    obtain ⟨g, hg, _, hforeseen⟩ := hd.fault
    rw [hf] at hg
    injection hg with hg
    rw [hg]
    exact hforeseen

/-- All that can become of a failed answer. -/
structure Outcomes (a : Answer) : Prop where
  /-- It is reported with a detail iff its body offers that detail. -/
  reported : ∀ d, Reported a d ↔ Offers a.body d
  /-- It is reported unless its body is a value that is no object, or is nested too deep. -/
  exceptions : (∃ d, Reported a d) ↔
    (∀ v, ¬ Barren a.body v) ∧ ∀ isObject, ¬ TooDeep a.body isObject
  /-- A value that is no object has a fault of its own. -/
  barren : ∀ v, Barren a.body v → check a = .error (.noDetail (kindOf v))
  /-- So has a value that is nested too deep. -/
  tooDeep : ∀ isObject, TooDeep a.body isObject →
    check a = .error (.unreadable a.body (.tooDeep isObject))
  /-- The client foresees what is reported and nothing else. -/
  foreseen : ∀ f, check a = .error f →
    ((Fault.answer f).isForeseen = true ↔ ∃ d, Reported a d)
  /-- Of the documents that can be written as a body, the objects are reported. -/
  written : ∀ (s : Style) (n : Nat) (v : Json), s.Readable → Plain s n v → n ≤ Json.maxDepth →
    a.body = Json.render s v → ((∃ d, Reported a d) ↔ ∃ members, v = .object members)

end Failed

/-- **Every failed answer is reported by its status, unless its body is a JSON value that is no
object or is nested too deep.**  In these two cases, and in no others, the client ends with a fault
that it does not foresee. -/
theorem failed_answer_outcomes (a : Answer) (hfailed : 400 ≤ a.status) : Outcomes a where
  reported := fun d => reported_iff_offers hfailed
  exceptions := exists_reported_iff hfailed
  barren := fun v hv => check_of_detail_error hfailed hv.detail
  tooDeep := fun isObject hv => check_of_detail_error hfailed hv.detail
  foreseen := fun f hf => foreseen_iff_reported hfailed hf
  written := by
    intro s n v hs hv hdepth hbody
    rw [exists_congr fun d => reported_iff_offers hfailed, hbody]
    exact offers_render_iff hs hv hdepth

/-- The page of a gateway is reported as it is, and an unknown secret without a detail is one
nevertheless. -/
theorem failed_answer_outcomes_gateway :
    check ⟨502, "Bad Gateway"⟩ = .error (.failed 502 "Bad Gateway")
    ∧ check ⟨404, "\x7b\x7d"⟩ = .error (.notFound []) := by
  have hpage : Json.read "Bad Gateway" = .error (.malformed .expectingValue 0) := rfl
  have hempty : Json.read "\x7b\x7d" = .ok (.object []) := rfl
  have hgateway : Reported ⟨502, "Bad Gateway"⟩ "Bad Gateway" :=
    ((failed_answer_outcomes ⟨502, "Bad Gateway"⟩ (by decide)).reported _).mpr
      (.plain hpage (by simp))
  have hunknown : Reported ⟨404, "\x7b\x7d"⟩ [] :=
    ((failed_answer_outcomes ⟨404, "\x7b\x7d"⟩ (by decide)).reported _).mpr
      (.absent hempty rfl)
  constructor
  · cases hgateway with
    | notFound hstatus | rejected hstatus => cases hstatus
    | failed _ _ hcheck => exact hcheck
  · cases hunknown with
    | notFound _ hcheck => exact hcheck
    | rejected hstatus => cases hstatus
    | failed hne => exact absurd rfl hne

/-- A gateway that answers `null` is not reported at all. -/
theorem not_reported_null : ¬ ∀ a : Answer, 400 ≤ a.status → ∃ d, Reported a d := by
  intro h
  obtain ⟨d, hd⟩ := h ⟨502, "null"⟩ (by decide)
  have hcheck : check ⟨502, "null"⟩ = .error (.noDetail "NoneType") := rfl
  exact not_reported hcheck rfl hd

end SealedDrop.Client
