/-
  SealedDrop.Proofs.Server.Independence
  ─────────────────────────────────────
  **CLIENTS DO NOT AFFECT EACH OTHER'S LIMITS.**

  `RateLimit.step` keeps the lanes of all clients in one state, and every counted
  request writes to it.  Two runs are compared: one with the requests of many
  clients in any order, pre-flight requests and requests without an address
  among them; and one with nothing but the counted requests of one client.
  That client's requests get the same verdicts in both, whatever the times:

      verdicts    — for each arrival of a run, whether it is admitted
      verdictsOf  — those of one client's requests
      own         — a client's requests, as a run of their own

  Both runs are brought down to the same thing: the verdicts of the client's
  lane on the times of the client's requests.

  Main results:
    • `verdictsOf_eq` — a client's verdicts are those of its lane,
    • `clients_independent` — one client's verdicts in a run of many.
-/
import SealedDrop.Proofs.Server.RateLimit
import SealedDrop.Server.Service

namespace SealedDrop.RateLimit

section Verdicts

variable {τ : Type} [Sub τ] [LT τ] [DecidableLT τ] [OfNat τ 1]

/-! ## §1. Verdicts -/

/-- For each request at times in order, whether a lane admits it. -/
def Lane.verdicts (p : Policy τ) (l : Lane τ) : List τ → List Bool
  | [] => []
  | t :: times => (l.step p t).1 :: verdicts p (l.step p t).2 times

/-- For each arrival in order, whether it is admitted. -/
def verdicts (p : Policy τ) (s : State τ) : List (Arrival τ) → List Bool
  | [] => []
  | a :: arrivals => (step p s a).1 :: verdicts p (step p s a).2 arrivals

/-- For each of a client's arrivals in order, whether it is admitted. -/
def verdictsOf (client : Text) (p : Policy τ) (s : State τ) (arrivals : List (Arrival τ)) :
    List Bool :=
  ((arrivals.zip (verdicts p s arrivals)).filter fun x => x.1.counted = some client).map Prod.snd

/-- A client's arrivals alone, pre-flight requests aside. -/
def own {τ : Type} (client : Text) (arrivals : List (Arrival τ)) : List (Arrival τ) :=
  arrivals.filter fun a => a.counted = some client

theorem counted_of_mem_own {τ : Type} {client : Text} {arrivals : List (Arrival τ)} {a : Arrival τ}
    (h : a ∈ own client arrivals) : a.counted = some client :=
  of_decide_eq_true (List.mem_filter.mp h).2

/-- A client's requests alone come at the times at which they come among others. -/
theorem timesOf_own {τ : Type} (client : Text) (arrivals : List (Arrival τ)) :
    timesOf client (own client arrivals) = timesOf client arrivals := by
  induction arrivals with
  | nil => rfl
  | cons a arrivals ih =>
    by_cases h : a.counted = some client
    · have hown : own client (a :: arrivals) = a :: own client arrivals :=
        List.filter_cons_of_pos (decide_eq_true h)
      rw [hown, timesOf_cons_of_counted h, timesOf_cons_of_counted h, ih]
    · have hown : own client (a :: arrivals) = own client arrivals :=
        List.filter_cons_of_neg (mt of_decide_eq_true h)
      rw [hown, timesOf_cons_of_uncounted h, ih]

variable {p : Policy τ} {client : Text} {a : Arrival τ}

theorem verdictsOf_cons_of_counted (s : State τ) (h : a.counted = some client)
    (arrivals : List (Arrival τ)) :
    verdictsOf client p s (a :: arrivals)
      = (step p s a).1 :: verdictsOf client p (step p s a).2 arrivals := by
  unfold verdictsOf
  rw [verdicts, List.zip_cons_cons, List.filter_cons, if_pos (decide_eq_true h), List.map_cons]

theorem verdictsOf_cons_of_uncounted (s : State τ) (h : a.counted ≠ some client)
    (arrivals : List (Arrival τ)) :
    verdictsOf client p s (a :: arrivals) = verdictsOf client p (step p s a).2 arrivals := by
  unfold verdictsOf
  rw [verdicts, List.zip_cons_cons, List.filter_cons, if_neg (mt of_decide_eq_true h)]

/-! ## §2. One client among others, and alone -/

/-- **A client's verdicts are those of its lane**, whatever arrives in between. -/
theorem verdictsOf_eq (client : Text) (p : Policy τ) (s : State τ) (arrivals : List (Arrival τ)) :
    verdictsOf client p s arrivals = (s.lane client).verdicts p (timesOf client arrivals) := by
  induction arrivals generalizing s with
  | nil => rfl
  | cons a arrivals ih =>
    by_cases h : a.counted = some client
    · rw [verdictsOf_cons_of_counted s h, timesOf_cons_of_counted h, ih, (step_counted h).1,
        (step_counted h).2]
      rfl
    · rw [verdictsOf_cons_of_uncounted s h, timesOf_cons_of_uncounted h, ih, step_uncounted h]

/-- Of a run in which all arrivals are a client's, all verdicts are that client's. -/
theorem verdictsOf_of_counted (s : State τ) {arrivals : List (Arrival τ)}
    (h : ∀ a ∈ arrivals, a.counted = some client) :
    verdictsOf client p s arrivals = verdicts p s arrivals := by
  induction arrivals generalizing s with
  | nil => rfl
  | cons a arrivals ih =>
    rw [verdictsOf_cons_of_counted s (h a List.mem_cons_self),
      ih _ fun x hx => h x (List.mem_cons_of_mem _ hx)]
    rfl

/-- A request without a lane is admitted, and leaves no trace. -/
theorem step_of_uncounted (s : State τ) (h : a.counted = none) : step p s a = (true, s) := by
  unfold step
  rw [h]

/-- Pre-flight requests and requests without an address have no lane. -/
theorem counted_eq_none {τ : Type} {a : Arrival τ} (h : a.method = "OPTIONS" ∨ a.client = none) :
    a.counted = none := by
  unfold Arrival.counted
  split
  next => rfl
  next hmethod =>
    rcases h with hoptions | hnone
    · exact absurd hoptions hmethod
    · exact hnone

/-- In any run, every request without a lane is admitted. -/
theorem admitted_of_uncounted (s : State τ) {arrivals : List (Arrival τ)} {x : Arrival τ × Bool}
    (hx : x ∈ arrivals.zip (verdicts p s arrivals)) (h : x.1.counted = none) : x.2 = true := by
  induction arrivals generalizing s with
  | nil => cases hx
  | cons a arrivals ih =>
    unfold verdicts at hx
    rw [List.zip_cons_cons] at hx
    rcases List.mem_cons.mp hx with rfl | hx
    · rw [step_of_uncounted s h]
    · exact ih _ hx

/-! ## §3. Many clients -/

/-- **Clients do not affect each other's limits.**  From any state and at any times, the verdicts on
one client's requests among those of others are the verdicts on that client's requests alone.
Pre-flight requests and requests without an address are always admitted, and the service passes them
on without touching a lane. -/
theorem clients_independent (p : Policy τ) :
    (∀ (s : State τ) (arrivals : List (Arrival τ)) (client : Text),
      verdictsOf client p s arrivals = verdicts p s (own client arrivals))
    ∧ (∀ (s : State τ) (arrivals : List (Arrival τ)), ∀ x ∈ arrivals.zip (verdicts p s arrivals),
      x.1.method = "OPTIONS" ∨ x.1.client = none → x.2 = true)
    ∧ ∀ (c : Server.Context) (s : Server.State τ) (d : Server.Delivery τ),
      d.request.method = "OPTIONS" ∨ d.client = none →
      let o := Server.respond c s.records d.request
      Server.serve p c s d = (o.1, ⟨o.2, s.lanes⟩) := by
  refine ⟨?alone, ?admitted, ?passed⟩
  case alone =>
    -- both runs meet the client's lane with the same times
    intro s arrivals client
    rw [← verdictsOf_of_counted s fun a => counted_of_mem_own, verdictsOf_eq, verdictsOf_eq,
      timesOf_own]
  case admitted =>
    intro s arrivals x hx h
    exact admitted_of_uncounted s hx (counted_eq_none h)
  case passed =>
    intro c s d h o
    unfold Server.serve
    rw [step_of_uncounted s.lanes (counted_eq_none h)]
    rfl

end Verdicts

end SealedDrop.RateLimit
