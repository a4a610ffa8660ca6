/-
  SealedDrop.Proofs.Server.RateLimit
  ──────────────────────────────────
  **WHAT THE LIMITER GUARANTEES A SERVICE AND ITS CLIENTS.**

  Requests of many clients come in any order, and each client has a lane of its
  own.  A client's lane goes through that client's requests as if there were no
  others (`lane_after`, `admittedTimes_eq`), so what is known about lanes holds
  of every client in every run:

    * the service sees no more of a client within a second than it allows;
    * a client that trips the limit is locked out for the whole period, and
      what it sends meanwhile neither counts nor prolongs the lock-out;
    * a client that keeps to the limit never notices the limiter.

  Main results:
    • `lane_after` — clients do not see each other,
    • `rate_limit_guarantee` — the three guarantees, for every run.
-/
import Mathlib.Algebra.Order.Ring.Rat
import SealedDrop.Proofs.Server.Lane

namespace SealedDrop.RateLimit

/-! ## §1. One client among others -/

/-- The times at which a client's requests arrive, pre-flight requests aside. -/
def timesOf {τ : Type} (client : Text) (arrivals : List (Arrival τ)) : List τ :=
  arrivals.filterMap fun a => if a.counted = some client then some a.time else none

theorem timesOf_append {τ : Type} (client : Text) (arrivals later : List (Arrival τ)) :
    timesOf client (arrivals ++ later) = timesOf client arrivals ++ timesOf client later :=
  List.filterMap_append

theorem timesOf_cons_of_counted {τ : Type} {client : Text} {a : Arrival τ}
    (h : a.counted = some client) (arrivals : List (Arrival τ)) :
    timesOf client (a :: arrivals) = a.time :: timesOf client arrivals :=
  List.filterMap_cons_some (if_pos h)

theorem timesOf_cons_of_uncounted {τ : Type} {client : Text} {a : Arrival τ}
    (h : a.counted ≠ some client) (arrivals : List (Arrival τ)) :
    timesOf client (a :: arrivals) = timesOf client arrivals :=
  List.filterMap_cons_none (if_neg h)

theorem mem_timesOf {τ : Type} {client : Text} {arrivals : List (Arrival τ)} {t : τ} :
    t ∈ timesOf client arrivals ↔ ∃ a ∈ arrivals, a.counted = some client ∧ a.time = t := by
  unfold timesOf
  rw [List.mem_filterMap]
  simp only [Option.ite_none_right_eq_some, Option.some.injEq]

/-- Of a client's requests in order, one and a later one. -/
theorem sorted_split {τ : Type} [LinearOrder τ] {client : Text}
    {before between rest : List (Arrival τ)} {a b : Arrival τ} (ha : a.counted = some client)
    (hb : b.counted = some client)
    (hsorted : (timesOf client (before ++ a :: (between ++ b :: rest))).Pairwise (· ≤ ·)) :
    (timesOf client before ++ [a.time]).Pairwise (· ≤ ·)
      ∧ ∀ x ∈ between, x.counted = some client → x.time ≤ b.time := by
  rw [timesOf_append, timesOf_cons_of_counted ha, timesOf_append, timesOf_cons_of_counted hb]
    at hsorted
  refine ⟨hsorted.sublist ((List.Sublist.refl _).append ((List.nil_sublist _).cons_cons _)), ?_⟩
  intro x hx hc
  have hbehind := (List.pairwise_cons.mp (List.pairwise_append.mp hsorted).2.1).2
  exact (List.pairwise_append.mp hbehind).2.2 x.time (mem_timesOf.mpr ⟨x, hx, hc, rfl⟩) b.time
    List.mem_cons_self

section Clients

variable {τ : Type} [Sub τ] [LT τ] [DecidableLT τ] [OfNat τ 1]

/-- The limiter after arrivals in order. -/
def State.after (p : Policy τ) (s : State τ) (arrivals : List (Arrival τ)) : State τ :=
  arrivals.foldl (fun s a => (step p s a).2) s

/-- The times of a client's requests that are admitted. -/
def admittedTimes (p : Policy τ) (client : Text) (s : State τ) : List (Arrival τ) → List τ
  | [] => []
  | a :: arrivals =>
    (if a.counted = some client ∧ (step p s a).1 = true then [a.time] else [])
      ++ admittedTimes p client (step p s a).2 arrivals

/-- An arrival trips the limit: it is refused though its client was not locked out. -/
structure Trips (p : Policy τ) (s : State τ) (client : Text) (a : Arrival τ) : Prop where
  counted : a.counted = some client
  unlocked : (s.lane client).isLocked p a.time = false
  refused : (step p s a).1 = false

variable {p : Policy τ} {s : State τ} {a : Arrival τ} {client : Text}

/-- A client's request is decided by its lane, and changes it. -/
theorem step_counted (h : a.counted = some client) :
    (step p s a).1 = ((s.lane client).step p a.time).1
      ∧ (step p s a).2.lane client = ((s.lane client).step p a.time).2 := by
  unfold step
  rw [h]
  exact ⟨rfl, (State.lane_setLane ..).trans (if_pos rfl)⟩

/-- No other request changes a client's lane. -/
theorem step_uncounted (h : a.counted ≠ some client) :
    (step p s a).2.lane client = s.lane client := by
  unfold step
  cases hc : a.counted with
  | none => rfl
  | some other =>
    have hne : ¬ client = other := by
      rintro rfl
      exact h hc
    exact (State.lane_setLane ..).trans (if_neg hne)

/-- **A client's lane goes through the client's requests as if there were no others.** -/
theorem lane_after (p : Policy τ) (s : State τ) (client : Text) (arrivals : List (Arrival τ)) :
    (s.after p arrivals).lane client = (s.lane client).after p (timesOf client arrivals) := by
  induction arrivals generalizing s with
  | nil => rfl
  | cons a arrivals ih =>
    show ((step p s a).2.after p arrivals).lane client = _
    rw [ih]
    by_cases h : a.counted = some client
    · rw [timesOf_cons_of_counted h, (step_counted h).2]
      rfl
    · rw [timesOf_cons_of_uncounted h, step_uncounted h]

theorem admittedTimes_eq (p : Policy τ) (s : State τ) (client : Text)
    (arrivals : List (Arrival τ)) :
    admittedTimes p client s arrivals = (s.lane client).admitted p (timesOf client arrivals) := by
  induction arrivals generalizing s with
  | nil => rfl
  | cons a arrivals ih =>
    unfold admittedTimes
    rw [ih]
    by_cases h : a.counted = some client
    · rw [timesOf_cons_of_counted h, (step_counted h).1, (step_counted h).2]
      simp only [h, true_and]
      rfl
    · rw [timesOf_cons_of_uncounted h, step_uncounted h, if_neg fun hok => h hok.1]
      rfl

/-- An arrival behind others goes through the lane that the client's own requests have left. -/
theorem step_after (h : a.counted = some client) (arrivals : List (Arrival τ)) :
    (step p (s.after p arrivals) a).1
        = (((s.lane client).after p (timesOf client arrivals)).step p a.time).1
      ∧ (s.after p (arrivals ++ [a])).lane client
        = (((s.lane client).after p (timesOf client arrivals)).step p a.time).2 := by
  obtain ⟨hverdict, hlane⟩ := step_counted (p := p) (s := s.after p arrivals) h
  rw [lane_after] at hverdict hlane
  refine ⟨hverdict, ?_⟩
  rw [← hlane]
  unfold State.after
  rw [List.foldl_append]
  rfl

end Clients

/-! ## §2. The guarantees -/

section Guarantees

variable {τ : Type} [CommRing τ] [LinearOrder τ] [IsStrictOrderedRing τ]

/-- What a client and the service can rely on in a run of arrivals from the start. -/
structure Guarantee (p : Policy τ) (client : Text) (arrivals : List (Arrival τ)) : Prop where
  /-- No second, both ends included, sees more of the client's requests admitted than allowed. -/
  bounded : ∀ start,
    ((admittedTimes p client [] arrivals).countP (isWithin start) : Int) ≤ max p.maxPerSecond 0
  /-- From the request that trips the limit to the end of the period every request is refused; it
  leaves the lane, and in it the start of the lock-out, as they were. -/
  lockedOut : ∀ before a between b rest, arrivals = before ++ a :: (between ++ b :: rest) →
    Trips p (State.after p [] before) client a → b.counted = some client →
    b.time ≤ a.time + p.lockout →
    let s := State.after p [] (before ++ a :: between)
    (s.lane client).lockedAt = some a.time ∧ (step p s b).1 = false
      ∧ (step p s b).2.lane client = s.lane client
  /-- The first request behind the period meets no lock-out, and is admitted if the period is a
  second or more and anything is allowed at all. -/
  released : ∀ before a between b rest, arrivals = before ++ a :: (between ++ b :: rest) →
    Trips p (State.after p [] before) client a → b.counted = some client →
    (∀ x ∈ between, x.counted = some client → x.time ≤ a.time + p.lockout) →
    a.time + p.lockout < b.time →
    let s := State.after p [] (before ++ a :: between)
    (s.lane client).isLocked p b.time = false
      ∧ (1 ≤ p.lockout → 1 ≤ p.maxPerSecond → (step p s b).1 = true)
  /-- A client that never sends more than allowed within a second is always admitted. -/
  spared : (∀ start, ((timesOf client arrivals).countP (isWithin start) : Int) ≤ p.maxPerSecond) →
    ∀ before a rest, arrivals = before ++ a :: rest → a.counted = some client →
      (step p (State.after p [] before) a).1 = true

section Lockout

variable {p : Policy τ} {client : Text} {before between : List (Arrival τ)} {a : Arrival τ}
  (ha : Trips p (State.after p [] before) client a)

include ha

/-- The lane that a request leaves when it trips the limit: locked from now on, with no later time
in it; and so it stays as long as all that the client sends comes within the period. -/
theorem lane_of_trips (hsorted : (timesOf client before ++ [a.time]).Pairwise (· ≤ ·))
    (hbetween : ∀ x ∈ between, x.counted = some client → x.time ≤ a.time + p.lockout) :
    let l := (State.after p [] (before ++ a :: between)).lane client
    l.lockedAt = some a.time ∧ ∀ x ∈ l.window, x ≤ a.time := by
  have hfresh : State.lane ([] : State τ) client = Lane.fresh := rfl
  obtain ⟨hverdict, hlane⟩ := step_after (p := p) (s := []) ha.counted before
  have hunlocked := ha.unlocked
  rw [lane_after, hfresh] at hunlocked
  rw [ha.refused, hfresh] at hverdict
  rw [hfresh] at hlane
  have hlocked : ((State.after p [] (before ++ [a])).lane client).lockedAt = some a.time := by
    rw [hlane]
    exact Lane.lockedAt_of_tripped hunlocked hverdict.symm
  have hwindow : ∀ x ∈ ((State.after p [] (before ++ [a])).lane client).window, x ≤ a.time := by
    rw [hlane, ← Lane.after_concat]
    exact fun x hx => le_last hsorted x ((Lane.window_sublist p _).subset hx)
  -- what comes within the period meets the lock-out and changes nothing
  have hsame : (State.after p [] (before ++ a :: between)).lane client
      = (State.after p [] (before ++ [a])).lane client := by
    have hsplit : State.after p [] (before ++ a :: between)
        = (State.after p [] (before ++ [a])).after p between := by
      unfold State.after
      rw [← List.foldl_append, List.append_assoc]
      rfl
    rw [hsplit, lane_after p _ client between]
    refine Lane.after_of_locked ?_
    intro t ht
    obtain ⟨x, hx, hc, rfl⟩ := mem_timesOf.mp ht
    refine Lane.isLocked_iff.mpr ⟨a.time, hlocked, ?_⟩
    linarith [hbetween x hx hc]
  intro l
  rw [show l = _ from hsame]
  exact ⟨hlocked, hwindow⟩

end Lockout

/-- **The limiter keeps its guarantees** to every client whose requests come at times that do not
decrease, whatever others send in between. -/
theorem rate_limit_guarantee (p : Policy τ) (client : Text) (arrivals : List (Arrival τ))
    (hsorted : (timesOf client arrivals).Pairwise (· ≤ ·)) : Guarantee p client arrivals := by
  -- a client never seen before has a fresh lane
  have hfresh : State.lane ([] : State τ) client = Lane.fresh := rfl
  refine ⟨?_, ?_, ?_, ?_⟩
  · intro start
    rw [admittedTimes_eq, hfresh]
    exact Lane.countP_admitted_le p hsorted start
  · rintro before a between b rest rfl ha hb hwithin s
    obtain ⟨hbefore, hbetween⟩ := sorted_split ha.counted hb hsorted
    have hquiet : ∀ x ∈ between, x.counted = some client → x.time ≤ a.time + p.lockout :=
      fun x hx hc => (hbetween x hx hc).trans hwithin
    obtain ⟨hlocked, _⟩ := lane_of_trips ha hbefore hquiet
    have hmeets : (s.lane client).isLocked p b.time = true :=
      Lane.isLocked_iff.mpr ⟨a.time, hlocked, by linarith⟩
    obtain ⟨hverdict, hlane⟩ := step_counted (p := p) (s := s) hb
    rw [Lane.step_of_locked hmeets] at hverdict hlane
    exact ⟨hlocked, hverdict, hlane⟩
  · rintro before a between b rest rfl ha hb hbetween hbehind s
    obtain ⟨hbefore, _⟩ := sorted_split ha.counted hb hsorted
    obtain ⟨hlocked, hwindow⟩ := lane_of_trips ha hbefore hbetween
    have hreleased : p.lockout < b.time - a.time := by linarith
    constructor
    · unfold Lane.isLocked
      rw [hlocked]
      exact (Bool.not_eq_false' ..).mpr (decide_eq_true hreleased)
    · intro hsecond hlimit
      rw [(step_counted hb).1, Lane.step_of_released hlocked hwindow hreleased hsecond hlimit]
  · rintro hsparse before a rest rfl ha
    have hprefix : (timesOf client before ++ [a.time]).Sublist
        (timesOf client (before ++ a :: rest)) := by
      rw [timesOf_append, timesOf_cons_of_counted ha]
      exact (List.Sublist.refl _).append ((List.nil_sublist _).cons_cons _)
    rw [(step_after ha before).1, hfresh, Lane.step_of_sparse (hsorted.sublist hprefix) fun start =>
      (Int.ofNat_le.mpr hprefix.countP_le).trans (hsparse start)]

end Guarantees

/-! ## §3. A burst -/

/-- A request of a client at a time. -/
def visit (client : Text) (time : ℚ) : Arrival ℚ := ⟨some client, "GET", time⟩

/-- One request too many within a second, two in the lock-out, one behind it; and another client's
requests in between. -/
def burst : List (Arrival ℚ) :=
  [visit "a" 0, visit "b" 0, visit "a" (1 / 2), visit "b" (1 / 4), visit "a" 1, visit "b" 1,
    visit "a" (3 / 2), visit "a" 2, visit "a" (9 / 4)]

/-- The third request, a whole second after the first, trips a limit of two; the lock-out of a
second includes its end. -/
theorem rate_limit_guarantee_burst :
    (timesOf "a" burst).Pairwise (· ≤ ·) ∧ Guarantee ⟨2, 1⟩ "a" burst
      ∧ Trips ⟨2, 1⟩ (State.after ⟨2, 1⟩ [] (burst.take 4)) "a" (visit "a" 1)
      ∧ admittedTimes ⟨2, 1⟩ "a" [] burst = [0, 1 / 2, 9 / 4] := by
  have hsorted : (timesOf "a" burst).Pairwise (· ≤ ·) := by decide +kernel
  have htrips : Trips ⟨2, 1⟩ (State.after ⟨2, 1⟩ [] (burst.take 4)) "a" (visit "a" 1) :=
    ⟨rfl, by decide +kernel, by decide +kernel⟩
  exact ⟨hsorted, rate_limit_guarantee ⟨2, 1⟩ "a" burst hsorted, htrips, by decide +kernel⟩

end SealedDrop.RateLimit
