/-
  SealedDrop.Proofs.Server.History
  ────────────────────────────────
  **A LIMITER THAT FORGETS NOTHING DECIDES THE SAME.**

  A lane of the limiter forgets: `prune` drops times off its window when a request
  is recorded, and a lock-out is gone once a request has come behind it.  A
  `History` keeps all of it, and says what the limit means in so many words:

      recorded — the time of every request that met no lock-out
      trips    — the time of every request that was one too many
      refused  — while some trip is no longer ago than the lock-out lasts
      tripping — when more recorded times lie within the last second, the
                 newest included, than are allowed

  A lane RECALLS a history at a time if it has kept whatever can still matter:
  the recorded times missing from the window are more than a second old, and
  the trips missing from the lock-out are over.  At that time and at any later
  one both decide the same, and the lane they leave recalls the history they
  leave.  As times do not decrease, that carries through a run, for every
  policy: a period of less than a second ends while times of before the trip
  are still in the window, and one below zero never begins.

  Main results:
    • `Recalls.isLocked_eq`, `Recalls.length_record` — nothing that matters is forgotten,
    • `Recalls.step` — one request,
    • `forgets_nothing_needed` — a whole run of many clients.
-/
import SealedDrop.Proofs.Server.Independence

namespace SealedDrop.RateLimit

/-! ## §1. Histories -/

/-- Everything about one client. -/
structure History (τ : Type) where
  /-- The times of all requests that met no lock-out, oldest first. -/
  recorded : List τ
  /-- The times of all requests that tripped the limit, oldest first. -/
  trips : List τ

/-- Nothing has happened. -/
def History.empty {τ : Type} : History τ := ⟨[], []⟩

section Histories

variable {τ : Type} [CommRing τ] [LinearOrder τ]

namespace History

/-- Whether some lock-out lasts: a trip that is no longer ago than the period. -/
def isLocked (p : Policy τ) (now : τ) (h : History τ) : Bool :=
  h.trips.any fun t => now - t ≤ p.lockout

/-- How many recorded times lie within the last second, this one included. -/
def recent (now : τ) (h : History τ) : Nat :=
  (h.recorded ++ [now]).countP fun t => now - t ≤ 1

/-- Whether a request is admitted, and the history afterwards. -/
def step (p : Policy τ) (now : τ) (h : History τ) : Bool × History τ :=
  if h.isLocked p now then (false, h)
  else if p.maxPerSecond < h.recent now then (false, ⟨h.recorded ++ [now], h.trips ++ [now]⟩)
  else (true, ⟨h.recorded ++ [now], h.trips⟩)

end History

/-- The histories of all clients. -/
abbrev Archive (τ : Type) := Text → History τ

namespace Archive

/-- Nothing has happened to anybody. -/
def empty {τ : Type} : Archive τ := fun _ => History.empty

/-- Whether a request is admitted, and the histories afterwards. -/
def step (p : Policy τ) (archive : Archive τ) (a : Arrival τ) : Bool × Archive τ :=
  match a.counted with
  | none => (true, archive)
  | some c =>
    let (ok, h) := (archive c).step p a.time
    (ok, fun d => if d = c then h else archive d)

/-- For each arrival in order, whether it is admitted. -/
def verdicts (p : Policy τ) (archive : Archive τ) : List (Arrival τ) → List Bool
  | [] => []
  | a :: arrivals => (archive.step p a).1 :: verdicts p (archive.step p a).2 arrivals

variable {p : Policy τ} {archive : Archive τ} {a : Arrival τ} {client : Text}

theorem step_counted (h : a.counted = some client) :
    (archive.step p a).1 = ((archive client).step p a.time).1
      ∧ (archive.step p a).2 client = ((archive client).step p a.time).2 := by
  unfold step
  rw [h]
  exact ⟨rfl, if_pos rfl⟩

theorem step_uncounted (h : a.counted ≠ some client) :
    (archive.step p a).2 client = archive client := by
  unfold step
  cases hc : a.counted with
  | none => rfl
  | some other =>
    have hne : ¬ client = other := by
      rintro rfl
      exact h hc
    exact if_neg hne

end Archive

end Histories

/-! ## §2. What a lane recalls -/

/-- Some of the times in order, and behind them one that is not before the last. -/
theorem sorted_concat {τ : Type} [LinearOrder τ] {times kept : List τ} {now later : τ}
    (hsorted : (times ++ [now]).Pairwise (· ≤ ·)) (hkept : kept.Sublist (times ++ [now]))
    (hlater : now ≤ later) : (kept ++ [later]).Pairwise (· ≤ ·) := by
  refine List.pairwise_append.mpr ⟨hsorted.sublist hkept, List.pairwise_singleton _ _, ?_⟩
  intro t ht x hx
  rw [List.mem_singleton.mp hx]
  exact (le_last hsorted t (hkept.subset ht)).trans hlater

section Recalls

variable {τ : Type} [CommRing τ] [LinearOrder τ]

/-- A lane has kept what can still matter of a history at a time. -/
structure Recalls (p : Policy τ) (now : τ) (l : Lane τ) (h : History τ) : Prop where
  /-- The window is the end of what was recorded; the rest is more than a second old. -/
  window : ∃ forgotten, h.recorded = forgotten ++ l.window ∧ ∀ t ∈ forgotten, 1 < now - t
  /-- Times were recorded in order. -/
  sorted : (h.recorded ++ [now]).Pairwise (· ≤ ·)
  /-- No trip lies ahead. -/
  past : ∀ t ∈ h.trips, t ≤ now
  /-- A lock-out that is kept is the last one. -/
  locked : ∀ t, l.lockedAt = some t → t ∈ h.trips ∧ ∀ x ∈ h.trips, x ≤ t
  /-- If none is kept, all are over. -/
  unlocked : l.lockedAt = none → ∀ t ∈ h.trips, p.lockout < now - t

theorem recalls_fresh (p : Policy τ) (now : τ) : Recalls p now Lane.fresh History.empty where
  window := ⟨[], rfl, fun _ ht => absurd ht List.not_mem_nil⟩
  sorted := List.pairwise_singleton _ _
  past := fun _ ht => absurd ht List.not_mem_nil
  locked := fun _ ht => nomatch ht
  unlocked := fun _ _ ht => absurd ht List.not_mem_nil

namespace Recalls

variable {p : Policy τ} {now later : τ} {l : Lane τ} {h : History τ}

/-- What a lane forgets when it records a time is more than a second old by then. -/
theorem record (hr : Recalls p now l h) :
    ∃ forgotten, h.recorded ++ [now] = forgotten ++ l.record now
      ∧ ∀ t ∈ forgotten, 1 < now - t := by
  obtain ⟨forgotten, hrecorded, hold⟩ := hr.window
  obtain ⟨dropped, hsplit, hdropped⟩ := exists_pruned now (l.window ++ [now])
  refine ⟨forgotten ++ dropped, ?_, ?_⟩
  · rw [hrecorded, List.append_assoc, List.append_assoc, Lane.record, ← hsplit]
  · intro t ht
    rcases List.mem_append.mp ht with ht | ht
    · exact hold t ht
    · exact hdropped t ht

variable [IsStrictOrderedRing τ]

/-- **What does not matter now does not matter later.** -/
theorem mono (hr : Recalls p now l h) (hlater : now ≤ later) : Recalls p later l h := by
  obtain ⟨forgotten, hrecorded, hold⟩ := hr.window
  refine ⟨⟨forgotten, hrecorded, ?_⟩, sorted_concat hr.sorted (List.sublist_append_left _ _) hlater,
    fun t ht => (hr.past t ht).trans hlater, hr.locked, ?_⟩
  · intro t ht
    linarith [hold t ht]
  · intro hnone t ht
    linarith [hr.unlocked hnone t ht]

/-- **A lane is locked exactly while some lock-out lasts.** -/
theorem isLocked_eq (hr : Recalls p now l h) : l.isLocked p now = h.isLocked p now := by
  unfold History.isLocked
  rw [Bool.eq_iff_iff, Lane.isLocked_iff, List.any_eq_true]
  constructor
  · rintro ⟨t, ht, hlasts⟩
    exact ⟨t, (hr.locked t ht).1, decide_eq_true (le_of_not_gt hlasts)⟩
  · rintro ⟨x, hx, hlasts⟩
    have hlasts : now - x ≤ p.lockout := of_decide_eq_true hlasts
    cases ht : l.lockedAt with
    | none => exact absurd hlasts (not_le_of_gt (hr.unlocked ht x hx))
    | some t =>
      -- the last lock-out outlasts all others
      have hxt : x ≤ t := (hr.locked t ht).2 x hx
      refine ⟨t, rfl, ?_⟩
      linarith

/-- **The window after a request holds as many times as were recorded within the last second.** -/
theorem length_record (hr : Recalls p now l h) : (l.record now).length = h.recent now := by
  obtain ⟨forgotten, hrecorded, hold⟩ := hr.window
  have hsorted : (l.window ++ [now]).Pairwise (· ≤ ·) := by
    refine hr.sorted.sublist ?_
    rw [hrecorded, List.append_assoc]
    exact List.sublist_append_right _ _
  -- what the lane has forgotten is older than a second, so it does not count
  have hnone : forgotten.countP (fun t => now - t ≤ 1) = 0 := by
    rw [List.countP_eq_zero]
    intro t ht
    rw [decide_eq_true_eq]
    exact not_le_of_gt (hold t ht)
  have hsame : ∀ t ∈ l.window ++ [now],
      decide (now - 1 ≤ t) = true ↔ decide (now - t ≤ 1) = true := by
    intro t _
    rw [decide_eq_true_eq, decide_eq_true_eq, sub_le_comm]
  calc (l.record now).length
      = (l.window ++ [now]).countP (fun t => now - 1 ≤ t) := by
        rw [Lane.record, prune_of_sorted hsorted, List.countP_eq_length_filter]
    _ = (l.window ++ [now]).countP (fun t => now - t ≤ 1) := List.countP_congr hsame
    _ = forgotten.countP (fun t => now - t ≤ 1)
          + (l.window ++ [now]).countP (fun t => now - t ≤ 1) := by rw [hnone, Nat.zero_add]
    _ = h.recent now := by
        rw [History.recent, hrecorded, List.append_assoc, ← List.countP_append]

/-- **A lane and the history that it recalls decide the same**, and the lane that is left recalls
the history that is left. -/
theorem step (hr : Recalls p now l h) :
    (l.step p now).1 = (h.step p now).1 ∧ Recalls p now (l.step p now).2 (h.step p now).2 := by
  have hlocked : l.isLocked p now = h.isLocked p now := hr.isLocked_eq
  have hcount : (l.record now).length = h.recent now := hr.length_record
  have hsorted : ((h.recorded ++ [now]) ++ [now]).Pairwise (· ≤ ·) :=
    sorted_concat hr.sorted (List.Sublist.refl _) (le_refl now)
  unfold History.step
  rcases Lane.step_cases p l now with ⟨hyes, hstep⟩ | ⟨hno, hover, hstep⟩ | ⟨hno, hfits, hstep⟩
  · -- a lock-out lasts
    rw [hstep, ← hlocked, if_pos hyes]
    exact ⟨rfl, hr⟩
  · -- one request too many: it is the last trip from now on
    have hopen : ¬ h.isLocked p now = true := by
      rw [← hlocked, hno]
      decide
    have hpast : ∀ t ∈ h.trips ++ [now], t ≤ now := by
      intro t ht
      rcases List.mem_append.mp ht with ht | ht
      · exact hr.past t ht
      · exact le_of_eq (List.mem_singleton.mp ht)
    rw [hcount] at hover
    rw [hstep, if_neg hopen, if_pos hover]
    refine ⟨rfl, hr.record, hsorted, hpast, ?_, (fun hnone => nomatch hnone)⟩
    intro t ht
    injection ht with ht
    subst ht
    exact ⟨List.mem_append_right _ List.mem_cons_self, hpast⟩
  · -- within the limit: the request has met no lock-out, so all are over
    have hopen : ¬ h.isLocked p now = true := by
      rw [← hlocked, hno]
      decide
    rw [hcount] at hfits
    rw [hstep, if_neg hopen, if_neg (Int.not_lt.mpr hfits)]
    refine ⟨rfl, hr.record, hsorted, hr.past, (fun t ht => nomatch ht), ?_⟩
    intro _ t ht
    refine lt_of_not_ge fun hlasts => hopen ?_
    exact List.any_eq_true.mpr ⟨t, ht, decide_eq_true hlasts⟩

end Recalls

/-! ## §3. Runs of many clients -/

/-- Every lane recalls the history of its client. -/
def State.Recalls (p : Policy τ) (now : τ) (s : State τ) (archive : Archive τ) : Prop :=
  ∀ client, RateLimit.Recalls p now (s.lane client) (archive client)

section Runs

variable [IsStrictOrderedRing τ] {p : Policy τ} {s : State τ} {archive : Archive τ}

/-- **The limiter and the archive decide the same on one arrival**, and what they leave still
agrees. -/
theorem State.Recalls.step {a : Arrival τ} (hr : s.Recalls p a.time archive) :
    (step p s a).1 = (archive.step p a).1
      ∧ (RateLimit.step p s a).2.Recalls p a.time (archive.step p a).2 := by
  constructor
  · cases hc : a.counted with
    | none =>
      unfold RateLimit.step Archive.step
      rw [hc]
    | some client =>
      rw [(step_counted hc).1, (Archive.step_counted hc).1, (hr client).step.1]
  · intro client
    by_cases hc : a.counted = some client
    · rw [(step_counted hc).2, (Archive.step_counted hc).2]
      exact (hr client).step.2
    · rw [step_uncounted hc, Archive.step_uncounted hc]
      exact hr client

/-- From states that agree, a run at times that do not decrease gets the same verdicts. -/
theorem State.Recalls.verdicts_eq {now : τ} (hr : s.Recalls p now archive)
    {arrivals : List (Arrival τ)} (hsorted : (now :: arrivals.map Arrival.time).Pairwise (· ≤ ·)) :
    verdicts p s arrivals = archive.verdicts p arrivals := by
  induction arrivals generalizing now s archive with
  | nil => rfl
  | cons a arrivals ih =>
    rw [List.map_cons, List.pairwise_cons] at hsorted
    have hnow : now ≤ a.time := hsorted.1 a.time List.mem_cons_self
    obtain ⟨hverdict, hleft⟩ := State.Recalls.step fun client => (hr client).mono hnow
    unfold verdicts Archive.verdicts
    rw [hverdict, ih hleft hsorted.2]

/-- **The limiter admits and refuses exactly what it would if it forgot nothing**: for every policy,
any number of clients, and requests in any order at times that do not decrease. -/
theorem forgets_nothing_needed (p : Policy τ) (arrivals : List (Arrival τ))
    (hsorted : (arrivals.map Arrival.time).Pairwise (· ≤ ·)) :
    verdicts p [] arrivals = Archive.empty.verdicts p arrivals := by
  cases arrivals with
  | nil => rfl
  | cons a arrivals =>
    have hfresh : State.Recalls p a.time [] Archive.empty := fun _ => recalls_fresh p a.time
    refine hfresh.verdicts_eq ?_
    rw [List.map_cons, List.pairwise_cons] at hsorted ⊢
    refine ⟨?_, List.pairwise_cons.mpr hsorted⟩
    intro t ht
    rcases List.mem_cons.mp ht with rfl | ht
    · exact le_refl _
    · exact hsorted.1 t ht

end Runs

end Recalls

/-! ## §4. A short lock-out -/

/-- Two clients under a limit of one and a lock-out of half a second: the first trips, meets the
lock-out at its very end, trips again behind it because of times of before, and is admitted once
these are old. -/
def shortLockout : List (Arrival ℚ) :=
  [visit "a" 0, visit "b" 0, visit "a" (1 / 4), visit "a" (3 / 4), visit "a" (4 / 5),
    ⟨some "a", "OPTIONS", 1⟩, visit "b" 1, visit "b" 2, visit "a" 2]

theorem forgets_nothing_needed_short :
    (shortLockout.map Arrival.time).Pairwise (· ≤ ·)
      ∧ verdicts ⟨1, 1 / 2⟩ [] shortLockout = Archive.empty.verdicts ⟨1, 1 / 2⟩ shortLockout
      ∧ verdicts ⟨1, 1 / 2⟩ [] shortLockout
        = [true, true, false, false, false, true, false, false, true] := by
  have hsorted : (shortLockout.map Arrival.time).Pairwise (· ≤ ·) := by decide +kernel
  exact ⟨hsorted, forgets_nothing_needed ⟨1, 1 / 2⟩ shortLockout hsorted, by decide +kernel⟩

end SealedDrop.RateLimit
