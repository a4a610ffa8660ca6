/-
  SealedDrop.Proofs.Server.Lane
  ─────────────────────────────
  **WHAT A LANE REMEMBERS, AND WHAT FOLLOWS FROM IT.**

  `Lane.record` forgets times from the front of the window, and only when a
  request is recorded.  So what matters about a lane is how its window relates
  to everything that was ever recorded in it:

      recorded — the times of all requests that met no lock-out
      admitted — the times of the requests that were let through

  The window is the end of what was recorded, and whatever is missing from it
  was already more than a second old when some request came
  (`exists_forgotten`).  As times do not decrease, the window holds every
  recorded time of the second before the newest one, and right after a request
  is recorded it holds nothing else.  The first half bounds what is admitted;
  the second says that a lane refuses nobody who keeps to the limit.

  Times are exact numbers from §3 on: of any ordered ring, so rational or real.

  Main results:
    • `step_cases` — every way a request can end,
    • `exists_forgotten` — the window against what was recorded,
    • `countP_admitted_le` — what is admitted within a second,
    • `step_of_sparse` — whoever keeps to the limit is admitted,
    • `after_of_locked`, `step_of_released` — a lock-out, and the request behind it.
-/
import Mathlib.Data.List.Induction
import Mathlib.Data.List.TakeWhile
import Mathlib.Tactic.Linarith
import SealedDrop.Server.RateLimit

namespace SealedDrop.RateLimit

section Lanes

variable {τ : Type} [Sub τ] [LT τ] [DecidableLT τ] [OfNat τ 1]

/-! ## §1. One request -/

/-- What is pruned is more than a second old. -/
theorem exists_pruned (now : τ) (window : List τ) :
    ∃ dropped, window = dropped ++ prune now window ∧ ∀ t ∈ dropped, 1 < now - t := by
  refine ⟨window.takeWhile fun t => 1 < now - t, List.takeWhile_append_dropWhile.symm, ?_⟩
  intro t ht
  have hold := List.mem_takeWhile_imp ht
  exact of_decide_eq_true hold

namespace Lane

variable {p : Policy τ} {l : Lane τ} {now t : τ} {times : List τ}

/-- A lane is locked from the trespass on, until more time than the lockout has gone by. -/
theorem isLocked_iff :
    l.isLocked p now = true ↔ ∃ t, l.lockedAt = some t ∧ ¬ p.lockout < now - t := by
  unfold isLocked
  cases l.lockedAt with
  | none => simp
  | some t => simp

/-- **Every way a request can end.**  It meets a lock-out and leaves no trace; or it is recorded,
and the window that it leaves decides. -/
theorem step_cases (p : Policy τ) (l : Lane τ) (now : τ) :
    (l.isLocked p now = true ∧ l.step p now = (false, l))
    ∨ (l.isLocked p now = false ∧ p.maxPerSecond < (l.record now).length
        ∧ l.step p now = (false, ⟨l.record now, some now⟩))
    ∨ (l.isLocked p now = false ∧ ((l.record now).length : Int) ≤ p.maxPerSecond
        ∧ l.step p now = (true, ⟨l.record now, none⟩)) := by
  unfold step
  cases hlocked : l.isLocked p now with
  | true => exact .inl ⟨rfl, rfl⟩
  | false =>
    by_cases hover : p.maxPerSecond < (l.record now).length
    · exact .inr (.inl ⟨rfl, hover, if_pos hover⟩)
    · exact .inr (.inr ⟨rfl, Int.not_lt.mp hover, if_neg hover⟩)

/-- A request that meets a lock-out leaves no trace. -/
theorem step_of_locked (hlocked : l.isLocked p now = true) : l.step p now = (false, l) := by
  unfold step
  rw [hlocked]
  rfl

/-- A request that is recorded within the limit is admitted. -/
theorem step_of_fits (hopen : l.isLocked p now = false)
    (hfits : ((l.record now).length : Int) ≤ p.maxPerSecond) :
    l.step p now = (true, ⟨l.record now, none⟩) := by
  unfold step
  rw [hopen, if_neg (by simp)]
  exact if_neg (Int.not_lt.mpr hfits)

/-- A request that is refused without a lock-out starts one. -/
theorem lockedAt_of_tripped (hopen : l.isLocked p now = false)
    (hrefused : (l.step p now).1 = false) : (l.step p now).2.lockedAt = some now := by
  rcases step_cases p l now with ⟨hlocked, _⟩ | ⟨_, _, hstep⟩ | ⟨_, _, hstep⟩
  · rw [hopen] at hlocked
    cases hlocked
  · rw [hstep]
  · rw [hstep] at hrefused
    cases hrefused

/-- A request behind a second without any is recorded alone. -/
theorem record_of_old (hself : ¬ 1 < now - now) (hold : ∀ x ∈ l.window, 1 < now - x) :
    l.record now = [now] := by
  unfold record prune
  rw [List.dropWhile_append_of_pos fun x hx => decide_eq_true (hold x hx), List.dropWhile_cons,
    if_neg (mt of_decide_eq_true hself)]

/-! ## §2. Requests in order -/

/-- The lane after requests at times. -/
def after (p : Policy τ) (l : Lane τ) (times : List τ) : Lane τ :=
  times.foldl (fun l t => (l.step p t).2) l

/-- The times of the requests that are admitted. -/
def admitted (p : Policy τ) (l : Lane τ) : List τ → List τ
  | [] => []
  | t :: times => (if (l.step p t).1 then [t] else []) ++ admitted p (l.step p t).2 times

/-- The times that are recorded: those of the requests that meet no lock-out. -/
def recorded (p : Policy τ) (l : Lane τ) : List τ → List τ
  | [] => []
  | t :: times => (if l.isLocked p t then [] else [t]) ++ recorded p (l.step p t).2 times

theorem after_append (p : Policy τ) (l : Lane τ) (times later : List τ) :
    l.after p (times ++ later) = (l.after p times).after p later :=
  List.foldl_append

/-- The last request meets the lane that the others leave. -/
theorem after_concat (p : Policy τ) (l : Lane τ) (times : List τ) (now : τ) :
    l.after p (times ++ [now]) = ((l.after p times).step p now).2 :=
  after_append p l times [now]

/-- It is admitted or not, behind the others. -/
theorem admitted_concat (p : Policy τ) (l : Lane τ) (times : List τ) (now : τ) :
    l.admitted p (times ++ [now])
      = l.admitted p times ++ (if ((l.after p times).step p now).1 then [now] else []) := by
  induction times generalizing l with
  | nil => exact List.append_nil _
  | cons t times ih =>
    rw [List.cons_append]
    unfold admitted
    rw [ih, List.append_assoc]
    rfl

/-- It is recorded unless the lane is locked. -/
theorem recorded_concat (p : Policy τ) (l : Lane τ) (times : List τ) (now : τ) :
    l.recorded p (times ++ [now])
      = l.recorded p times ++ (if (l.after p times).isLocked p now then [] else [now]) := by
  induction times generalizing l with
  | nil => exact List.append_nil _
  | cons t times ih =>
    rw [List.cons_append]
    unfold recorded
    rw [ih, List.append_assoc]
    rfl

/-- What is recorded are times of requests, in their order. -/
theorem recorded_sublist (p : Policy τ) (l : Lane τ) (times : List τ) :
    (l.recorded p times).Sublist times := by
  induction times generalizing l with
  | nil => exact .slnil
  | cons t times ih =>
    unfold recorded
    split
    · exact (ih _).cons t
    · exact (ih _).cons_cons t

/-- What is admitted is recorded. -/
theorem admitted_sublist (p : Policy τ) (l : Lane τ) (times : List τ) :
    (l.admitted p times).Sublist (l.recorded p times) := by
  induction times generalizing l with
  | nil => exact .slnil
  | cons t times ih =>
    unfold admitted recorded
    rcases step_cases p l t with ⟨hlocked, hstep⟩ | ⟨hopen, _, hstep⟩ | ⟨hopen, _, hstep⟩
    · rw [hlocked, hstep]
      exact ih l
    · rw [hopen, hstep]
      exact (ih _).cons t
    · rw [hopen, hstep]
      exact (ih _).cons_cons t

/-- **The window is the end of what was recorded**, and what is missing was more than a second old
when some request came. -/
theorem exists_forgotten (p : Policy τ) (times : List τ) :
    ∃ forgotten, fresh.recorded p times = forgotten ++ (fresh.after p times).window
      ∧ ∀ t ∈ forgotten, ∃ now ∈ times, 1 < now - t := by
  induction times using List.reverseRecOn with
  | nil => exact ⟨[], rfl, fun t ht => absurd ht List.not_mem_nil⟩
  | append_singleton times now ih =>
    obtain ⟨forgotten, hrecorded, hold⟩ := ih
    have hkept : ∀ t ∈ forgotten, ∃ x ∈ times ++ [now], 1 < x - t := by
      intro t ht
      obtain ⟨x, hx, hlate⟩ := hold t ht
      exact ⟨x, List.mem_append_left _ hx, hlate⟩
    rw [recorded_concat, after_concat, hrecorded]
    cases hlocked : (fresh.after p times).isLocked p now with
    | true =>
      rw [step_of_locked hlocked]
      exact ⟨forgotten, List.append_nil _, hkept⟩
    | false =>
      -- the request is recorded behind the window, and what it prunes is forgotten
      have hwindow : ((fresh.after p times).step p now).2.window
          = prune now ((fresh.after p times).window ++ [now]) := by
        rcases step_cases p (fresh.after p times) now with ⟨hyes, _⟩ | ⟨_, _, hstep⟩ | ⟨_, _, hstep⟩
        · rw [hlocked] at hyes
          cases hyes
        · rw [hstep]
          rfl
        · rw [hstep]
          rfl
      obtain ⟨dropped, hsplit, hdropped⟩ :=
        exists_pruned now ((fresh.after p times).window ++ [now])
      refine ⟨forgotten ++ dropped, ?_, ?_⟩
      · rw [hwindow, List.append_assoc, List.append_assoc, ← hsplit]
        rfl
      · intro t ht
        rcases List.mem_append.mp ht with ht | ht
        · exact hkept t ht
        · exact ⟨now, List.mem_append_right _ List.mem_cons_self, hdropped t ht⟩

/-- The window holds times of requests, in their order. -/
theorem window_sublist (p : Policy τ) (times : List τ) :
    (fresh.after p times).window.Sublist times := by
  obtain ⟨forgotten, hrecorded, _⟩ := exists_forgotten p times
  refine List.Sublist.trans ?_ (recorded_sublist p fresh times)
  rw [hrecorded]
  exact List.sublist_append_right _ _

/-- **A lock-out is as it was after every request that meets it.** -/
theorem after_of_locked (hlocked : ∀ t ∈ times, l.isLocked p t = true) : l.after p times = l := by
  induction times with
  | nil => rfl
  | cons t times ih =>
    show (l.step p t).2.after p times = l
    rw [step_of_locked (hlocked t List.mem_cons_self)]
    exact ih fun x hx => hlocked x (List.mem_cons_of_mem _ hx)

end Lane

end Lanes

/-! ## §3. Times in order -/

/-- Of times in order none is later than the last. -/
theorem le_last {τ : Type} [LinearOrder τ] {times : List τ} {now : τ}
    (hsorted : (times ++ [now]).Pairwise (· ≤ ·)) : ∀ x ∈ times ++ [now], x ≤ now := by
  intro x hx
  rcases List.mem_append.mp hx with hx | hx
  · exact (List.pairwise_append.mp hsorted).2.2 x hx now List.mem_cons_self
  · exact le_of_eq (List.mem_singleton.mp hx)

section Seconds

variable {τ : Type} [CommRing τ] [LinearOrder τ] [IsStrictOrderedRing τ]

/-- Whether a time lies in the second, both ends included, that starts at another. -/
def isWithin (start t : τ) : Bool := start ≤ t ∧ t ≤ start + 1

/-- **Pruning a window in order leaves exactly the times of the last second.** -/
theorem prune_of_sorted {now : τ} {window : List τ} (hsorted : window.Pairwise (· ≤ ·)) :
    prune now window = window.filter fun t => now - 1 ≤ t := by
  unfold prune
  induction window with
  | nil => rfl
  | cons t window ih =>
    rw [List.pairwise_cons] at hsorted
    by_cases hold : 1 < now - t
    · have hout : ¬ now - 1 ≤ t := by linarith
      rw [List.dropWhile_cons, if_pos (decide_eq_true hold), ih hsorted.2, List.filter_cons,
        if_neg (mt of_decide_eq_true hout)]
    · rw [List.dropWhile_cons, if_neg (mt of_decide_eq_true hold)]
      -- the times behind one of the last second are of it too
      refine (List.filter_eq_self.mpr ?_).symm
      intro x hx
      have htx : t ≤ x := by
        rcases List.mem_cons.mp hx with rfl | hx
        · exact le_refl _
        · exact hsorted.1 x hx
      rw [decide_eq_true_eq]
      linarith

namespace Lane

variable {p : Policy τ} {l : Lane τ} {now start : τ} {times : List τ}

/-- Every recorded time that is within a second of the newest is in the window. -/
theorem countP_recorded_le (p : Policy τ) (hnew : ∀ x ∈ times, x ≤ start + 1) :
    (fresh.recorded p times).countP (fun t => start ≤ t) ≤ (fresh.after p times).window.length := by
  obtain ⟨forgotten, hrecorded, hold⟩ := exists_forgotten p times
  have hnone : forgotten.countP (fun t => start ≤ t) = 0 := by
    rw [List.countP_eq_zero]
    intro t ht
    obtain ⟨x, hx, hlate⟩ := hold t ht
    rw [decide_eq_true_eq]
    linarith [hnew x hx]
  rw [hrecorded, List.countP_append, hnone, Nat.zero_add]
  exact List.countP_le_length

/-! ## §4. What is admitted within a second -/

/-- **No second sees more requests admitted than the policy allows.** -/
theorem countP_admitted_le (p : Policy τ) (hsorted : times.Pairwise (· ≤ ·)) (start : τ) :
    ((fresh.admitted p times).countP (isWithin start) : Int) ≤ max p.maxPerSecond 0 := by
  induction times using List.reverseRecOn with
  | nil => exact le_max_right _ _
  | append_singleton times now ih =>
    have hbefore := ih (List.pairwise_append.mp hsorted).1
    cases hok : ((fresh.after p times).step p now).1 with
    | false =>
      rw [admitted_concat, hok]
      simpa using hbefore
    | true =>
      by_cases hin : isWithin start now = true
      · -- the newest request is in the second, so the window counts all that is
        have hfits : ((fresh.after p (times ++ [now])).window.length : Int) ≤ p.maxPerSecond := by
          rw [after_concat]
          rcases step_cases p (fresh.after p times) now with
            ⟨_, hstep⟩ | ⟨_, _, hstep⟩ | ⟨_, hle, hstep⟩
          · rw [hstep] at hok
            cases hok
          · rw [hstep] at hok
            cases hok
          · rw [hstep]
            exact hle
        have hnew : ∀ x ∈ times ++ [now], x ≤ start + 1 := fun x hx =>
          (le_last hsorted x hx).trans (of_decide_eq_true hin).2
        have hcount : (fresh.admitted p (times ++ [now])).countP (isWithin start)
            ≤ (fresh.after p (times ++ [now])).window.length := by
          calc (fresh.admitted p (times ++ [now])).countP (isWithin start)
              ≤ (fresh.recorded p (times ++ [now])).countP (isWithin start) :=
                (admitted_sublist p fresh _).countP_le
            _ ≤ (fresh.recorded p (times ++ [now])).countP (fun t => start ≤ t) :=
                List.countP_mono_left fun t _ ht => decide_eq_true (of_decide_eq_true ht).1
            _ ≤ (fresh.after p (times ++ [now])).window.length := countP_recorded_le p hnew
        exact le_max_of_le_left ((Int.ofNat_le.mpr hcount).trans hfits)
      · rw [admitted_concat, hok, List.countP_append]
        simpa [hin] using hbefore

/-! ## §5. Whoever keeps to the limit -/

/-- A request is admitted if the second before it, itself included, saw no more than is allowed. -/
theorem step_of_free (hsorted : (times ++ [now]).Pairwise (· ≤ ·))
    (hlimit : ((times ++ [now]).countP (isWithin (now - 1)) : Int) ≤ p.maxPerSecond)
    (hfree : (fresh.after p times).lockedAt = none) :
    (fresh.after p times).step p now = (true, ⟨(fresh.after p times).record now, none⟩) := by
  have hopen : (fresh.after p times).isLocked p now = false := by
    unfold isLocked
    rw [hfree]
  have hwindow : ((fresh.after p times).window ++ [now]).Sublist (times ++ [now]) :=
    (window_sublist p times).append_right _
  have hcount : ((fresh.after p times).record now).length
      ≤ (times ++ [now]).countP (isWithin (now - 1)) := by
    unfold record
    rw [prune_of_sorted (hsorted.sublist hwindow), ← List.countP_eq_length_filter]
    refine hwindow.countP_le.trans (List.countP_mono_left ?_)
    intro x hx hlate
    refine decide_eq_true ⟨of_decide_eq_true hlate, ?_⟩
    linarith [le_last hsorted x hx]
  exact step_of_fits hopen ((Int.ofNat_le.mpr hcount).trans hlimit)

/-- **Whoever never sends more than is allowed within a second is always admitted.** -/
theorem step_of_sparse (hsorted : (times ++ [now]).Pairwise (· ≤ ·))
    (hsparse : ∀ start, ((times ++ [now]).countP (isWithin start) : Int) ≤ p.maxPerSecond) :
    (fresh.after p times).step p now = (true, ⟨(fresh.after p times).record now, none⟩) := by
  induction times using List.reverseRecOn generalizing now with
  | nil => exact step_of_free hsorted (hsparse _) rfl
  | append_singleton times t ih =>
    have hbefore := ih (List.pairwise_append.mp hsorted).1 fun start =>
      (Int.ofNat_le.mpr (List.sublist_append_left (times ++ [t]) [now]).countP_le).trans
        (hsparse start)
    -- the request before was admitted, so it started no lock-out
    refine step_of_free hsorted (hsparse _) ?_
    rw [after_concat, hbefore]

/-! ## §6. Behind a lock-out -/

/-- **The first request behind a lock-out of a second or more is admitted.** -/
theorem step_of_released {t : τ} (hlocked : l.lockedAt = some t) (hwindow : ∀ x ∈ l.window, x ≤ t)
    (hreleased : p.lockout < now - t) (hsecond : 1 ≤ p.lockout) (hlimit : 1 ≤ p.maxPerSecond) :
    l.step p now = (true, ⟨[now], none⟩) := by
  have hopen : l.isLocked p now = false := by
    unfold isLocked
    rw [hlocked]
    exact Bool.not_eq_false' .. |>.mpr (decide_eq_true hreleased)
  have hrecord : l.record now = [now] := by
    refine record_of_old (by simp) ?_
    intro x hx
    linarith [hwindow x hx]
  have hstep := step_of_fits (p := p) hopen (by rw [hrecord]; exact hlimit)
  rw [hstep, hrecord]

end Lane

end Seconds

end SealedDrop.RateLimit
