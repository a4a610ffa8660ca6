/-
  SealedDrop.Proofs.Server.Window
  ───────────────────────────────
  **A WINDOW IS PRUNED SAFELY, AND STAYS SMALL.**

  A request is recorded at the end of its client's window, and then a loop looks
  at the head of the window, drops it if it is more than a second old, and looks
  again.  It would fail if it ever found no head.  It never does: the time just
  recorded is in the window, and is not a second older than itself.

  How long a window gets is a matter of the lock-out.  A request that trips the
  limit leaves one time too many behind, and nothing prunes them while the
  lock-out lasts; but whatever comes behind a lock-out of a second finds all of
  them old.  `Slim` says so of a lane, and every request keeps it.

  Nothing is asked of times but that none is a second older than itself, and that
  what came earlier is longer ago (`Elapsing`).  Exact numbers are such times,
  and so are finite doubles, although their differences are rounded.

  Main results:
    • `Turns.dropped`, `turns_prune` — how far the loop gets,
    • `prunes_record` — it is safe, it ends, and it leaves the newest time last,
    • `Lane.Slim.step`, `Lane.slim_after` — one request, and any number of them,
    • `windows_stay_small` — every client of every run.
-/
import SealedDrop.Proofs.Server.RateLimit

namespace SealedDrop.RateLimit

section Loops

variable {τ : Type} [Sub τ] [LT τ] [DecidableLT τ] [OfNat τ 1] {now : τ} {window later : List τ}
  {n : Nat}

/-! ## §1. The loop, turn by turn -/

/-- What the loop comes to when it looks at the head of a window. -/
inductive Turn (τ : Type) where
  /-- There is no head. -/
  | fault
  /-- The head is young enough to stay, and the loop ends. -/
  | stop
  /-- The head is dropped, and the loop goes on with the rest. -/
  | drop (rest : List τ)

/-- One look at the head. -/
def turn (now : τ) : List τ → Turn τ
  | [] => .fault
  | t :: rest => if 1 < now - t then .drop rest else .stop

/-- The loop gets from one window to another by dropping so many heads. -/
inductive Turns (now : τ) : Nat → List τ → List τ → Prop where
  | none (window : List τ) : Turns now 0 window window
  | next {n : Nat} {window rest later : List τ} (head : turn now window = .drop rest)
      (more : Turns now n rest later) : Turns now (n + 1) window later

theorem turn_eq_drop_iff {rest : List τ} :
    turn now window = .drop rest ↔ ∃ t, window = t :: rest ∧ 1 < now - t := by
  cases window with
  | nil => simp [turn]
  | cons t w =>
    by_cases hold : 1 < now - t
    · simp [turn, hold, eq_comm]
    · simp [turn, hold]

/-- Whatever has a head can be looked at. -/
theorem turn_ne_fault (h : window ≠ []) : turn now window ≠ .fault := by
  cases window with
  | nil => exact absurd rfl h
  | cons t w => by_cases hold : 1 < now - t <;> simp [turn, hold]

/-- **What the loop has dropped was more than a second old**, and stood in front of what is left. -/
theorem Turns.dropped (h : Turns now n window later) :
    ∃ dropped, window = dropped ++ later ∧ dropped.length = n ∧ ∀ t ∈ dropped, 1 < now - t := by
  induction h with
  | none => exact ⟨[], rfl, rfl, fun t ht => absurd ht List.not_mem_nil⟩
  | next head _ ih =>
    obtain ⟨t, rfl, hold⟩ := turn_eq_drop_iff.mp head
    obtain ⟨dropped, rfl, rfl, hdropped⟩ := ih
    exact ⟨t :: dropped, rfl, rfl, List.forall_mem_cons.mpr ⟨hold, hdropped⟩⟩

/-- **The loop gets to the pruned window.** -/
theorem turns_prune (now : τ) (window : List τ) : ∃ n, Turns now n window (prune now window) := by
  unfold prune
  induction window with
  | nil => exact ⟨0, .none []⟩
  | cons t window ih =>
    by_cases hold : 1 < now - t
    · obtain ⟨n, hn⟩ := ih
      rw [List.dropWhile_cons, if_pos (decide_eq_true hold)]
      exact ⟨n + 1, .next (turn_eq_drop_iff.mpr ⟨t, rfl, hold⟩) hn⟩
    · rw [List.dropWhile_cons, if_neg (mt of_decide_eq_true hold)]
      exact ⟨0, .none _⟩

/-- There it ends, if anything is left. -/
theorem turn_prune (h : prune now window ≠ []) : turn now (prune now window) = .stop := by
  unfold prune at h ⊢
  induction window with
  | nil => exact absurd rfl h
  | cons t window ih =>
    by_cases hold : 1 < now - t
    · rw [List.dropWhile_cons, if_pos (decide_eq_true hold)] at h ⊢
      exact ih h
    · rw [List.dropWhile_cons, if_neg (mt of_decide_eq_true hold)]
      exact if_neg hold

/-- The loop works safely on a window, and leaves another behind. -/
structure Prunes (now : τ) (window final : List τ) : Prop where
  /-- It finds a head at every turn. -/
  safe : ∀ n later, Turns now n window later → turn now later ≠ .fault
  /-- It drops fewer heads than there are times. -/
  bounded : ∀ n later, Turns now n window later → n < window.length
  /-- It gets to the window that it leaves. -/
  reaches : ∃ n, Turns now n window final
  /-- There it ends. -/
  stops : turn now final = .stop
  /-- The newest time is left, and is the last one. -/
  newest : final.getLast? = some now

/-- **Pruning is safe behind a time that was just recorded**, whatever else is in the window. -/
theorem prunes_record (hself : ¬ 1 < now - now) (l : Lane τ) :
    Prunes now (l.window ++ [now]) (l.record now) := by
  -- the time just recorded is never dropped, so something is always left
  have hleft : ∀ dropped later, l.window ++ [now] = dropped ++ later →
      (∀ t ∈ dropped, 1 < now - t) → later ≠ [] := by
    rintro dropped later hsplit hold rfl
    rw [List.append_nil] at hsplit
    exact hself (hold now (hsplit ▸ List.mem_concat_self))
  have hturns : ∀ n later, Turns now n (l.window ++ [now]) later →
      n + later.length = (l.window ++ [now]).length ∧ later ≠ [] := by
    intro n later h
    obtain ⟨dropped, hsplit, rfl, hold⟩ := h.dropped
    refine ⟨?_, hleft dropped later hsplit hold⟩
    rw [hsplit, List.length_append]
  obtain ⟨dropped, hsplit, hold⟩ := exists_pruned now (l.window ++ [now])
  have hrecord : l.record now ≠ [] := hleft dropped _ hsplit hold
  refine ⟨?safe, ?bounded, turns_prune _ _, turn_prune hrecord, ?newest⟩
  case safe =>
    intro n later h
    exact turn_ne_fault (hturns n later h).2
  case bounded =>
    intro n later h
    obtain ⟨hlength, hne⟩ := hturns n later h
    have hpos := List.length_pos_iff.mpr hne
    omega
  case newest =>
    have hsome := List.getLast?_eq_some_getLast hrecord
    calc (l.record now).getLast? = (dropped ++ l.record now).getLast? := by
          rw [List.getLast?_append, hsome, Option.some_or]
      _ = (l.window ++ [now]).getLast? := congrArg List.getLast? hsplit.symm
      _ = some now := List.getLast?_concat

end Loops

/-! ## §2. Times that elapse -/

/-- Times of which none is more than a second older than itself, and what came earlier is longer
ago. -/
class Elapsing (τ : Type) [LinearOrder τ] [Sub τ] [OfNat τ 1] : Prop where
  /-- No time is more than a second older than itself. -/
  self : ∀ now : τ, ¬ 1 < now - now
  /-- What came earlier is longer ago. -/
  earlier : ∀ {t t' : τ} (now : τ), t ≤ t' → now - t' ≤ now - t

/-- Exact numbers elapse. -/
instance {τ : Type} [CommRing τ] [LinearOrder τ] [IsStrictOrderedRing τ] : Elapsing τ where
  self now := by simp
  earlier now h := sub_le_sub_left h now

section Slim

variable {τ : Type} [LinearOrder τ] [Sub τ] [OfNat τ 1] [Elapsing τ]

/-! ## §3. Lanes that are slim -/

namespace Lane

variable {p : Policy τ} {l : Lane τ} {now : τ}

/-- A lane is slim: it holds one time more than is allowed at most, and none too many while it is
open; while it is locked, nothing in it is later than the request that locked it. -/
structure Slim (p : Policy τ) (l : Lane τ) : Prop where
  /-- One time too many at most. -/
  length_le : (l.window.length : Int) ≤ max p.maxPerSecond 0 + 1
  /-- None too many while the lane is open. -/
  length_of_open : l.lockedAt = none → (l.window.length : Int) ≤ max p.maxPerSecond 0
  /-- Nothing later than the start of the lock-out. -/
  before_locked : ∀ t, l.lockedAt = some t → ∀ x ∈ l.window, x ≤ t

omit [Sub τ] [OfNat τ 1] [Elapsing τ] in
theorem slim_fresh (p : Policy τ) : Slim p fresh := by
  have hnone : (0 : Int) ≤ max p.maxPerSecond 0 := le_max_right _ _
  refine ⟨?_, fun _ => hnone, nofun⟩
  show (0 : Int) ≤ max p.maxPerSecond 0 + 1
  omega

omit [Elapsing τ] in
theorem record_sublist (l : Lane τ) (now : τ) : (l.record now).Sublist (l.window ++ [now]) :=
  List.dropWhile_sublist _

/-- **A slim lane that is not locked records one time too many at most.**  If it was open, the
window grows by one time; if a lock-out of a second has just ended, the window is all old. -/
theorem Slim.length_record_le (h : Slim p l) (hsecond : 1 ≤ p.lockout)
    (hopen : l.isLocked p now = false) :
    ((l.record now).length : Int) ≤ max p.maxPerSecond 0 + 1 := by
  cases hlockedAt : l.lockedAt with
  | none =>
    have hgrown : (l.record now).length ≤ l.window.length + 1 := by
      have hle := (record_sublist l now).length_le
      rwa [List.length_append] at hle
    have hallowed := h.length_of_open hlockedAt
    omega
  | some t =>
    -- the lock-out is over, and it took a second at least
    have hover : p.lockout < now - t := by
      by_contra hnot
      rw [isLocked_iff.mpr ⟨t, hlockedAt, hnot⟩] at hopen
      cases hopen
    have hold : ∀ x ∈ l.window, 1 < now - x := fun x hx =>
      calc 1 ≤ p.lockout := hsecond
        _ < now - t := hover
        _ ≤ now - x := Elapsing.earlier now (h.before_locked t hlockedAt x hx)
    rw [record_of_old (Elapsing.self now) hold]
    have hnone : (0 : Int) ≤ max p.maxPerSecond 0 := le_max_right _ _
    show (1 : Int) ≤ max p.maxPerSecond 0 + 1
    omega

/-- **A request keeps a lane slim**, if it comes behind what is in the window. -/
theorem Slim.step (h : Slim p l) (hsecond : 1 ≤ p.lockout) (hlast : ∀ x ∈ l.window, x ≤ now) :
    Slim p (l.step p now).2 := by
  rcases step_cases p l now with ⟨_, hstep⟩ | ⟨hopen, _, hstep⟩ | ⟨hopen, hfits, hstep⟩
  · rw [hstep]
    exact h
  · rw [hstep]
    refine ⟨h.length_record_le hsecond hopen, nofun, ?_⟩
    -- the request that locks the lane is the latest in it
    rintro t ht x hx
    obtain rfl : now = t := Option.some.inj ht
    rcases List.mem_append.mp ((record_sublist l now).subset hx) with hx | hx
    · exact hlast x hx
    · exact le_of_eq (List.mem_singleton.mp hx)
  · rw [hstep]
    exact ⟨h.length_record_le hsecond hopen, fun _ => hfits.trans (le_max_left _ _), nofun⟩

/-- **Requests at times in order keep a lane slim.** -/
theorem slim_after (hsecond : 1 ≤ p.lockout) {times : List τ} (hsorted : times.Pairwise (· ≤ ·)) :
    Slim p (fresh.after p times) := by
  induction times using List.reverseRecOn with
  | nil => exact slim_fresh p
  | append_singleton times now ih =>
    rw [after_concat]
    refine (ih (List.pairwise_append.mp hsorted).1).step hsecond fun x hx => ?_
    exact le_last hsorted x (List.mem_append_left _ ((window_sublist p times).subset hx))

end Lane

/-! ## §4. Every client of every run -/

/-- **The loop that prunes a window is safe, and windows stay small.**  From every state of every
run, at whatever times its requests came and at whatever time the next one of a client comes, the
loop on the client's window with the new time finds a head at every turn, ends, and leaves the new
time last; what it leaves is the client's window from then on, unless the client is locked out and
nothing is recorded.  If the client's requests come in order and a lock-out takes a second or more,
its window is in order, and holds one time more than is allowed at most. -/
theorem windows_stay_small (p : Policy τ) (client : Text) (arrivals : List (Arrival τ)) :
    let l := (State.after p [] arrivals).lane client
    (∀ a : Arrival τ, a.counted = some client →
      Prunes a.time (l.window ++ [a.time]) (l.record a.time)
      ∧ ((step p (State.after p [] arrivals) a).2.lane client).window
        = if l.isLocked p a.time then l.window else l.record a.time)
    ∧ ((timesOf client arrivals).Pairwise (· ≤ ·) → 1 ≤ p.lockout →
      l.window.Pairwise (· ≤ ·) ∧ (l.window.length : Int) ≤ max p.maxPerSecond 0 + 1) := by
  intro l
  constructor
  · intro a ha
    refine ⟨prunes_record (Elapsing.self a.time) l, ?_⟩
    rw [(step_counted ha).2]
    rcases Lane.step_cases p l a.time with ⟨hlocked, hstep⟩ | ⟨hopen, _, hstep⟩ | ⟨hopen, _, hstep⟩
    · rw [hstep, hlocked]
      rfl
    · rw [hstep, hopen]
      rfl
    · rw [hstep, hopen]
      rfl
  · intro hsorted hsecond
    -- the lane is that of the client's own times, from a fresh one
    have hlane : l = Lane.fresh.after p (timesOf client arrivals) := lane_after p [] client arrivals
    rw [hlane]
    exact ⟨hsorted.sublist (Lane.window_sublist p _), (Lane.slim_after hsecond hsorted).length_le⟩

end Slim

/-- The burst trips a limit of two with its third request, and leaves three times behind; the request
behind the lock-out finds all of them old. -/
theorem windows_stay_small_burst :
    let l := (State.after ⟨2, 1⟩ [] burst).lane "a"
    let tripped := (State.after ⟨2, 1⟩ [] (burst.take 8)).lane "a"
    (timesOf "a" burst).Pairwise (· ≤ ·) ∧ (1 : ℚ) ≤ 1
      ∧ tripped.window = [0, 1 / 2, 1] ∧ l.window = [9 / 4]
      ∧ Prunes (9 / 4) (tripped.window ++ [9 / 4]) l.window
      ∧ l.window.Pairwise (· ≤ ·) ∧ (l.window.length : Int) ≤ max 2 0 + 1 := by
  intro l tripped
  have hsorted : (timesOf "a" burst).Pairwise (· ≤ ·) := by decide +kernel
  have hpruned := ((windows_stay_small ⟨2, 1⟩ "a" (burst.take 8)).1 (visit "a" (9 / 4)) rfl).1
  have hrecord : tripped.record (9 / 4) = l.window := by decide +kernel
  obtain ⟨hordered, hsmall⟩ := (windows_stay_small ⟨2, 1⟩ "a" burst).2 hsorted le_rfl
  refine ⟨hsorted, le_rfl, by decide +kernel, by decide +kernel, ?_, hordered, hsmall⟩
  rw [← hrecord]
  exact hpruned

end SealedDrop.RateLimit
