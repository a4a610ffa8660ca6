/-
  SealedDrop.Server.RateLimit
  ───────────────────────────
  **A SLIDING ONE-SECOND WINDOW PER CLIENT, WITH LOCK-OUT.**

  Each client has a lane: the times of its recent requests, oldest first, and
  the time of the request that locked it out, if it is locked out.  A request

    * is refused while the lock-out lasts, without being recorded;
    * otherwise ends the lock-out, is recorded, and times more than a second
      old are forgotten from the front;
    * trips the limit if the lane then holds more times than allowed: it is
      refused, and the lock-out starts.

  Lanes do not see each other.  Requests without a client address and
  pre-flight requests pass unseen.  Times are values of any type with
  subtraction, order and a unit; the service uses doubles, exact numbers serve
  as well.  A lock-out of whole seconds is compared with differences of doubles
  as the whole number that it is.

  Main statement: setting one lane leaves every other lane as it was
  (`State.lane_setLane`).
-/
import SealedDrop.Journal.Entry
import SealedDrop.Number.Double

namespace SealedDrop.RateLimit

variable {τ : Type} [Sub τ] [LT τ] [DecidableLT τ] [OfNat τ 1]

/-! ## §1. Lanes -/

/-- How much is allowed. -/
structure Policy (τ : Type) where
  /-- The number of requests allowed within one second. -/
  maxPerSecond : Int
  /-- How long a client is locked out. -/
  lockout : τ

/-- A policy with a lock-out of whole seconds. -/
def Policy.ofSeconds (maxPerSecond lockout : Int) : Policy Float :=
  ⟨maxPerSecond, Double.floorOfInt lockout⟩

/-- What is remembered about one client. -/
structure Lane (τ : Type) where
  /-- The times of recent requests, oldest first. -/
  window : List τ
  /-- When the lock-out started. -/
  lockedAt : Option τ

/-- A client not seen before. -/
def Lane.fresh {τ : Type} : Lane τ := ⟨[], none⟩

/-- The times not more than a second old, cut off at the first of them. -/
def prune (now : τ) (window : List τ) : List τ := window.dropWhile fun t => 1 < now - t

namespace Lane

/-- Whether the lock-out still lasts. -/
def isLocked (p : Policy τ) (now : τ) (l : Lane τ) : Bool :=
  match l.lockedAt with
  | none => false
  | some t => !(p.lockout < now - t)

/-- The window after a request. -/
def record (now : τ) (l : Lane τ) : List τ := prune now (l.window ++ [now])

/-- Whether a request is admitted, and the lane afterwards. -/
def step (p : Policy τ) (now : τ) (l : Lane τ) : Bool × Lane τ :=
  if l.isLocked p now then (false, l)
  else
    let window := l.record now
    if p.maxPerSecond < window.length then (false, ⟨window, some now⟩)
    else (true, ⟨window, none⟩)

end Lane

/-! ## §2. The limiter -/

/-- The lanes of all clients seen, each under its address. -/
abbrev State (τ : Type) := List (Text × Lane τ)

namespace State

/-- The lane of a client. -/
def lane {τ : Type} (s : State τ) (client : Text) : Lane τ :=
  match s.find? fun e => e.1 = client with
  | some e => e.2
  | none => Lane.fresh

/-- The state with one lane set. -/
def setLane {τ : Type} (client : Text) (l : Lane τ) : State τ → State τ
  | [] => [(client, l)]
  | (c, k) :: s => if c = client then (c, l) :: s else (c, k) :: setLane client l s

end State

/-- A request as the limiter sees it. -/
structure Arrival (τ : Type) where
  /-- The address of the client, if it has one. -/
  client : Option Text
  /-- The method. -/
  method : Text
  /-- When it arrives. -/
  time : τ

/-- The client whose lane a request uses; pre-flight requests use none. -/
def Arrival.counted {τ : Type} (a : Arrival τ) : Option Text :=
  if a.method = "OPTIONS" then none else a.client

/-- Whether a request is admitted, and the lanes afterwards. -/
def step (p : Policy τ) (s : State τ) (a : Arrival τ) : Bool × State τ :=
  match a.counted with
  | none => (true, s)
  | some c =>
    let (ok, l) := (s.lane c).step p a.time
    (ok, s.setLane c l)

/-- What the journal says about a refused client. -/
def refusedEntry (client : Text) : Journal.Entry :=
  .warning ("Rate limit exceeded for " ++ client)

/-! ## §3. Laws -/

omit [OfNat τ 1] [Sub τ] [LT τ] [DecidableLT τ] in
theorem State.lane_setLane (s : State τ) (c d : Text) (l : Lane τ) :
    (s.setLane c l).lane d = if d = c then l else s.lane d := by
  induction s with
  | nil => by_cases h : d = c <;> simp [setLane, lane, h, eq_comm]
  | cons e s ih =>
    obtain ⟨k, m⟩ := e
    unfold lane at ih ⊢
    by_cases hk : k = c
    · by_cases h : d = c
      · simp [setLane, hk, h]
      · have : ¬ c = d := fun e => h e.symm
        simp [setLane, hk, h, this]
    · by_cases hd : k = d
      · have : ¬ d = c := fun e => hk (hd.trans e)
        simp [setLane, hd, this]
      · simp only [setLane, hk, if_false, List.find?_cons, hd, decide_false]
        exact ih

end SealedDrop.RateLimit
