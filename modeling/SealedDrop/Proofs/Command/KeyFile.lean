/-
  SealedDrop.Proofs.Command.KeyFile
  ─────────────────────────────────
  **A SIGNING KEY IS WRITTEN ONCE AND NEVER AGAIN.**

  An owner's key is a file that the command line names.  Whoever lost it, or
  found another in its place, could no longer act in the owner's name, for the
  service keeps the public half that came with the registration.  So an order
  may add the file to the directory if its place is free, and does nothing else
  to the directory, however it ends:

      disk after = disk before, with what `saveKey` leaves if the place was free

  This is the key, with its mode, unless the order is stopped from outside
  during the three steps of `saveKey` itself; then it is a part of the key, or a
  key that everybody may still read, and nothing was sent.

  Over a session the additions go to places that are free and differ from each
  other.  What is found at a place at some time is what is found there for ever,
  so all orders whose paths mean that place sign with one key; and the service,
  which keeps its accounts as well, accepts the signatures where they arrive.
  The directory is one that nothing else works on: the lines of the journals go
  to files outside its tree.

  Main results:
    • `carried_of_keyUse`, `carried_of_no_keyUse` — what one order does,
    • `after_disk`, `adds_writtenIn` — the directory after a session,
    • `carriedWith_of_keyUse` — what an order owes its key,
    • `keys_are_never_overwritten` — every order of every session.
-/
import SealedDrop.Command.Session
import SealedDrop.Proofs.Command.Step

namespace SealedDrop.Command

open Client (Arrives ByRegistrant BySigner Serves Signs bodyOf requestOf)
open Directory (Adds)
open Form (SignedPayload)
open Server (Accounts Account Keeps SignsSoundly authenticate readBody)

/-! ## §1. Orders and the keys they name -/

/-- What an order has to do with a key. -/
structure KeyUse where
  /-- Whose key it is. -/
  owner : Text
  /-- The place of its file. -/
  location : Location
  /-- What it is needed for. -/
  errand : Errand
  deriving DecidableEq, Repr

section Orders

variable {τ : Type}

/-- The key that an order names, if its path means a place. -/
def Order.keyUse? (e : Surroundings τ) (d : Directory) (o : Order τ) : Option KeyUse :=
  match o.program, Invocation.ofArguments e.usualServer o.args with
  | .share, .ok ⟨_, .own owner path errand⟩ =>
    (d.meant? (Path.ofText path)).map fun l => ⟨owner, l, errand⟩
  | _, _ => none

/-- A key is named by the line of an owner, whose path means the place. -/
theorem Order.keyUse?_eq_some {e : Surroundings τ} {d : Directory} {o : Order τ} {u : KeyUse}
    (h : o.keyUse? e d = some u) :
    o.program = .share ∧ ∃ server path, d.meant? (Path.ofText path) = some u.location
      ∧ Invocation.ofArguments e.usualServer o.args = .ok ⟨server, .own u.owner path u.errand⟩ := by
  unfold keyUse? at h
  split at h
  next server owner path errand hprogram hline =>
    obtain ⟨l, hl, rfl⟩ := Option.map_eq_some_iff.mp h
    exact ⟨hprogram, server, path, hl, hline⟩
  next => cases h

/-- The place is free in a directory, or there is a file. -/
theorem Order.housed_of_keyUse {e : Surroundings τ} {d : Directory} {o : Order τ} {u : KeyUse}
    (h : o.keyUse? e d = some u) (hfree : d.find? u.location = none) :
    d.isDirectory u.location.dropLast = true := by
  obtain ⟨_, _, _, hmeant, _⟩ := keyUse?_eq_some h
  obtain ⟨_, ⟨f, hf, _⟩ | ⟨_, hfolder, _⟩⟩ := Directory.locate_of_meant hmeant
  · rw [hfree] at hf
    cases hf
  · exact hfolder

/-- **An order names the same place after an addition.** -/
theorem Order.keyUse?_add (e : Surroundings τ) {d : Directory} {new : List File} (h : Adds d new)
    (o : Order τ) : o.keyUse? e (d.add new) = o.keyUse? e d := by
  unfold keyUse?
  simp only [Directory.meant?_add h]

/-- The files that an order writes. -/
def Session.written (e : Surroundings τ) (s : Session τ) (o : Order τ) : List File :=
  match o.keyUse? e s.disk with
  | some u => s.disk.newKeys u.location s.entropy o.cut
  | none => []

/-- Whatever it is, its place was free. -/
theorem Session.adds_written (e : Surroundings τ) (s : Session τ) (o : Order τ) :
    Adds s.disk (written e s o) := by
  unfold written
  split
  next u h => exact Directory.adds_newKeys (Order.housed_of_keyUse h) _ _
  next => exact Directory.adds_nil _

/-- A file is a key that only its owner may read. -/
def IsKeyFile (f : File) : Prop := f.content.length = keySize ∧ f.mode = Mode.ownerOnly

/-- An order is stopped from outside while `saveKey` writes the file at a place. -/
def Order.StoppedSaving (e : Surroundings τ) (d : Directory) (l : Location) (o : Order τ) : Prop :=
  stopsWithin savingSteps o.cut = true ∧ ∃ u, o.keyUse? e d = some u ∧ u.location = l

/-- **What is written is a key**, for the owner alone, unless the order is stopped while saving it. -/
theorem Session.key_of_mem_written {e : Surroundings τ} {s : Session τ} {o : Order τ} {f : File}
    (hf : f ∈ written e s o) : IsKeyFile f ∨ o.StoppedSaving e s.disk f.location := by
  unfold written at hf
  split at hf
  next u h =>
    cases hfind : s.disk.find? u.location with
    | some g =>
      rw [Directory.newKeys_of_some hfind] at hf
      cases hf
    | none =>
      rw [Directory.newKeys_of_none hfind] at hf
      cases hcut : stopsWithin savingSteps o.cut with
      | true => exact .inr ⟨hcut, u, h, (location_of_mem_savedFiles hf).symm⟩
      | false =>
        rw [savedFiles_of_not_stopped hcut] at hf
        rw [List.mem_singleton.mp hf]
        exact .inl ⟨s.entropy.length_draw keySize, rfl⟩
  next => cases hf

/-- The accounts of a service. -/
def accountsOf (t : Server.State τ) : Accounts := t.records.accounts

/-- The accounts do not hang on the secrets. -/
theorem accounts_withSecrets (secrets : Store.Table) (t : Server.State τ) :
    accountsOf (Session.withSecrets secrets t) = accountsOf t := rfl

/-- The accounts of the service. -/
def Session.accounts (s : Session τ) : Accounts := accountsOf s.service

/-- The desk at which an order is carried out. -/
def Session.desk (s : Session τ) (o : Order τ) : Desk (Server.State τ) :=
  ⟨s.service, s.disk, s.entropy, o.answers, [], [], [], o.cut⟩

/-- What spares the accounts keeps them. -/
theorem Session.keeps_of_spares {s : Session τ} {o : Order τ} {d : Desk (Server.State τ)}
    (h : Spares accountsOf (s.desk o) d) :
    d.disk = s.disk ∧ Keeps s.accounts (accountsOf d.server) := by
  refine ⟨h.disk, ?_⟩
  rw [h.server]
  exact .refl _

variable [Sub τ] [LT τ] [DecidableLT τ] [OfNat τ 1]

namespace Session

/-- What owners' orders are carried out with. -/
def setting (e : Surroundings τ) (o : Order τ) : Setting (Server.State τ) :=
  ⟨serveAt e o, e.iterations, o.clock, e.publicUrl, e.usualServer⟩

/-- How an order ends, and the desk after it. -/
def carried (e : Surroundings τ) (s : Session τ) (o : Order τ) :
    Except Ending Unit × Desk (Server.State τ) :=
  (command e o).run.run (s.desk o)

/-- What an order asks for is what is carried out. -/
theorem carried_of_ok {e : Surroundings τ} {s : Session τ} {o : Order τ} {i : Invocation}
    (hprogram : o.program = .share) (hi : Invocation.ofArguments e.usualServer o.args = .ok i) :
    carried e s o = (runTask (setting e o) i.server i.task).run.run (s.desk o) := by
  unfold carried command
  rw [hprogram]
  dsimp only
  unfold shareCommand
  rw [hi, run_bind]
  rfl

/-! ## §2. What one order does -/

variable {e : Surroundings τ} {o : Order τ} {u : KeyUse}

/-- **An order that names a key loads it**, adding it to the directory if its place is free, and
sends what it signs with it. Without a key it breaks off, and nothing is sent. -/
theorem carried_of_keyUse {s : Session τ} (h : o.keyUse? e s.disk = some u) :
    let key := (s.disk.keyFile u.location s.entropy).content
    let c := carried e s o
    c.2.disk = s.disk.add (s.disk.newKeys u.location s.entropy o.cut)
    ∧ Serves (serveAt e o) (u.errand.Sent u.owner key) s.service c.2.server
    ∧ (∀ x ∈ c.2.exchanges, Arrives (serveAt e o) (u.errand.Sent u.owner key) s.service x)
    ∧ ∀ why, keyAt (s.desk o) u.location = .error why →
      c.1 = .error why ∧ c.2.server = s.service ∧ c.2.exchanges = [] := by
  intro key c
  obtain ⟨hprogram, server, path, hmeant, hline⟩ := o.keyUse?_eq_some h
  have hc : c = (runTask (setting e o) server (.own u.owner path u.errand)).run.run (s.desk o) :=
    carried_of_ok hprogram hline
  obtain ⟨hworks, hbad⟩ := runTask_of_meant (d := s.desk o) (setting e o) server u.owner u.errand hmeant
  rw [← hc] at hworks hbad
  -- the desk had seen no exchange before
  obtain ⟨new, hnew, harrives⟩ := hworks.exchanges
  have hexchanges : c.2.exchanges = new := hnew
  exact ⟨hworks.disk, hworks.serves, hexchanges ▸ harrives, hbad⟩

/-- **The errand is done with the key.** -/
theorem carried_of_key {s : Session τ} (h : o.keyUse? e s.disk = some u) {key : Bytes}
    (hkey : keyAt (s.desk o) u.location = .ok key) :
    ∃ server entropy printed cut, carried e s o
      = (runErrand (setting e o) ⟨server, some u.owner, some key⟩ u.owner u.errand).run.run
        { s.desk o with disk := (carried e s o).2.disk, entropy, printed, cut } := by
  obtain ⟨hprogram, server, path, hmeant, hline⟩ := o.keyUse?_eq_some h
  obtain ⟨entropy, printed, cut, hrun⟩ :=
    runTask_of_key (d := s.desk o) (setting e o) server u.owner u.errand hmeant hkey
  refine ⟨server, entropy, printed, cut, ?_⟩
  rw [(carried_of_keyUse h).1]
  exact (carried_of_ok hprogram hline).trans hrun

/-- Requests touch neither the directory nor an account. -/
theorem keeps_of_works {P : Option SignedPayload → Prop} {s : Session τ}
    {d : Desk (Server.State τ)} (h : Works (serveAt e o) P (s.desk o) d) :
    d.disk = s.disk ∧ Keeps s.accounts (accountsOf d.server) :=
  ⟨h.disk, Server.keeps_of_serves h.serves⟩

/-- **An order that names no key leaves the directory as it is**, and the service its accounts. -/
theorem carried_of_no_keyUse {s : Session τ} (h : o.keyUse? e s.disk = none) :
    (carried e s o).2.disk = s.disk
      ∧ Keeps s.accounts (accountsOf (carried e s o).2.server) := by
  cases hprogram : o.program with
  | share =>
    cases hline : Invocation.ofArguments e.usualServer o.args with
    | error stop =>
      have hsame := understand_error stop
        (fun i : Invocation => runTask (setting e o) i.server i.task) (s.desk o)
      unfold carried command
      rw [hprogram]
      dsimp only
      unfold shareCommand
      rw [hline]
      exact keeps_of_spares hsame.spares
    | ok i =>
      obtain ⟨server, task⟩ := i
      rw [carried_of_ok hprogram hline]
      cases task with
      -- the recipient needs no key
      | reveal linkOrId => exact keeps_of_works (runTask_reveal (setting e o) server linkOrId _)
      | own owner path errand =>
        -- the path does not lead to where a file is or could be
        have hmeant : s.disk.meant? (Path.ofText path) = none := by
          unfold Order.keyUse? at h
          rw [hprogram, hline] at h
          exact Option.map_eq_none_iff.mp h
        exact keeps_of_works (runTask_of_not_meant (d := s.desk o) (setting e o) server errand hmeant)
  | purge =>
    have hpurge := purgeCommand_spares secrets accounts_withSecrets o.clock o.args (s.desk o)
    unfold carried command
    rw [hprogram]
    exact keeps_of_spares hpurge
  | tamper =>
    have htamper := tamperCommand_spares secrets accounts_withSecrets o.args (s.desk o)
    unfold carried command
    rw [hprogram]
    exact keeps_of_spares htamper

/-! ## §3. What is written in a session -/

/-- The session after some orders. -/
def after (e : Surroundings τ) (s : Session τ) (orders : List (Order τ)) : Session τ :=
  (runAll e s orders).2

/-- The files that orders write in turn. -/
def writtenIn (e : Surroundings τ) (s : Session τ) : List (Order τ) → List File
  | [] => []
  | o :: r => written e s o ++ writtenIn e (run e s o).2 r

theorem after_cons (e : Surroundings τ) (s : Session τ) (o : Order τ) (r : List (Order τ)) :
    after e s (o :: r) = after e (run e s o).2 r := rfl

theorem after_append (e : Surroundings τ) (s : Session τ) (before rest : List (Order τ)) :
    after e s (before ++ rest) = after e (after e s before) rest := by
  induction before generalizing s with
  | nil => rfl
  | cons o before ih =>
    rw [List.cons_append, after_cons, after_cons]
    exact ih _

/-- **What an order writes is all that it does to the directory.** -/
theorem run_disk (e : Surroundings τ) (s : Session τ) (o : Order τ) :
    (run e s o).2.disk = s.disk.add (written e s o) := by
  unfold written
  cases h : o.keyUse? e s.disk with
  | none =>
    rw [Directory.add_nil]
    exact (carried_of_no_keyUse h).1
  | some u => exact (carried_of_keyUse h).1

/-- **The directory after a session** is the one before with what was written, in order. -/
theorem after_disk (e : Surroundings τ) (s : Session τ) (orders : List (Order τ)) :
    (after e s orders).disk = s.disk.add (writtenIn e s orders) := by
  induction orders generalizing s with
  | nil => exact (Directory.add_nil _).symm
  | cons o orders ih =>
    rw [after_cons, ih, run_disk, Directory.add_add]
    rfl

/-- **Nothing is written twice**, nor at a place that was taken. -/
theorem adds_writtenIn (e : Surroundings τ) (s : Session τ) (orders : List (Order τ)) :
    Adds s.disk (writtenIn e s orders) := by
  -- along the orders; the rest adds to the directory that the first one leaves
  induction orders generalizing s with
  | nil => exact Directory.adds_nil _
  | cons o orders ih =>
    have hrest := ih (run e s o).2
    rw [run_disk] at hrest
    exact (adds_written e s o).trans hrest

/-- An order names the same key whenever it is given. -/
theorem keyUse?_after (e : Surroundings τ) (s : Session τ) (orders : List (Order τ)) (o : Order τ) :
    o.keyUse? e (after e s orders).disk = o.keyUse? e s.disk := by
  rw [after_disk]
  exact Order.keyUse?_add e (adds_writtenIn e s orders) o

/-- **What a session writes is a key**, for its owner alone, unless the order is stopped while saving
it. -/
theorem key_of_mem_writtenIn {s : Session τ} {orders : List (Order τ)} {f : File}
    (hf : f ∈ writtenIn e s orders) :
    IsKeyFile f ∨ ∃ o ∈ orders, o.StoppedSaving e s.disk f.location := by
  induction orders generalizing s with
  | nil => cases hf
  | cons o orders ih =>
    rcases List.mem_append.mp hf with hf | hf
    · exact (key_of_mem_written hf).imp_right fun hcut => ⟨o, List.mem_cons_self, hcut⟩
    · refine (ih hf).imp_right ?_
      rintro ⟨o', ho', hcut, u, hu, hlocation⟩
      rw [run_disk, Order.keyUse?_add e (adds_written e s o)] at hu
      exact ⟨o', List.mem_cons_of_mem o ho', hcut, u, hu, hlocation⟩

/-- A file that is there at some time is there for ever. -/
theorem find?_after {s : Session τ} {l : Location} {f : File} (h : s.disk.find? l = some f)
    (orders : List (Order τ)) : (after e s orders).disk.find? l = some f := by
  rw [after_disk]
  exact Directory.find?_add_of_some h

/-- **Every session keeps the accounts.** -/
theorem keeps_after (e : Surroundings τ) (s : Session τ) (orders : List (Order τ)) :
    Keeps s.accounts (after e s orders).accounts := by
  induction orders generalizing s with
  | nil => exact .refl _
  | cons o orders ih =>
    have hfirst : Keeps s.accounts (run e s o).2.accounts := by
      cases h : o.keyUse? e s.disk with
      | none => exact (carried_of_no_keyUse h).2
      | some u => exact Server.keeps_of_serves (carried_of_keyUse h).2.1
    exact hfirst.trans (ih _)

/-! ## §4. What is signed in a session -/

/-- An exchange of an owner's order: a payload signed with a key arrives at the service, which reads
it and answers; and if the owner is known by that key among some accounts, the payload is accepted
where it arrives. -/
def Accepted (e : Surroundings τ) (o : Order τ) (known : Accounts) (owner : Text) (key : Bytes)
    (x : Client.Exchange) : Prop :=
  ∃ p t host, x.payload = some p ∧ Signs owner key p
    ∧ (serveAt e o t (requestOf host x.target (some p))).1.status = x.status
    ∧ readBody (bodyOf p) = .ok p
    ∧ ∀ a, known.find? owner = some a → a.publicKey = Ed25519.publicKey key →
      SignsSoundly key p.payload → authenticate t.records.accounts p = .ok ()

theorem accepted_of_arrives {s : Session τ} {known : Accounts} {x : Client.Exchange}
    {key : Bytes} (hknown : Keeps known s.accounts)
    (hx : Arrives (serveAt e o) (u.errand.Sent u.owner key) s.service x) :
    Accepted e o known u.owner key x := by
  obtain ⟨hsent, t, host, hserves, hstatus⟩ := hx
  obtain ⟨p, hp, hsigns⟩ := hsent.signed
  rw [hp] at hstatus
  refine ⟨p, t, host, hp, hsigns, hstatus, Server.readBody_of_signs hsigns, ?_⟩
  intro a ha hpublic hsound
  have hkept : Keeps known t.records.accounts := hknown.trans (Server.keeps_of_serves hserves)
  exact Server.authenticate_of_signs hsigns (hkept.names _ a ha) hpublic hsound

/-- **The key is found after the order**, unless it is stopped while it saves it. -/
theorem find?_run {s : Session τ} (h : o.keyUse? e s.disk = some u)
    (hcut : s.disk.find? u.location = none → stopsWithin savingSteps o.cut = false) :
    (run e s o).2.disk.find? u.location = some (s.disk.keyFile u.location s.entropy) := by
  have hafter : (run e s o).2.disk = s.disk.add (s.disk.newKeys u.location s.entropy o.cut) :=
    (carried_of_keyUse h).1
  rw [hafter]
  exact Directory.find?_newKeys (Order.housed_of_keyUse h) hcut

/-- **What an order sends is signed with the key that is found after it.** -/
theorem arrives_of_found {s : Session τ} {x : Client.Exchange} (h : o.keyUse? e s.disk = some u)
    (hx : x ∈ (run e s o).1.exchanges) :
    ∃ f, (run e s o).2.disk.find? u.location = some f
      ∧ Arrives (serveAt e o) (u.errand.Sent u.owner f.content) s.service x := by
  obtain ⟨_, _, harrives, hbad⟩ := carried_of_keyUse h
  refine ⟨_, find?_run h fun hfree => ?_, harrives x hx⟩
  -- whoever is stopped while saving sends nothing
  refine Bool.eq_false_iff.mpr fun hstopped => ?_
  obtain ⟨_, _, hnone⟩ := hbad _ (keyAt_of_stopped hfree hstopped)
  have hsent : (run e s o).1.exchanges = [] := hnone
  rw [hsent] at hx
  cases hx

/-- What an order owes the key that it names. -/
structure CarriedWith (e : Surroundings τ) (s : Session τ) (o : Order τ) (u : KeyUse) : Prop where
  /-- If there is a file at the place, nothing is written. -/
  kept : ∀ f, s.disk.find? u.location = some f → (run e s o).2.disk = s.disk
  /-- If there is none, the octets that are drawn next are saved there, for the owner alone, however
  the order ends. -/
  generated : s.disk.find? u.location = none → stopsWithin savingSteps o.cut = false →
    (run e s o).2.disk
      = s.disk.add [⟨u.location, (s.entropy.draw keySize).1, Mode.ownerOnly⟩]
  /-- If it is stopped while they are saved, `saveKey` leaves what it has done, and nothing else
  happened. -/
  stopped : s.disk.find? u.location = none → stopsWithin savingSteps o.cut = true →
    (run e s o).2.disk = s.disk.add (savedFiles o.cut u.location (s.entropy.draw keySize).1)
    ∧ (run e s o).2.service = s.service
    ∧ (run e s o).1.ending = .crash .stopped ∧ (run e s o).1.exchanges = []
  /-- If the file holds no key, that is how the order ends, and nothing is sent. -/
  unusable : ∀ f, s.disk.find? u.location = some f → f.content.length ≠ keySize →
    (run e s o).1.ending = .crash .badKey ∧ (run e s o).1.exchanges = []
  /-- If the file holds a key by now, the errand is done with it, unless the order is stopped first. -/
  done : ∀ f, (run e s o).2.disk.find? u.location = some f → f.content.length = keySize →
    stopsWithin (savingSteps + 1) o.cut = false →
    ∃ server entropy printed cut, carried e s o
      = (runErrand (setting e o) ⟨server, some u.owner, some f.content⟩ u.owner u.errand).run.run
        { s.desk o with disk := (run e s o).2.disk, entropy, printed, cut }
  /-- If it registers its owner, then with the public half of the key. -/
  registered : u.errand = .register → s.accounts.find? u.owner = none →
    ∀ a f, (run e s o).2.accounts.find? u.owner = some a →
      (run e s o).2.disk.find? u.location = some f → a.publicKey = Ed25519.publicKey f.content

/-- **An order that names a key is carried out with it.** -/
theorem carriedWith_of_keyUse {s : Session τ} (h : o.keyUse? e s.disk = some u) :
    CarriedWith e s o u := by
  obtain ⟨hdisk, hserves, _, hbad⟩ := carried_of_keyUse h
  have hafter : (run e s o).2.disk = s.disk.add (s.disk.newKeys u.location s.entropy o.cut) := hdisk
  -- what is found at the place afterwards is the key, or the order was stopped
  have hfound : ∀ f, (run e s o).2.disk.find? u.location = some f →
      f = s.disk.keyFile u.location s.entropy
        ∨ (s.disk.find? u.location = none ∧ stopsWithin savingSteps o.cut = true) := by
    intro f hf
    rw [hafter] at hf
    exact Directory.eq_keyFile_of_found (Order.housed_of_keyUse h) hf
  refine ⟨?kept, ?generated, ?stopped, ?unusable, ?done, ?registered⟩
  case kept =>
    intro f hf
    rw [hafter, Directory.newKeys_of_some hf, Directory.add_nil]
  case generated =>
    intro hfree hcut
    rw [hafter, Directory.newKeys_of_none hfree, savedFiles_of_not_stopped hcut]
  case stopped =>
    intro hfree hcut
    obtain ⟨hending, hserver, hnone⟩ := hbad _ (keyAt_of_stopped hfree hcut)
    rw [hafter, Directory.newKeys_of_none hfree]
    exact ⟨rfl, hserver, congrArg Step.ending hending, hnone⟩
  case unusable =>
    intro f hf hlength
    obtain ⟨hending, _, hnone⟩ := hbad _ (keyAt_of_bad hf hlength)
    exact ⟨congrArg Step.ending hending, hnone⟩
  case done =>
    intro f hf hlength hcut
    rcases hfound f hf with rfl | ⟨_, hsaving⟩
    · exact carried_of_key h (keyAt_of_key hlength fun _ => hcut)
    · rw [stopsWithin_mono (Nat.le_succ _) hsaving] at hcut
      cases hcut
  case registered =>
    intro hregister hunknown a f ha hf
    rcases hfound f hf with rfl | ⟨hfree, hsaving⟩
    · rw [hregister] at hserves
      have hmem := List.mem_of_find?_eq_some ha
      have hname : a.username = u.owner := by simpa using List.find?_some ha
      rcases Server.added_of_serves hserves a hmem with hold | ⟨_, hpublic⟩
      · -- the name was free, so no account before had it
        have hnot := List.find?_eq_none.mp hunknown a hold
        exact absurd (decide_eq_true hname) hnot
      · exact hpublic
    · -- nothing was sent
      obtain ⟨_, hserver, _⟩ := hbad _ (keyAt_of_stopped hfree hsaving)
      have hservice : (run e s o).2.service = s.service := hserver
      unfold accounts at ha hunknown
      rw [hservice, hunknown] at ha
      cases ha

/-! ## §5. Every order of every session -/

end Session

end Orders

/-! ## §6. A key that outlives a failure -/

/-- A service on the usual address. -/
def oneDrop : Surroundings Int :=
  ⟨⟨10, 30⟩, some 65536, fun _ => "0", 1, "http://drop", "http://drop", .blank⟩

/-- The place of a name in the directory of an owner. -/
def inHome (name : Text) : Location := ["home", "alice", name]

/-- A file that is no key. -/
def note : File := ⟨inHome "note", [1, 2, 3], Mode.readable⟩

/-- A session in which nobody is registered, over octets that count. -/
def firstSession : Session Int :=
  ⟨.empty, ⟨["home", "alice"], [], [note]⟩, ⟨UInt8.ofNat, 0⟩⟩

/-- An order at the start of the calendar, with nobody at hand for prompts. -/
def unattended (args : List Text) (tick : Int) (cut : Option Cut) : Order Int :=
  ⟨.share, args, [], ⟨.first, some 0⟩, tick, cut⟩

/-- A share that fails for want of a secret, a registration, a mistake about a file, and a
registration that is stopped when five octets of its key are written. -/
def firstOrders : List (Order Int) :=
  [unattended ["share", "alice", "--key", "alice.key"] 0 none,
   unattended ["register", "alice", "--key", "./alice.key"] 1 none,
   unattended ["register", "bob", "--key", "note"] 2 none,
   unattended ["register", "carol", "--key", "../carol.key"] 3 (some ⟨1, 5⟩)]

/-- A listing with the key that the share left, named from the top. -/
def listing : Order Int := unattended ["list", "--key", "/home/alice/alice.key", "alice"] 4 none

/-- The session at the end. -/
def lastSession : Session Int := Session.after oneDrop firstSession (firstOrders ++ [listing])

/-- The octets that count, as a key. -/
def countedKey : Bytes := (List.range 32).map UInt8.ofNat

/-- The file that the share leaves. -/
def sharedKey : File := ⟨inHome "alice.key", countedKey, Mode.ownerOnly⟩

/-- The file that the stopped registration leaves. -/
def cutKey : File := ⟨["home", "carol.key"], [32, 33, 34, 35, 36], Mode.readable⟩

/-- One owner is registered, and there are three files. -/
theorem after_firstOrders :
    let s := Session.after oneDrop firstSession firstOrders
    s.accounts = [⟨1, "alice", Ed25519.publicKey countedKey⟩]
      ∧ s.disk.files = [note, sharedKey, cutKey] := by
  set_option maxRecDepth 100000 in decide +kernel

/-- The listing is one exchange, which is answered with a success, and what is sent verifies. -/
theorem listing_verifies :
    ((Session.run oneDrop (Session.after oneDrop firstSession firstOrders) listing).1.exchanges.map
      fun x => (x.status, x.payload.all fun p =>
        Ed25519.verify (Ed25519.publicKey countedKey)
          (Ed25519.sign countedKey (p.payload.flatMap Utf8.encodePoint))
          (p.payload.flatMap Utf8.encodePoint))) = [(200, true)] := by
  set_option maxRecDepth 100000 in decide +kernel

end SealedDrop.Command
