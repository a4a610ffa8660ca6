/-
  SealedDrop.Proofs.Command.Step
  ──────────────────────────────
  **WHAT A COMMAND DOES TO ITS DESK, HOWEVER IT ENDS.**

  A command is a chain of steps in `Step σ`, and it may break off at any of
  them: by a fault of its own, or because a `Cut` stops it.  A relation between
  the desk before and the desk after a command must therefore hold of every step
  by itself, and be passed on from step to step; `Leads` says that it holds of a
  step.  Two facts about `runTask` are proved in this way: `loadKey` is all that
  it does to the directory, and every request that it sends is signed with the
  key that `loadKey` found or generated.

      stopsWithin — a command is stopped within so many steps
      savedFiles  — what `saveKey` leaves of a key file, stopped or not
      keyFile     — the file at a place, or the one that `loadKey` saves there
      Leads       — a step leads from every desk to one in some relation with it
      Works       — a desk from which only payloads of some kind were sent

  Main results:
    • `leads_bind` — what two steps do, they do one after the other,
    • `run_saveKey` — `saveKey` leaves `savedFiles`,
    • `loadKey_of_file`, `loadKey_of_free`, `loadKey_of_not_meant` — what `loadKey` does,
    • `runErrand_works` — what `runErrand` does,
    • `runTask_of_key`, `runTask_of_meant`, `runTask_of_not_meant`, `runTask_reveal` — what `runTask`
      does.
-/
import SealedDrop.Command.Run
import SealedDrop.Proofs.Client.Signer
import SealedDrop.Proofs.Directory

namespace SealedDrop.Command

/-! ## §1. What is left of a key file -/

/-- A command is stopped within so many steps. -/
def stopsWithin (n : Nat) : Option Cut → Bool
  | none => false
  | some c => c.steps < n

/-- Where a command is stopped after so many steps more. -/
def remaining (n : Nat) (c : Option Cut) : Option Cut := c.map fun c => { c with steps := c.steps - n }

/-- What is stopped within some steps is stopped within more. -/
theorem stopsWithin_mono {n m : Nat} (hnm : n ≤ m) {c : Option Cut}
    (h : stopsWithin n c = true) : stopsWithin m c = true := by
  cases c with
  | none => cases h
  | some c =>
    have hlt : c.steps < n := by simpa [stopsWithin] using h
    simpa [stopsWithin] using hlt.trans_le hnm

/-- Whoever was not stopped within some steps is stopped within others as it remains. -/
theorem stopsWithin_remaining {m : Nat} {c : Option Cut} (h : stopsWithin m c = false) (n : Nat) :
    stopsWithin n (remaining m c) = stopsWithin (m + n) c := by
  cases c with
  | none => rfl
  | some c =>
    have hle : m ≤ c.steps := by simpa [stopsWithin] using h
    exact decide_eq_decide.mpr (show c.steps - m < n ↔ c.steps < m + n by omega)

/-- The steps of `saveKey`: the file is created, filled, and given its mode. -/
def savingSteps : Nat := 3

/-- What `saveKey` leaves at a free place: nothing if it is stopped at once; then a file with some of
the octets, then one with all of them, which everybody may still read; and the key for the owner
alone if it is not stopped. -/
def savedFiles (cut : Option Cut) (l : Location) (key : Bytes) : List File :=
  match cut with
  | some ⟨0, _⟩ => []
  | some ⟨1, n⟩ => [⟨l, key.take n, Mode.readable⟩]
  | some ⟨2, _⟩ => [⟨l, key, Mode.readable⟩]
  | some ⟨_ + 3, _⟩ | none => [⟨l, key, Mode.ownerOnly⟩]

/-- **Whoever is not stopped while saving leaves the key, for the owner alone.** -/
theorem savedFiles_of_not_stopped {cut : Option Cut} (h : stopsWithin savingSteps cut = false)
    (l : Location) (key : Bytes) : savedFiles cut l key = [⟨l, key, Mode.ownerOnly⟩] := by
  unfold savedFiles
  split
  next => cases h
  next => cases h
  next => cases h
  next => rfl
  next => rfl

/-- Whatever is left lies at the place of the key. -/
theorem location_of_mem_savedFiles {cut : Option Cut} {l : Location} {key : Bytes} {f : File}
    (h : f ∈ savedFiles cut l key) : f.location = l := by
  unfold savedFiles at h
  split at h
  all_goals simp_all

/-- There is at most one file. -/
theorem nodup_savedFiles (cut : Option Cut) (l : Location) (key : Bytes) :
    ((savedFiles cut l key).map File.location).Nodup := by
  unfold savedFiles
  split
  all_goals simp

end SealedDrop.Command

namespace SealedDrop.Directory

open Command (savedFiles stopsWithin savingSteps)

variable {d : Directory} {l : Location} {e : Entropy} {cut : Option Command.Cut}

/-- The file at a place, or the one that `Command.loadKey` saves there. -/
def keyFile (d : Directory) (l : Location) (e : Entropy) : File :=
  (d.find? l).getD ⟨l, (e.draw Command.keySize).1, Mode.ownerOnly⟩

/-- What `Command.loadKey` adds to a directory. -/
def newKeys (d : Directory) (l : Location) (e : Entropy) (cut : Option Command.Cut) : List File :=
  if (d.find? l).isSome then [] else savedFiles cut l (e.draw Command.keySize).1

/-- Where there is a file, it is the key file. -/
theorem keyFile_of_some {f : File} (h : d.find? l = some f) : d.keyFile l e = f := by
  unfold keyFile
  rw [h]
  rfl

/-- Where there is none, 32 octets are drawn for it, to be read and written by its owner only. -/
theorem keyFile_of_none (h : d.find? l = none) :
    d.keyFile l e = ⟨l, (e.draw Command.keySize).1, Mode.ownerOnly⟩ := by
  unfold keyFile
  rw [h]
  rfl

/-- Where there is a file, nothing is saved. -/
theorem newKeys_of_some {f : File} (h : d.find? l = some f) : d.newKeys l e cut = [] := by
  unfold newKeys
  rw [h]
  rfl

/-- Where there is none, what is saved depends on the step at which the order is stopped. -/
theorem newKeys_of_none (h : d.find? l = none) :
    d.newKeys l e cut = savedFiles cut l (e.draw Command.keySize).1 := by
  unfold newKeys
  rw [h]
  rfl

/-- **Loading a key adds a file at a free place**, in a directory that is there, if any. -/
theorem adds_newKeys (h : d.find? l = none → d.isDirectory l.dropLast = true) (e : Entropy)
    (cut : Option Command.Cut) : Adds d (d.newKeys l e cut) := by
  cases hfind : d.find? l with
  | some f =>
    rw [newKeys_of_some hfind]
    exact adds_nil d
  | none =>
    rw [newKeys_of_none hfind]
    -- whatever step the order is stopped at, the one file is where the key is wanted
    have hplace : ∀ f ∈ savedFiles cut l (e.draw Command.keySize).1, f.location = l :=
      fun f hf => Command.location_of_mem_savedFiles hf
    refine ⟨?free, ?distinct, ?housed⟩
    case free =>
      intro f hf
      rw [hplace f hf]
      exact hfind
    case distinct => exact Command.nodup_savedFiles cut l _
    case housed =>
      intro f hf
      unfold File.folder
      rw [hplace f hf]
      exact h hfind

/-- **The key is found afterwards**, unless the saving was stopped. -/
theorem find?_newKeys (h : d.find? l = none → d.isDirectory l.dropLast = true)
    (hcut : d.find? l = none → stopsWithin savingSteps cut = false) :
    (d.add (d.newKeys l e cut)).find? l = some (d.keyFile l e) := by
  cases hfind : d.find? l with
  | some f =>
    rw [keyFile_of_some hfind]
    exact find?_add_of_some hfind
  | none =>
    have hadds := adds_newKeys h e cut
    rw [newKeys_of_none hfind, Command.savedFiles_of_not_stopped (hcut hfind)] at hadds ⊢
    rw [keyFile_of_none hfind]
    exact hadds.found (List.mem_singleton_self _)

/-- What is found afterwards is the key, if the saving was not stopped. -/
theorem eq_keyFile_of_found (h : d.find? l = none → d.isDirectory l.dropLast = true) {f : File}
    (hf : (d.add (d.newKeys l e cut)).find? l = some f) :
    f = d.keyFile l e ∨ (d.find? l = none ∧ stopsWithin savingSteps cut = true) := by
  by_cases hcut : d.find? l = none ∧ stopsWithin savingSteps cut = true
  · exact .inr hcut
  · rw [find?_newKeys h fun hnone => by simpa [hnone] using hcut] at hf
    exact .inl (Option.some.inj hf).symm

end SealedDrop.Directory

namespace SealedDrop.Command

open Client (Arrives BySigner ByRegistrant Outcome Sends Serves)
open Form (SignedPayload)

variable {σ α β : Type}

/-! ## §2. Steps one after the other -/

/-- A step leads from every desk to one in some relation with it, however it ends. -/
def Leads (R : Desk σ → Desk σ → Prop) (x : Step σ α) : Prop := ∀ d, R d (x.run.run d).2

/-- The second of two steps is taken at the desk that the first one leaves, unless that one broke
off. -/
theorem run_bind (x : Step σ α) (f : α → Step σ β) (d : Desk σ) :
    (x >>= f).run.run d =
      match x.run.run d with
      | (.ok a, d) => (f a).run.run d
      | (.error e, d) => (.error e, d) := by
  show (ExceptT.bindCont f (x.run.run d).1).run (x.run.run d).2 = _
  rcases x.run.run d with ⟨_ | a, d'⟩
  · rfl
  · rfl

/-- A step that looks at the desk first. -/
theorem run_get (f : Desk σ → Step σ α) (d : Desk σ) :
    (get >>= f : Step σ α).run.run d = (f d).run.run d := rfl

section Leads

variable {R : Desk σ → Desk σ → Prop}

theorem leads_pure [Std.Refl R] (a : α) : Leads R (pure a : Step σ α) := fun d => Std.Refl.refl d

theorem leads_throw [Std.Refl R] (e : Ending) : Leads R (throw e : Step σ α) :=
  fun d => Std.Refl.refl d

/-- Changing the desk leads where the change leads. -/
theorem leads_modify {f : Desk σ → Desk σ} (h : ∀ d, R d (f d)) :
    Leads R (modify f : Step σ PUnit) := h

/-- Looking at the desk first leads where what follows leads, whatever is seen. -/
theorem leads_get {f : Desk σ → Step σ α} (h : ∀ d, R d ((f d).run.run d).2) :
    Leads R (get >>= f) := h

/-- **What two steps do, they do one after the other.** -/
theorem leads_bind [IsTrans (Desk σ) R] {x : Step σ α} {f : α → Step σ β} (hx : Leads R x)
    (hf : ∀ a, Leads R (f a)) : Leads R (x >>= f) := by
  intro d
  have hfirst := hx d
  rw [run_bind]
  generalize x.run.run d = o at hfirst
  rcases o with ⟨_ | a, d'⟩
  · exact hfirst
  · exact IsTrans.trans _ _ _ hfirst (hf a d')

/-- A step that sets the desk first, at the desk that it looked at. -/
theorem leads_set [IsTrans (Desk σ) R] {d d' : Desk σ} {f : PUnit → Step σ α} (hset : R d d')
    (hf : Leads R (f ⟨⟩)) : R d ((set d' >>= f : Step σ α).run.run d).2 :=
  IsTrans.trans _ _ _ hset (hf d')

end Leads

/-- A program leads wherever a larger relation allows. -/
theorem Leads.mono {R Q : Desk σ → Desk σ → Prop} {x : Step σ α} (h : Leads R x)
    (hRQ : ∀ {d d' : Desk σ}, R d d' → Q d d') : Leads Q x :=
  fun d => hRQ (h d)

/-! ## §3. Steps that only talk -/

/-- Between two desks nothing happened but talk: prompts, answers and what was printed. -/
structure Same (d d' : Desk σ) : Prop where
  /-- The directory is the same. -/
  disk : d'.disk = d.disk
  /-- The server is the same. -/
  server : d'.server = d.server
  /-- Nothing was exchanged. -/
  exchanges : d'.exchanges = d.exchanges

instance : Std.Refl (@Same σ) := ⟨fun _ => ⟨rfl, rfl, rfl⟩⟩

instance : IsTrans (Desk σ) Same where
  trans _ _ _ h h' := ⟨h'.disk.trans h.disk, h'.server.trans h.server,
    h'.exchanges.trans h.exchanges⟩

/-- Passing a step of an order that is not stopped changes nothing but the count of steps. -/
theorem pass_same : Leads Same (pass : Step σ Unit) := by
  refine leads_get fun d => ?_
  split
  next => exact leads_pure _ d
  next => exact leads_throw _ d
  next => exact ⟨rfl, rfl, rfl⟩

theorem say_same (t : Text) : Leads Same (say t : Step σ Unit) :=
  leads_bind pass_same fun _ => leads_modify fun _ => ⟨rfl, rfl, rfl⟩

/-- Asking for a line takes it from the terminal only. -/
theorem ask_same (label : Text) : Leads Same (ask label : Step σ Text) := by
  unfold ask
  refine leads_bind pass_same fun _ => leads_bind (leads_modify fun _ => ⟨rfl, rfl, rfl⟩)
    fun _ => leads_get fun d => ?_
  split
  next => exact leads_throw _ d
  next =>
    refine leads_bind (R := Same) (leads_modify ?_) (fun _ => leads_pure _) d
    exact fun _ => ⟨rfl, rfl, rfl⟩

/-- Reading the clock leaves the disk and the server, also when it shows no moment. -/
theorem readClock_same (s : Stamp) : Leads Same (readClock s : Step σ Moment) := by
  unfold readClock
  split
  next => exact leads_pure _
  next => exact leads_throw _

/-- A command line that cannot be understood stops the order with nothing changed. -/
theorem understand_same (line : Except Stop α) : Leads Same (understand line : Step σ α) := by
  unfold understand
  split
  next => exact leads_pure _
  next => exact leads_bind (say_same _) fun _ => leads_throw _
  next => exact leads_throw _

/-- Nothing comes after a line that asks for nothing. -/
theorem understand_error (stop : Stop) (f : α → Step σ β) :
    Leads Same (understand (.error stop) >>= f) := by
  intro d
  have hsame := understand_same (α := α) (.error stop) d
  -- whether the screen can be printed or not, the order ends there
  have hends : ∃ e, ((understand (.error stop) : Step σ α).run.run d).1 = .error e := by
    cases stop with
    | misuse => exact ⟨_, rfl⟩
    | help screen =>
      unfold understand
      dsimp only
      rw [run_bind]
      rcases (say screen).run.run d with ⟨_ | _, d'⟩
      · exact ⟨_, rfl⟩
      · exact ⟨_, rfl⟩
  rw [run_bind]
  generalize (understand (.error stop) : Step σ α).run.run d = o at hsame hends
  obtain ⟨_, d'⟩ := o
  obtain ⟨e, rfl⟩ := hends
  exact hsame

/-- The tables are looked for without a change to them. -/
theorem findTables_same (address : Option Text) : Leads Same (findTables address : Step σ Unit) := by
  unfold findTables
  split
  next => exact leads_pure _
  next =>
    split
    next => exact leads_throw _
    next => exact leads_pure _

/-- The same for `purge`, which starts on tables of its own. -/
theorem ownTables_same (address : Option Text) : Leads Same (ownTables address : Step σ Unit) := by
  unfold ownTables
  split
  next => exact leads_throw _
  next => exact leads_pure _

/-! ## §4. Requests from a desk -/

/-- Between two desks only payloads of some kind were sent, and no file was touched. -/
structure Works (serve : Client.Server σ) (P : Option SignedPayload → Prop) (d d' : Desk σ) :
    Prop where
  /-- The directory is the same. -/
  disk : d'.disk = d.disk
  /-- The server answered. -/
  serves : Serves serve P d.server d'.server
  /-- Every exchange that was added is one with the server on its way. -/
  exchanges : ∃ new, d'.exchanges = d.exchanges ++ new ∧ ∀ x ∈ new, Arrives serve P d.server x

section Works

variable {serve : Client.Server σ} {P : Option SignedPayload → Prop}

/-- What leaves the desk as it is works. -/
theorem Same.works {d d' : Desk σ} (h : Same d d') : Works serve P d d' :=
  ⟨h.disk, h.server ▸ .refl, [], by rw [h.exchanges, List.append_nil], by simp⟩

instance : Std.Refl (Works serve P) := ⟨fun d => Same.works (Std.Refl.refl d)⟩

instance : IsTrans (Desk σ) (Works serve P) where
  trans d d' d'' h h' := by
    obtain ⟨new, hnew, harrives⟩ := h.exchanges
    obtain ⟨more, hmore, harrives'⟩ := h'.exchanges
    refine ⟨h'.disk.trans h.disk, h.serves.trans h'.serves, new ++ more, ?_, ?_⟩
    · rw [hmore, hnew, List.append_assoc]
    · intro x hx
      rcases List.mem_append.mp hx with hx | hx
      · exact harrives x hx
      · exact (harrives' x hx).of_serves h.serves

theorem pass_works : Leads (Works serve P) (pass : Step σ Unit) := pass_same.mono Same.works

theorem say_works (t : Text) : Leads (Works serve P) (say t : Step σ Unit) :=
  (say_same t).mono Same.works

theorem ask_works (label : Text) : Leads (Works serve P) (ask label : Step σ Text) :=
  (ask_same label).mono Same.works

/-- **What is done with the client works the desk**, whatever comes of it. -/
theorem attempt_works {f : σ → Entropy → Outcome σ α × Entropy}
    (h : ∀ s entropy, Sends serve P s (f s entropy).1) : Leads (Works serve P) (attempt f) := by
  unfold attempt
  refine leads_bind pass_works fun _ => leads_get fun d => ?_
  have hsends := h d.server d.entropy
  generalize f d.server d.entropy = o at hsends
  obtain ⟨o, entropy⟩ := o
  refine leads_set ⟨rfl, hsends.serves, o.exchanges, rfl, hsends.arrives⟩ ?_
  refine leads_bind pass_works fun _ => ?_
  split
  next => exact leads_pure _
  next =>
    split
    next => exact leads_bind (say_works _) fun _ => leads_throw _
    next => exact leads_throw _

/-- Calling an operation of the client works when the operation sends what it may. -/
theorem attemptPlainly_works {f : σ → Outcome σ α} (h : ∀ s, Sends serve P s (f s)) :
    Leads (Works serve P) (attemptPlainly f) :=
  attempt_works fun s _ => h s

end Works

/-! ## §5. Errands of an owner -/

/-- The payloads of an errand. -/
def Errand.Sent (u : Text) (key : Bytes) : Errand → Option SignedPayload → Prop
  | .register => ByRegistrant u key
  | _ => BySigner u key

/-- Whatever the errand, what is sent is signed. -/
theorem Errand.Sent.signed {errand : Errand} {u : Text} {key : Bytes}
    {payload : Option SignedPayload} (h : errand.Sent u key payload) : BySigner u key payload := by
  cases errand with
  | register =>
    obtain ⟨p, hp, hsigns, _⟩ := h
    exact ⟨p, hp, hsigns⟩
  | share seconds singleUse => exact h
  | list => exact h
  | expire linkOrId => exact h

/-- **An errand works the desk with the owner's key.** -/
theorem runErrand_works (e : Setting σ) {c : Client} {u : Text} {key : Bytes}
    (hname : c.username = some u) (hkey : c.key = some key) (errand : Errand) :
    Leads (Works e.serve (errand.Sent u key)) (runErrand e c u errand) := by
  cases errand with
  | register =>
    exact leads_bind (attemptPlainly_works (Client.register_sends hname hkey)) fun _ => say_works _
  | share seconds singleUse =>
    unfold runErrand
    refine leads_bind (ask_works _) fun plaintext => leads_bind (ask_works _) fun password =>
      leads_bind ((readClock_same _).mono Same.works) fun now => ?_
    split
    next => exact leads_throw _
    -- the deadline is in the calendar, so the secret is sealed and posted
    next expiresAt hdeadline =>
      exact leads_bind (attempt_works fun s => Client.share_sends hname hkey _ s _)
        fun _ => say_works _
  | list =>
    exact leads_bind (attemptPlainly_works (Client.list_sends hname hkey)) fun _ => say_works _
  | expire linkOrId =>
    exact leads_bind (attemptPlainly_works fun s => Client.expire_sends hname hkey s _)
      fun _ => say_works _

/-! ## §6. Keys -/

section Keys

variable {p : Path} {l : Location}

/-- **`pass` breaks off where the command is stopped.** -/
theorem run_pass (d : Desk σ) : pass.run.run d =
    (if stopsWithin 1 d.cut then .error (.crash .stopped) else .ok ⟨⟩,
      { d with cut := remaining 1 d.cut }) := by
  obtain ⟨server, disk, entropy, answers, asked, printed, exchanges, cut⟩ := d
  rcases cut with _ | ⟨_ | n, octets⟩
  · rfl
  · rfl
  · rfl

/-- **`saveKey` leaves `savedFiles`** at a free place, and breaks off if it is stopped. -/
theorem run_saveKey (key : Bytes) (d : Desk σ) (h : d.disk.find? l = none) :
    (saveKey l key).run.run d =
      (if stopsWithin savingSteps d.cut then .error (.crash .stopped) else .ok ⟨⟩,
        { d with
          disk := d.disk.add (savedFiles d.cut l key)
          cut := remaining savingSteps d.cut }) := by
  obtain ⟨server, disk, entropy, answers, asked, printed, exchanges, cut⟩ := d
  have hfill : ∀ octets, (disk.create ⟨l, [], Mode.readable⟩).change l
      (fun f => { f with content := octets }) = disk.add [⟨l, octets, Mode.readable⟩] :=
    fun octets => Directory.change_add (f := ⟨l, [], Mode.readable⟩) h _
  have hmode : (disk.add [⟨l, key, Mode.readable⟩]).change l
      (fun f => { f with mode := Mode.ownerOnly }) = disk.add [⟨l, key, Mode.ownerOnly⟩] :=
    Directory.change_add (f := ⟨l, key, Mode.readable⟩) h _
  -- the command is stopped before one of the three steps, or not at all
  rcases cut with _ | ⟨_ | _ | _ | n, octets⟩
  · rw [show savedFiles none l key = [⟨l, key, Mode.ownerOnly⟩] from rfl, ← hmode, ← hfill key]
    rfl
  · rw [show savedFiles (some ⟨0, octets⟩) l key = [] from rfl, Directory.add_nil]
    rfl
  · rw [show savedFiles (some ⟨1, octets⟩) l key = [⟨l, key.take octets, Mode.readable⟩] from rfl,
      ← hfill]
    rfl
  · rw [show savedFiles (some ⟨2, octets⟩) l key = [⟨l, key, Mode.readable⟩] from rfl, ← hfill]
    rfl
  · rw [show savedFiles (some ⟨n + 3, octets⟩) l key = [⟨l, key, Mode.ownerOnly⟩] from rfl, ← hmode,
      ← hfill key]
    rfl

/-- `say` breaks off where the command is stopped. -/
theorem run_say (t : Text) (d : Desk σ) : ∃ printed, (say t).run.run d =
    (if stopsWithin 1 d.cut then .error (.crash .stopped) else .ok ⟨⟩,
      { d with printed, cut := remaining 1 d.cut }) := by
  unfold say
  rw [run_bind, run_pass]
  cases stopsWithin 1 d.cut with
  | true => exact ⟨d.printed, rfl⟩
  | false => exact ⟨d.printed ++ t, rfl⟩

/-- **A path that leads to a file leads to its key**, if it holds one. -/
theorem loadKey_of_file {d : Desk σ} {f : File} (h : d.disk.meant? p = some l)
    (hf : d.disk.find? l = some f) : (loadKey p).run.run d =
      (if f.content.length = keySize then .ok f.content else .error (.crash .badKey), d) := by
  obtain ⟨hflaw, hplace⟩ := Directory.locate_of_meant h
  have hlocate : d.disk.locate p = .file f := by
    rcases hplace with ⟨g, hg, hlocate⟩ | ⟨hnone, _⟩
    · obtain rfl := Option.some.inj (hf.symm.trans hg)
      exact hlocate
    · rw [hf] at hnone
      cases hnone
  unfold loadKey
  rw [hflaw]
  dsimp only
  rw [run_get, hlocate]
  dsimp only
  split
  next => rfl
  next => rfl

/-- **A path that leads to a free name leads to a new key**, which is saved there; the command may be
stopped while it is saved, or when that is told. -/
theorem loadKey_of_free {d : Desk σ} (h : d.disk.meant? p = some l) (hfree : d.disk.find? l = none) :
    let key := (d.entropy.draw keySize).1
    ∃ entropy printed cut, (loadKey p).run.run d =
      (if stopsWithin (savingSteps + 1) d.cut then .error (.crash .stopped) else .ok key,
        { d with disk := d.disk.add (savedFiles d.cut l key), entropy, printed, cut }) := by
  intro key
  obtain ⟨hflaw, hplace⟩ := Directory.locate_of_meant h
  have hlocate : d.disk.locate p = .free l := by
    rcases hplace with ⟨g, hg, _⟩ | ⟨_, _, hlocate⟩
    · rw [hfree] at hg
      cases hg
    · exact hlocate
  have hdraw : drawKey.run.run d
      = (.ok key, { d with entropy := (d.entropy.draw keySize).2 }) := rfl
  unfold loadKey
  rw [hflaw]
  dsimp only
  rw [run_get, hlocate]
  dsimp only
  rw [run_bind, hdraw]
  dsimp only
  rw [run_bind, run_saveKey key { d with entropy := (d.entropy.draw keySize).2 } hfree]
  dsimp only
  -- the order may be stopped while it saves the key, or when it says so
  cases hstop : stopsWithin savingSteps d.cut with
  | true =>
    rw [if_pos rfl, if_pos (stopsWithin_mono (Nat.le_succ _) hstop)]
    exact ⟨_, _, _, rfl⟩
  | false =>
    rw [if_neg Bool.false_ne_true, ← stopsWithin_remaining hstop]
    dsimp only
    obtain ⟨printed, hsay⟩ := run_say ("[+] Generated new signing key: " ++ p.text ++ "\n")
      { d with
        disk := d.disk.add (savedFiles d.cut l key)
        entropy := (d.entropy.draw keySize).2
        cut := remaining savingSteps d.cut }
    rw [run_bind, hsay]
    dsimp only
    cases stopsWithin 1 (remaining savingSteps d.cut) with
    | true => exact ⟨_, _, _, rfl⟩
    | false => exact ⟨_, _, _, rfl⟩

/-- What `loadKey` makes of a place: the key that the file there holds, or the one that is saved
there. -/
def keyAt (d : Desk σ) (l : Location) : Except Ending Bytes :=
  match d.disk.find? l with
  | some f => if f.content.length = keySize then .ok f.content else .error (.crash .badKey)
  | none =>
    if stopsWithin (savingSteps + 1) d.cut then .error (.crash .stopped)
    else .ok (d.entropy.draw keySize).1

/-- The key is what the file at the place holds, afterwards at the latest. -/
theorem keyAt_ok {d : Desk σ} {key : Bytes} (h : keyAt d l = .ok key) :
    key = (d.disk.keyFile l d.entropy).content := by
  unfold keyAt at h
  split at h
  next f hfind =>
    rw [Directory.keyFile_of_some hfind]
    split at h
    next => exact (Except.ok.inj h).symm
    next => cases h
  next hfind =>
    rw [Directory.keyFile_of_none hfind]
    split at h
    next => cases h
    next => exact (Except.ok.inj h).symm

/-- There is a key if the file holds one, or else if the command is not stopped. -/
theorem keyAt_of_key {d : Desk σ} (hkey : (d.disk.keyFile l d.entropy).content.length = keySize)
    (hcut : d.disk.find? l = none → stopsWithin (savingSteps + 1) d.cut = false) :
    keyAt d l = .ok (d.disk.keyFile l d.entropy).content := by
  unfold keyAt
  cases hfind : d.disk.find? l with
  | some f =>
    rw [Directory.keyFile_of_some hfind] at hkey ⊢
    exact if_pos hkey
  | none =>
    rw [Directory.keyFile_of_none hfind, hcut hfind]
    rfl

/-- A file that holds no key leads to none. -/
theorem keyAt_of_bad {d : Desk σ} {f : File} (hf : d.disk.find? l = some f)
    (hbad : f.content.length ≠ keySize) : keyAt d l = .error (.crash .badKey) := by
  unfold keyAt
  rw [hf]
  exact if_neg hbad

/-- Whoever is stopped while saving has no key. -/
theorem keyAt_of_stopped {d : Desk σ} (hfree : d.disk.find? l = none)
    (hcut : stopsWithin savingSteps d.cut = true) : keyAt d l = .error (.crash .stopped) := by
  unfold keyAt
  rw [hfree]
  exact if_pos (stopsWithin_mono (Nat.le_succ _) hcut)

/-- **A path that means a place leads to the key there.** -/
theorem loadKey_of_meant {d : Desk σ} (h : d.disk.meant? p = some l) :
    ∃ entropy printed cut, (loadKey p).run.run d =
      (keyAt d l, { d with
        disk := d.disk.add (d.disk.newKeys l d.entropy d.cut), entropy, printed, cut }) := by
  unfold keyAt
  cases hfind : d.disk.find? l with
  | some f =>
    rw [Directory.newKeys_of_some hfind, Directory.add_nil]
    exact ⟨_, _, _, loadKey_of_file h hfind⟩
  | none =>
    rw [Directory.newKeys_of_none hfind]
    exact loadKey_of_free h hfind

/-- **A path that means no place leads to no key**, and to no new one. -/
theorem loadKey_of_not_meant {d : Desk σ} (h : d.disk.meant? p = none) :
    ∃ c entropy, (loadKey p).run.run d = (.error (.crash c), { d with entropy }) := by
  unfold loadKey
  cases hflaw : p.flaw? with
  | some e => exact ⟨_, _, rfl⟩
  | none =>
    have hnone := Directory.location?_of_not_meant h hflaw
    dsimp only
    rw [run_get]
    cases hlocate : d.disk.locate p with
    | file f | free l =>
      rw [hlocate] at hnone
      cases hnone
    | directory | overlong => exact ⟨_, d.entropy, rfl⟩
    | belowFile | nowhere => exact ⟨_, _, rfl⟩

end Keys

/-! ## §7. Tasks -/

section Tasks

variable {l : Location} {u path : Text}

/-- **A recipient's task sends no payload.** -/
theorem runTask_reveal (e : Setting σ) (server linkOrId : Text) :
    Leads (Works e.serve (· = none)) (runTask e server (.reveal linkOrId)) := by
  refine leads_bind (ask_works _) fun password => leads_bind (attemptPlainly_works ?_) fun _ =>
    say_works _
  exact fun s => (Client.send_sends (P := (· = none)) rfl _ s _).andThen _

/-- **An owner's task without a key file sends nothing.** -/
theorem runTask_of_not_meant (e : Setting σ) (server : Text) (errand : Errand) {d : Desk σ}
    (h : d.disk.meant? (Path.ofText path) = none) :
    Works e.serve (fun _ => False) d ((runTask e server (.own u path errand)).run.run d).2 := by
  obtain ⟨c, entropy, hload⟩ := loadKey_of_not_meant h
  unfold runTask
  rw [run_bind, hload]
  exact Same.works ⟨rfl, rfl, rfl⟩

/-- **An owner's task loads the key and does the errand with it**, if it is one and the command is not
stopped by then. -/
theorem runTask_of_key (e : Setting σ) (server u : Text) (errand : Errand) {d : Desk σ}
    (h : d.disk.meant? (Path.ofText path) = some l) {key : Bytes} (hkey : keyAt d l = .ok key) :
    ∃ entropy printed cut, (runTask e server (.own u path errand)).run.run d
      = (runErrand e ⟨server, some u, some key⟩ u errand).run.run
        { d with disk := d.disk.add (d.disk.newKeys l d.entropy d.cut), entropy, printed, cut } := by
  obtain ⟨entropy, printed, cut, hload⟩ := loadKey_of_meant h
  rw [hkey] at hload
  refine ⟨entropy, printed, cut, ?_⟩
  unfold runTask
  rw [run_bind, hload]

/-- **An owner's task loads the key and works with it**: every request is signed with the key, and
without a key nothing is sent. -/
theorem runTask_of_meant (e : Setting σ) (server u : Text) (errand : Errand) {d : Desk σ}
    (h : d.disk.meant? (Path.ofText path) = some l) :
    let o := (runTask e server (.own u path errand)).run.run d
    Works e.serve (errand.Sent u (d.disk.keyFile l d.entropy).content)
      { d with disk := d.disk.add (d.disk.newKeys l d.entropy d.cut) } o.2
    ∧ ∀ c, keyAt d l = .error c → o.1 = .error c ∧ o.2.server = d.server
      ∧ o.2.exchanges = d.exchanges := by
  intro o
  -- with a key the errand runs, without one nothing is sent
  cases hat : keyAt d l with
  | ok key =>
    obtain ⟨entropy, printed, cut, hrun⟩ := runTask_of_key e server u errand h hat
    have ho : o = _ := hrun
    rw [ho, ← keyAt_ok hat]
    refine ⟨IsTrans.trans _ _ _ ?_ (runErrand_works e rfl rfl errand _), fun c hc => ?_⟩
    · exact Same.works ⟨rfl, rfl, rfl⟩
    · cases hc
  | error c =>
    obtain ⟨entropy, printed, cut, hload⟩ := loadKey_of_meant h
    have ho : o = (loadKey (Path.ofText path) >>= fun key =>
      runErrand e ⟨server, some u, some key⟩ u errand).run.run d := rfl
    rw [run_bind, hload, hat] at ho
    rw [ho]
    refine ⟨Same.works ⟨rfl, rfl, rfl⟩, fun c' hc => ?_⟩
    cases hc
    exact ⟨rfl, rfl, rfl⟩

end Tasks

/-! ## §8. Keepers of the tables -/

/-- Between two desks no file was touched, and something about the server is the same. -/
structure Spares {γ : Type} (g : σ → γ) (d d' : Desk σ) : Prop where
  /-- The directory is the same. -/
  disk : d'.disk = d.disk
  /-- What is told of the server is the same. -/
  server : g d'.server = g d.server

section Keepers

variable {γ : Type} {g : σ → γ}

/-- What leaves the desk as it is spares every file. -/
theorem Same.spares {d d' : Desk σ} (h : Same d d') : Spares g d d' :=
  ⟨h.disk, congrArg g h.server⟩

instance : Std.Refl (Spares g) := ⟨fun _ => ⟨rfl, rfl⟩⟩

instance : IsTrans (Desk σ) (Spares g) where
  trans _ _ _ h h' := ⟨h'.disk.trans h.disk, h'.server.trans h.server⟩

variable (table : σ → Store.Table) {setTable : Store.Table → σ → σ}

/-- **A purge spares whatever does not hang on the secrets.** -/
theorem purgeCommand_spares (hset : ∀ t s, g (setTable t s) = g s) (clock : Stamp)
    (args : List Text) : Leads (Spares g) (purgeCommand table setTable clock args) := by
  unfold purgeCommand
  refine leads_bind ((understand_same _).mono Same.spares) fun address =>
    leads_bind ((findTables_same _).mono Same.spares) fun _ =>
    leads_bind ((readClock_same _).mono Same.spares) fun now =>
    leads_bind ((ownTables_same _).mono Same.spares) fun _ =>
    leads_bind (pass_same.mono Same.spares) fun _ => leads_get fun d => ?_
  refine leads_set ⟨rfl, hset _ _⟩ ?_
  split
  next => exact leads_throw _
  next => exact (say_same _).mono Same.spares

/-- **So does a drill.** -/
theorem tamperCommand_spares (hset : ∀ t s, g (setTable t s) = g s) (args : List Text) :
    Leads (Spares g) (tamperCommand table setTable args) := by
  unfold tamperCommand
  refine leads_bind ((understand_same _).mono Same.spares) fun asked =>
    leads_bind ((findTables_same _).mono Same.spares) fun _ =>
    leads_bind ((ownTables_same _).mono Same.spares) fun _ =>
    leads_bind (pass_same.mono Same.spares) fun _ => leads_get fun d => ?_
  split
  next => exact leads_throw (R := Spares g) _ d
  next => exact leads_set ⟨rfl, hset _ _⟩ ((say_same _).mono Same.spares)

end Keepers

end SealedDrop.Command
