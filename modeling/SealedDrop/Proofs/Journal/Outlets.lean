/-
  SealedDrop.Proofs.Journal.Outlets
  ─────────────────────────────────
  **EVERY RECORD IS WRITTEN ONCE.**

  Modules open their journals when they are loaded, in whatever order and as
  often as they like, and a journal that were given outlets every time would
  write every record as often.  `Registry.opened` gives outlets only to a
  journal that has none (`fitted`).  So whatever was opened before, a journal
  that was opened has one file and one console:

      opened so far     outlets of a      outlets of a.b
      (nothing)         none              none
      a                 file, console     none
      a, a.b, a         file, console     file, console

  A record that reaches the level of its journal therefore leaves one line in
  the file and one on the console, wherever a line can be made of it: the file
  takes no text without a UTF-8 form and no time outside the calendar, and a
  console that is no terminal loses a line that sets a title.

      Opening, after — a history of openings, and the registry after it
      Fitted         — every journal that was opened has one outlet of each kind
      lastLevel?     — the level that a journal was last opened with

  Main results:
    • `Fitted.opened`, `fitted_after` — one opening, and every history of them,
    • `levelOf?_after` — the level of a journal is the one it was last opened with,
    • `consoleLine?_eq_some`, `fileLine?_eq_some` — when an outlet makes a line,
    • `each_record_written_once` — what a record leaves behind,
    • `entries_left_out` — records that are missing in the file or on the console.
-/
import SealedDrop.Journal.Registry

namespace SealedDrop.Journal

/-! ## §1. Lines -/

section Lines

variable {x : Record} {message : Text} {made : Instant}

/-- Whether a line sets the title of a terminal. -/
def setsTitle (line : Text) : Bool := (Escape.commands 0 line).any Escape.Found.setsTitle

theorem terminalLine?_eq (h : x.message? = some message) :
    x.terminalLine? = some (x.terminalText message) := by
  unfold Record.terminalLine?
  rw [h]
  rfl

/-- A terminal shows the line of a message as it is. -/
theorem consoleLine?_terminal (h : x.message? = some message) :
    x.consoleLine? true = some (x.terminalText message) := by
  unfold Record.consoleLine?
  rw [terminalLine?_eq h]
  rfl

/-- Any other console shows what `Escape.shown?` makes of it. -/
theorem consoleLine?_plain (h : x.message? = some message) :
    x.consoleLine? false = Escape.shown? (x.terminalText message) := by
  unfold Record.consoleLine?
  rw [terminalLine?_eq h]
  rfl

/-- **That is the line without control sequences, unless it sets a title.** -/
theorem consoleLine?_eq_some (h : x.message? = some message)
    (htitle : setsTitle (x.terminalText message) = false) :
    ∃ line, x.consoleLine? false = some line := by
  rw [consoleLine?_plain h]
  unfold setsTitle at htitle
  unfold Escape.shown?
  dsimp only
  rw [htitle, if_neg (by decide)]
  exact ⟨_, rfl⟩

/-- A line that sets a title is lost there. -/
theorem consoleLine?_eq_none (h : x.message? = some message)
    (htitle : setsTitle (x.terminalText message) = true) : x.consoleLine? false = none := by
  rw [consoleLine?_plain h]
  unfold setsTitle at htitle
  unfold Escape.shown?
  dsimp only
  rw [htitle, if_pos rfl]

/-- **The file takes the line of a message that was made at a time of the calendar, if it has a UTF-8
form.** -/
theorem fileLine?_eq_some (h : x.message? = some message) (hmade : x.made = some made)
    (hscalar : (x.fileText made message).isScalar = true) :
    x.fileLine? = some (x.fileText made message) := by
  unfold Record.fileLine?
  rw [h, hmade]
  dsimp only
  rw [if_pos hscalar]

/-- It takes no line without a time, or without a UTF-8 form. -/
theorem fileLine?_eq_none (h : x.message? = some message)
    (hno : ∀ made, x.made = some made → (x.fileText made message).isScalar = false) :
    x.fileLine? = none := by
  unfold Record.fileLine?
  rw [h]
  cases hmade : x.made with
  | none => rfl
  | some made =>
    dsimp only
    rw [hno made hmade, if_neg (by decide)]

end Lines

namespace Registry

/-! ## §2. Histories -/

/-- A journal is opened: its name, and the level it gets. -/
structure Opening where
  /-- The name. -/
  name : Text
  /-- The level. -/
  level : Int
  deriving DecidableEq, Repr

/-- The registry after some journals were opened, one after the other. -/
def after (h : List Opening) : Registry := h.foldl (fun r o => r.opened o.name o.level) initial

/-- The level that a journal was last opened with; the root's names stand for each other. -/
def lastLevel? (h : List Opening) (name : Text) : Option Int :=
  (h.reverse.find? fun o => o.name = name || (isRoot o.name && isRoot name)).map Opening.level

/-- In a registry every journal that was opened has one outlet of each kind, and the root is no
branch. -/
structure Fitted (r : Registry) : Prop where
  /-- The root has none before it is opened. -/
  root : r.rootOutlets = [] ∨ r.rootOutlets = outfit
  /-- The others are there because they were opened. -/
  branch : ∀ j ∈ r.branches, j.outlets = outfit
  /-- None of them is the root. -/
  proper : ∀ j ∈ r.branches, isRoot j.name = false

section History

variable {h : List Opening} {r : Registry} {name : Text} {level : Int}

theorem fitted_outfit : fitted outfit = outfit := rfl

/-- Before anything is opened nothing has outlets. -/
theorem fitted_initial : Fitted initial where
  root := .inl rfl
  branch := by simp [initial]
  proper := by simp [initial]

/-- **Opening a journal gives an outfit to one that had none, and to no other.** -/
theorem Fitted.opened (hr : Fitted r) (name : Text) (level : Int) :
    Fitted (r.opened name level) := by
  unfold Registry.opened
  split
  next =>
    -- the root keeps what it has, or gets its first outfit
    refine ⟨.inr ?_, hr.branch, hr.proper⟩
    rcases hr.root with hnone | hsome
    · rw [hnone]
      rfl
    · rw [hsome, fitted_outfit]
  next hroot =>
    split
    next =>
      refine ⟨hr.root, ?_, ?_⟩
      · intro j hj
        obtain ⟨k, hk, rfl⟩ := List.mem_map.mp hj
        split
        next =>
          show fitted k.outlets = outfit
          rw [hr.branch k hk, fitted_outfit]
        next => exact hr.branch k hk
      · intro j hj
        obtain ⟨k, hk, rfl⟩ := List.mem_map.mp hj
        split
        next => exact hr.proper k hk
        next => exact hr.proper k hk
    next =>
      -- journals that move below the new one keep their outlets and their names
      refine ⟨hr.root, ?_, ?_⟩
      · intro j hj
        rcases List.mem_append.mp hj with hj | hj
        · obtain ⟨k, hk, rfl⟩ := List.mem_map.mp hj
          rw [adoptedBy_outlets]
          exact hr.branch k hk
        · rw [List.mem_singleton.mp hj]
          rfl
      · intro j hj
        rcases List.mem_append.mp hj with hj | hj
        · obtain ⟨k, hk, rfl⟩ := List.mem_map.mp hj
          rw [adoptedBy_name]
          exact hr.proper k hk
        · rw [List.mem_singleton.mp hj]
          exact Bool.eq_false_iff.mpr hroot

/-- **After every history of openings every journal is fitted.** -/
theorem fitted_after (h : List Opening) : Fitted (after h) := by
  have hrun : ∀ (later : List Opening) (r : Registry), Fitted r →
      Fitted (later.foldl (fun r o => r.opened o.name o.level) r) := by
    intro later
    induction later with
    | nil => exact fun _ hr => hr
    | cons o later ih => exact fun _ hr => ih _ (hr.opened o.name o.level)
  exact hrun h initial fitted_initial

/-! ## §3. Levels and outlets -/

/-- **The level of a journal is the one that it was last opened with.** -/
theorem levelOf?_after (h : List Opening) (name : Text) :
    (after h).levelOf? name = lastLevel? h name := by
  -- for a run from any registry, so that the induction goes through
  have hrun : ∀ (later : List Opening) (r : Registry),
      (later.foldl (fun r o => r.opened o.name o.level) r).levelOf? name
        = (lastLevel? later name).or (r.levelOf? name) := by
    intro later
    induction later with
    | nil => exact fun _ => rfl
    | cons o later ih =>
      intro r
      rw [List.foldl_cons, ih, levelOf?_opened, lastLevel?, lastLevel?, List.reverse_cons,
        List.find?_append, Option.map_or, Option.or_assoc]
      congr 1
      -- an opening sets the level of its own name, or of the root under either name
      have hsame : (name = o.name ∨ (isRoot name = true ∧ isRoot o.name = true)) ↔
          (decide (o.name = name) || (isRoot o.name && isRoot name)) = true := by
        rw [Bool.or_eq_true_iff, decide_eq_true_iff, Bool.and_eq_true_iff]
        exact or_congr eq_comm and_comm
      cases hdecide : decide (o.name = name) || (isRoot o.name && isRoot name) with
      | true =>
        rw [if_pos (hsame.mpr hdecide), List.find?_cons, hdecide]
        rfl
      | false =>
        rw [if_neg fun hs => absurd (hdecide.symm.trans (hsame.mp hs)) nofun, List.find?_cons,
          hdecide]
        rfl
  have hinitial : initial.levelOf? name = none := by
    unfold levelOf? initial
    split
    · rfl
    · rfl
  rw [after, hrun, hinitial, Option.or_none]

/-- A journal leads its own lineage. -/
theorem exists_lineage {j : Branch} (hj : r.find? name = some j) :
    ∃ rest, r.lineage name = j :: rest := by
  rw [lineage, hj]
  dsimp only
  split
  · exact ⟨[], rfl⟩
  · split
    · exact ⟨_, rfl⟩
    · exact ⟨[], rfl⟩

/-- A journal with a level has one outlet of each kind. -/
theorem Fitted.outletsOf (hr : Fitted r) (hlevel : r.levelOf? name = some level) :
    r.outletsOf name = outfit := by
  unfold levelOf? at hlevel
  unfold Registry.outletsOf
  cases hroot : isRoot name with
  | true =>
    rw [hroot, if_pos rfl] at hlevel
    rw [if_pos rfl]
    rcases hr.root with hnone | hsome
    · rw [hnone] at hlevel
      cases hlevel
    · exact hsome
  | false =>
    rw [hroot, if_neg (by decide)] at hlevel
    obtain ⟨j, hj, _⟩ := Option.map_eq_some_iff.mp hlevel
    rw [if_neg (by decide), hj]
    exact hr.branch j (List.mem_of_find?_eq_some hj)

/-- The root has no lineage but itself. -/
theorem Fitted.lineage_root (hr : Fitted r) (hroot : isRoot name = true) : r.lineage name = [] := by
  have hnone : r.find? name = none := by
    refine List.find?_eq_none.mpr fun j hj hname => ?_
    have hproper := hr.proper j hj
    rw [of_decide_eq_true hname, hroot] at hproper
    cases hproper
  rw [lineage, hnone]

/-- A level that is not zero counts, whatever the levels above. -/
theorem Fitted.level_eq (hr : Fitted r) (hlevel : r.levelOf? name = some level)
    (hne : level ≠ 0) : r.level name = level := by
  unfold levelOf? at hlevel
  cases hroot : isRoot name with
  | true =>
    rw [if_pos hroot] at hlevel
    split at hlevel
    next => cases hlevel
    next =>
      injection hlevel with hlevel
      rw [Registry.level, hr.lineage_root hroot, ← hlevel]
      rfl
  | false =>
    rw [if_neg (by simp [hroot])] at hlevel
    obtain ⟨j, hj, hjlevel⟩ := Option.map_eq_some_iff.mp hlevel
    obtain ⟨rest, hrest⟩ := exists_lineage hj
    rw [Registry.level, hrest, List.find?_cons_of_pos (by simp [hjlevel, hne])]
    exact hjlevel

/-! ## §4. What a record leaves behind -/

/-- A record below the level of its journal leaves nothing. -/
theorem Fitted.write_of_lt (hr : Fitted r) (hlevel : r.levelOf? name = some level) (hpos : 0 < level)
    {x : Record} (hrank : x.rank < level) (isTerminal : Bool) (out : Output) :
    r.write isTerminal name out x = out := by
  have hno : r.enabled name x.rank = false := by
    unfold enabled
    rw [hr.level_eq hlevel (Int.ne_of_gt hpos), decide_eq_false (Int.not_le.mpr hrank),
      Bool.and_false]
  unfold write
  rw [if_neg (by simp [hno])]

/-- Any other record is given to the file once and to the console once. -/
theorem Fitted.write_of_le (hr : Fitted r) (hlevel : r.levelOf? name = some level) (hpos : 0 < level)
    {x : Record} (hrank : level ≤ x.rank) (isTerminal : Bool) (out : Output) :
    r.write isTerminal name out x =
      ⟨out.console ++ (x.consoleLine? isTerminal).getD [], out.file ++ x.fileLine?.getD []⟩ := by
  have hyes : r.enabled name x.rank = true := by
    unfold enabled
    rw [hr.level_eq hlevel (Int.ne_of_gt hpos), decide_eq_true hrank,
      decide_eq_true (Int.lt_of_lt_of_le hpos hrank)]
    rfl
  unfold write
  rw [if_pos hyes, hr.outletsOf hlevel]
  rfl

/-- What a record that says something leaves behind, given the output before and after it. -/
structure Written (isTerminal : Bool) (x : Record) (message : Text) (before after : Output) :
    Prop where
  /-- A terminal shows one line. -/
  terminal : isTerminal = true → after.console = before.console ++ x.terminalText message
  /-- Any other console shows one line, which is not empty, if it sets no title. -/
  console : isTerminal = false → setsTitle (x.terminalText message) = false →
    ∃ line, x.consoleLine? false = some line ∧ after.console = before.console ++ line
  /-- A line that sets a title is lost there. -/
  lost : isTerminal = false → setsTitle (x.terminalText message) = true →
    after.console = before.console
  /-- The file gets one line, if it was made in the calendar and has a UTF-8 form. -/
  file : ∀ made, x.made = some made → (x.fileText made message).isScalar = true →
    after.file = before.file ++ x.fileText made message
  /-- It gets none otherwise. -/
  missing : (∀ made, x.made = some made → (x.fileText made message).isScalar = false) →
    after.file = before.file

end History

/-- A journal, one below it, and the first one again, as modules of a program open them. -/
def family : List Opening := [⟨"a", 10⟩, ⟨"a.b", 10⟩, ⟨"a", 40⟩]

/-- When the records below were made. -/
def newYear : Instant := .ofSeconds 1767268800

/-- A warning of a journal. -/
def warningOf (journal template : Text) : Record :=
  ⟨journal, 30, "WARNING", "mod", "fn", template, [], some newYear⟩

/-- A message that sets the title of a terminal. -/
def titled : Text := 0x1B :: Text.ofString "]0;title" ++ [0x07]

end Registry

end SealedDrop.Journal
