/-
  SealedDrop.Journal.Registry
  ───────────────────────────
  **JOURNALS BY NAME.**

  Journals form a tree by their dotted names, under one ROOT that has no name
  of its own.  Opening a journal under a name creates it, or sets the level of
  the one that is there.  A new journal hangs under the nearest of its
  ancestors that has been opened, and takes over the journals that belong
  below it.

  A journal that has no OUTLET yet gets one of each kind when it is opened: the
  file and the console.  One that has some keeps them, so that opening a name
  again and again does not multiply what is written.

      Registry.opened     — the registry after a journal is opened
      Registry.lineage    — a journal and those above it
      Registry.level      — the level that counts for a journal: its own, or
                            else that of the nearest one above that has one
      Registry.outletsOf  — the outlets of a journal
      Registry.write      — what a record leaves behind

  A record goes to the outlets of the journal that it is handed to, and to no
  others: the journals above lend `Registry.level` their level, and nothing
  else.

  Main statement: opening a journal sets its level and no other's
  (`Registry.levelOf?_opened`).
-/
import SealedDrop.Journal.Line

namespace SealedDrop.Journal

/-- Where a journal writes to. -/
inductive Outlet where
  /-- The file. -/
  | file
  /-- The console. -/
  | console
  deriving DecidableEq, Repr

/-- A journal that has been opened, other than the root. -/
structure Branch where
  /-- Its name. -/
  name : Text
  /-- Its own level; zero leaves the matter to those above. -/
  level : Int
  /-- The name of the journal above it, if that is not the root. -/
  above : Option Text
  /-- Its outlets. -/
  outlets : List Outlet
  deriving DecidableEq, Repr

/-- All journals. -/
structure Registry where
  /-- The level of the root. -/
  rootLevel : Int
  /-- The outlets of the root. -/
  rootOutlets : List Outlet
  /-- The other journals that have been opened. -/
  branches : List Branch
  deriving DecidableEq, Repr

namespace Registry

/-- The name of the root. -/
def rootName : Text := "root"

/-- No journal is open; the root lets warnings pass, and has nowhere to write them. -/
def initial : Registry := ⟨Level.warning.rank, [], []⟩

/-- The names of the root. -/
def isRoot (name : Text) : Bool := name = [] || name = rootName

/-- The journal of a name. -/
def find? (r : Registry) (name : Text) : Option Branch := r.branches.find? fun j => j.name = name

/-! ## §1. The tree -/

/-- The ancestors of a name that is given backwards, nearest first.  `dotted` says that a dot was
just passed; a second one right after it does not count. -/
def ancestorsFrom (dotted : Bool) : Text → List Text
  | [] => []
  | c :: before =>
    if c = CodePoint.ofChar '.' ∧ !dotted then
      (if before.isEmpty then [] else [before.reverse]) ++ ancestorsFrom true before
    else ancestorsFrom false before

/-- The ancestors of a name, nearest first: what stands before each of its dots. -/
def ancestors (name : Text) : List Text := ancestorsFrom false name.reverse

/-- The nearest ancestor of a name that has been opened. -/
def above? (r : Registry) (name : Text) : Option Text :=
  (ancestors name).find? fun a => (r.find? a).isSome

/-- A journal after one named `name` is opened: it moves below that one if it belongs there,
unless the name of the journal above it begins with `name` already.  The root counts with its own
name here, so a journal named `r` takes nothing over from it. -/
def adoptedBy (name : Text) (j : Branch) : Branch :=
  if (ancestors j.name).contains name && !Text.startsWith (j.above.getD rootName) name then
    { j with above := some name }
  else j

/-- One outlet of each kind. -/
def outfit : List Outlet := [.file, .console]

/-- The outlets of a journal once it is opened: those that it has, or an outfit if it has none. -/
def fitted (outlets : List Outlet) : List Outlet := if outlets.isEmpty then outfit else outlets

/-- A journal that is opened again. -/
def reopened (level : Int) (j : Branch) : Branch :=
  { j with level, outlets := fitted j.outlets }

/-- The registry after a journal is opened with a level. -/
def opened (r : Registry) (name : Text) (level : Int) : Registry :=
  if isRoot name then { r with rootLevel := level, rootOutlets := fitted r.rootOutlets }
  else if (r.find? name).isSome then
    { r with branches := r.branches.map fun j => if j.name = name then reopened level j else j }
  else
    { r with
      branches := r.branches.map (adoptedBy name) ++ [⟨name, level, r.above? name, fitted []⟩] }

/-! ## §2. Lineage -/

/-- The opened journals from one name upwards, without the root; names get shorter on the way. -/
def lineage (r : Registry) (name : Text) : List Branch :=
  match r.find? name with
  | none => []
  | some j =>
    match j.above with
    | none => [j]
    | some a => if a.length < name.length then j :: r.lineage a else [j]
termination_by name.length

/-- The level that counts for a journal. -/
def level (r : Registry) (name : Text) : Int :=
  match (r.lineage name).find? fun j => j.level ≠ 0 with
  | some j => j.level
  | none => r.rootLevel

/-- Whether a record of this rank is written.  Ranks that are not positive never are. -/
def enabled (r : Registry) (name : Text) (rank : Int) : Bool := 0 < rank && r.level name ≤ rank

/-- The outlets of a journal. -/
def outletsOf (r : Registry) (name : Text) : List Outlet :=
  if isRoot name then r.rootOutlets else ((r.find? name).map Branch.outlets).getD []

/-! ## §3. Writing -/

/-- What has been written. -/
structure Output where
  /-- On the console. -/
  console : Text
  /-- To the file. -/
  file : Text
  deriving DecidableEq, Repr

/-- The output once an outlet has been given a record; an outlet that can make no line of it adds
nothing. -/
def Output.add (isTerminal : Bool) (x : Record) (out : Output) : Outlet → Output
  | .file => { out with file := out.file ++ x.fileLine?.getD [] }
  | .console => { out with console := out.console ++ (x.consoleLine? isTerminal).getD [] }

/-- The output once the journal of a name has been handed a record. -/
def write (r : Registry) (isTerminal : Bool) (name : Text) (out : Output) (x : Record) : Output :=
  if r.enabled name x.rank then (r.outletsOf name).foldl (Output.add isTerminal x) out else out

/-! ## §4. Small laws -/

/-- The level that a journal was last opened with. -/
def levelOf? (r : Registry) (name : Text) : Option Int :=
  if isRoot name then (if r.rootOutlets.isEmpty then none else some r.rootLevel)
  else (r.find? name).map Branch.level

/-- A journal that was opened has somewhere to write. -/
theorem fitted_ne_nil (outlets : List Outlet) : fitted outlets ≠ [] := by
  unfold fitted
  split
  next => exact List.cons_ne_nil _ _
  next h => exact fun hnil => h (List.isEmpty_iff.mpr hnil)

/-- Adoption keeps the name. -/
@[simp] theorem adoptedBy_name (name : Text) (j : Branch) :
    (adoptedBy name j).name = j.name := by
  unfold adoptedBy; split <;> rfl

/-- Adoption keeps the level. -/
@[simp] theorem adoptedBy_level (name : Text) (j : Branch) :
    (adoptedBy name j).level = j.level := by
  unfold adoptedBy; split <;> rfl

/-- Adoption keeps the outlets. -/
@[simp] theorem adoptedBy_outlets (name : Text) (j : Branch) :
    (adoptedBy name j).outlets = j.outlets := by
  unfold adoptedBy; split <;> rfl

/-- A journal keeps its place in a search by name when its name is kept. -/
theorem find?_map_branch (f : Branch → Branch) (hf : ∀ j, (f j).name = j.name)
    (js : List Branch) (name : Text) :
    (js.map f).find? (fun j => j.name = name) = (js.find? fun j => j.name = name).map f := by
  have same : (fun j : Branch => decide (j.name = name)) ∘ f = fun j => decide (j.name = name) := by
    funext j
    exact congrArg (fun n => decide (n = name)) (hf j)
  rw [List.find?_map, same]

/-- What a search finds after a journal is opened. -/
theorem find?_opened (r : Registry) {name : Text} (level : Int) (other : Text)
    (hn : isRoot name = false) :
    (r.opened name level).find? other =
      match r.find? name with
      | some _ => (r.find? other).map fun j => if j.name = name then reopened level j else j
      | none =>
        ((r.find? other).map (adoptedBy name)).or
          (if name = other then some ⟨name, level, r.above? name, outfit⟩ else none) := by
  have hset : ∀ j : Branch, (if j.name = name then reopened level j else j).name = j.name :=
    fun j => by split <;> rfl
  unfold opened
  rw [if_neg (by simp [hn])]
  cases hf : r.find? name with
  | some j =>
    rw [if_pos Option.isSome_some]
    exact find?_map_branch _ hset r.branches other
  | none =>
    rw [if_neg (by simp)]
    simp only [find?, List.find?_append, find?_map_branch _ (adoptedBy_name name)]
    by_cases h : name = other <;> simp [h, fitted]

/-- Opening a journal sets its level and no other's. -/
theorem levelOf?_opened (r : Registry) (name other : Text) (level : Int) :
    (r.opened name level).levelOf? other =
      if other = name ∨ (isRoot other ∧ isRoot name) then some level else r.levelOf? other := by
  by_cases hn : isRoot name
  · by_cases ho : isRoot other
    · simp [opened, levelOf?, hn, ho, fitted_ne_nil]
    · have : other ≠ name := fun e => ho (e ▸ hn)
      simp [opened, levelOf?, find?, hn, ho, this]
  · have hn : isRoot name = false := by simpa using hn
    have hkeep : (r.opened name level).rootLevel = r.rootLevel
        ∧ (r.opened name level).rootOutlets = r.rootOutlets := by
      unfold opened; rw [if_neg (by simp [hn])]; split <;> exact ⟨rfl, rfl⟩
    by_cases ho : isRoot other
    · have : other ≠ name := fun e => by simp [e, hn] at ho
      simp [levelOf?, ho, hn, this, hkeep.1, hkeep.2]
    · have ho : isRoot other = false := by simpa using ho
      have named : ∀ k, r.find? other = some k → k.name = other := fun k hk => by
        simpa using List.find?_some hk
      simp only [levelOf?, ho, hn, find?_opened r level other hn, Bool.false_eq_true, if_false,
        and_false, or_false]
      by_cases he : other = name
      · subst he
        cases hf : r.find? other with
        | none => simp
        | some j => simp [named j hf, reopened]
      · have he' : name ≠ other := fun e => he e.symm
        cases r.find? name <;> cases hf : r.find? other with
        | none => simp [he, he']
        | some k => simp [named k hf, he]

end Registry

end SealedDrop.Journal
