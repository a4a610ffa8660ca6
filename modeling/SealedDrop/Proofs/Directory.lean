/-
  SealedDrop.Proofs.Directory
  ───────────────────────────
  **A PATH MEANS ONE PLACE FOR GOOD.**

  Where `Directory.locate` leads a path changes with the files that are there:
  to a free name before a file is created, to the file afterwards.  The place
  does not change.  `Directory.add` only creates files in directories that are
  there, so no place turns into a directory or ceases to be one, and
  `Directory.follow` leads names the same way as before.

      meant?   — the place of the file that a path leads to, or would create
      add      — the tree with more files
      Adds     — files that are added where there is a directory for them, at
                 places that are free and differ from each other

  Main results:
    • `follow_fits` — a path leads to files that are there, and to names that
      are free in directories that are there,
    • `locate_of_meant`, `location?_of_not_meant` — where a path leads,
    • `meant?_add` — it means the same after any addition,
    • `find?_add_of_some`, `Adds.found` — what is found after an addition,
    • `Adds.trans` — additions one after the other.
-/
import Mathlib.Data.List.Infix
import Mathlib.Data.List.Nodup
import SealedDrop.Directory

namespace SealedDrop

/-- The place of a file that is found, or of a name that is free. -/
def Place.location? : Place → Option Location
  | .file f => some f.location
  | .free l => some l
  | _ => none

namespace Directory

variable {d : Directory} {l k : Location} {names : List Text} {p : Path} {f g : File}
  {new more : List File}

/-! ## §1. Directories -/

/-- **A place is that of a directory iff a known one is there or below.** -/
theorem isDirectory_iff : d.isDirectory l = true ↔ ∃ k ∈ d.known, l <+: k := by
  unfold isDirectory
  simp only [List.any_eq_true, List.isPrefixOf_iff_prefix]

/-- What is above a directory is a directory. -/
theorem isDirectory_above (h : d.isDirectory k = true) (hl : l <+: k) :
    d.isDirectory l = true := by
  obtain ⟨m, hm, hk⟩ := isDirectory_iff.mp h
  exact isDirectory_iff.mpr ⟨m, hm, hl.trans hk⟩

theorem isDirectory_here : d.isDirectory d.here = true :=
  isDirectory_iff.mpr ⟨d.here, List.mem_cons_self, List.prefix_rfl⟩

/-- The top is a directory. -/
theorem isDirectory_nil : d.isDirectory [] = true :=
  isDirectory_above isDirectory_here List.nil_prefix

/-! ## §2. Where names lead -/

theorem location_of_find? (h : d.find? l = some f) : f.location = l := by
  simpa using List.find?_some h

/-- What a place in a tree is said to be, it is. -/
def Fits (d : Directory) : Place → Prop
  | .file f => d.find? f.location = some f
  | .free l => d.find? l = none ∧ d.isDirectory l.dropLast = true
  | _ => True

/-- **Names lead to files that are there, and to names that are free in directories that are
there.** -/
theorem follow_fits (hl : d.isDirectory l = true) : d.Fits (d.follow l names) := by
  -- along the names, from one directory to the next
  induction names generalizing l with
  | nil => exact trivial
  | cons n r ih =>
    unfold follow
    split
    next => exact ih (isDirectory_above hl <| List.dropLast_prefix l)
    next =>
      split
      next => exact trivial
      next =>
        dsimp only
        split
        next hbelow => exact ih hbelow
        next =>
          cases hfind : d.find? (l ++ [Path.nameOnDisk n]) with
          | some f =>
            cases r with
            | nil =>
              show d.find? f.location = some f
              rw [location_of_find? hfind]
              exact hfind
            | cons m r => exact trivial
          | none =>
            cases r with
            | nil =>
              refine ⟨hfind, ?_⟩
              rw [List.dropLast_concat]
              exact hl
            | cons m r => exact trivial

/-- Paths lead likewise. -/
theorem locate_fits (d : Directory) (p : Path) : d.Fits (d.locate p) := by
  unfold locate
  split
  next => exact trivial
  next =>
    refine follow_fits ?_
    split
    next => exact isDirectory_here
    next => exact isDirectory_nil

/-- The place of the file that a path leads to, or of the name that is free for it. -/
def meant? (d : Directory) (p : Path) : Option Location :=
  match p.flaw? with
  | some _ => none
  | none => (d.locate p).location?

/-- **A path leads to the file at the place that it means**, or to the name that is free for it, in
a directory that is there. -/
theorem locate_of_meant (h : d.meant? p = some l) :
    p.flaw? = none ∧ ((∃ f, d.find? l = some f ∧ d.locate p = .file f)
      ∨ (d.find? l = none ∧ d.isDirectory l.dropLast = true ∧ d.locate p = .free l)) := by
  unfold meant? at h
  cases hflaw : p.flaw? with
  | some e =>
    rw [hflaw] at h
    cases h
  | none =>
    rw [hflaw] at h
    dsimp only at h
    have hfits := locate_fits d p
    cases hplace : d.locate p with
    | file f =>
      rw [hplace] at h hfits
      obtain rfl := Option.some.inj h
      exact ⟨rfl, .inl ⟨f, hfits, rfl⟩⟩
    | free k =>
      rw [hplace] at h hfits
      obtain rfl := Option.some.inj h
      exact ⟨rfl, .inr ⟨hfits.1, hfits.2, rfl⟩⟩
    | directory | belowFile | nowhere | overlong =>
      rw [hplace] at h
      cases h

/-- **A path that means no place leads to no file**, and to no free name either. -/
theorem location?_of_not_meant (h : d.meant? p = none) (hflaw : p.flaw? = none) :
    (d.locate p).location? = none := by
  unfold meant? at h
  rw [hflaw] at h
  exact h

/-! ## §3. Files that are added -/

/-- The tree with more files. -/
def add (d : Directory) (new : List File) : Directory := { d with files := d.files ++ new }

@[simp] theorem add_nil (d : Directory) : d.add [] = d := by
  unfold add
  rw [List.append_nil]

theorem add_add (d : Directory) (new more : List File) :
    (d.add new).add more = d.add (new ++ more) := by
  unfold add
  rw [List.append_assoc]

/-- **Changing the file that was just added is adding another one in its place.** -/
theorem change_add (h : d.find? f.location = none) (g : File → File) :
    (d.add [f]).change f.location g = d.add [g f] := by
  have hkeep : d.files.map (fun x => if x.location = f.location then g x else x) = d.files := by
    refine (List.map_congr_left fun x hx => if_neg ?_).trans (List.map_id' d.files)
    simpa using List.find?_eq_none.mp h x hx
  unfold add change
  rw [List.map_append, hkeep, List.map_singleton, if_pos rfl]

/-- Files are added to a tree: each in a directory that is there, at places that are free, and at no
place twice. -/
structure Adds (d : Directory) (new : List File) : Prop where
  /-- The places are free. -/
  free : ∀ f ∈ new, d.find? f.location = none
  /-- They differ. -/
  distinct : (new.map File.location).Nodup
  /-- There is a directory for each. -/
  housed : ∀ f ∈ new, d.isDirectory f.folder = true

theorem adds_nil (d : Directory) : Adds d [] := ⟨by simp, List.nodup_nil, by simp⟩

/-- **A file stays what it is when others are added.** -/
theorem find?_add_of_some (h : d.find? l = some f) : (d.add new).find? l = some f := by
  unfold find? add at *
  rw [List.find?_append, h]
  rfl

/-- A place that is free after an addition was free before, and is not one of those added. -/
theorem find?_add_eq_none :
    (d.add new).find? l = none ↔ d.find? l = none ∧ ∀ f ∈ new, f.location ≠ l := by
  unfold find? add
  simp only [List.find?_append, Option.or_eq_none_iff, List.find?_eq_none, decide_eq_true_eq]

/-- **No place becomes a directory when files are added.** -/
theorem isDirectory_add (h : Adds d new) (l : Location) :
    (d.add new).isDirectory l = d.isDirectory l := by
  rw [Bool.eq_iff_iff]
  constructor
  · intro hl
    obtain ⟨k, hk, habove⟩ := isDirectory_iff.mp hl
    have hknown : k ∈ d.known ∨ ∃ f ∈ new, f.folder = k := by
      simpa [known, add, or_assoc] using hk
    -- a folder of a new file was a directory before
    rcases hknown with hk | ⟨f, hf, rfl⟩
    · exact isDirectory_iff.mpr ⟨k, hk, habove⟩
    · exact isDirectory_above (h.housed f hf) habove
  · intro hl
    obtain ⟨k, hk, habove⟩ := isDirectory_iff.mp hl
    refine isDirectory_iff.mpr ⟨k, ?_, habove⟩
    rcases List.mem_cons.mp hk with rfl | hk
    · exact List.mem_cons_self
    · refine List.mem_cons_of_mem _ ?_
      rcases List.mem_append.mp hk with hk | hk
      · exact List.mem_append_left _ hk
      · obtain ⟨f, hf, rfl⟩ := List.mem_map.mp hk
        exact List.mem_append_right _ (List.mem_map.mpr ⟨f, List.mem_append_left _ hf, rfl⟩)

/-- Names lead to the same place after an addition. -/
theorem location?_follow_add (h : Adds d new) (l : Location) (names : List Text) :
    ((d.add new).follow l names).location? = (d.follow l names).location? := by
  -- along the names: directories are the same, and a name that was free may be taken now
  induction names generalizing l with
  | nil => rfl
  | cons n r ih =>
    unfold follow
    by_cases hup : n = Path.upwards
    · rw [if_pos hup, if_pos hup]
      exact ih _
    rw [if_neg hup, if_neg hup]
    by_cases hlong : Path.isOverlong n = true
    · rw [if_pos hlong, if_pos hlong]
    rw [if_neg hlong, if_neg hlong]
    dsimp only
    rw [isDirectory_add h]
    by_cases hbelow : d.isDirectory (l ++ [Path.nameOnDisk n]) = true
    · rw [if_pos hbelow, if_pos hbelow]
      exact ih _
    rw [if_neg hbelow, if_neg hbelow]
    cases hfind : d.find? (l ++ [Path.nameOnDisk n]) with
    | some f => rw [find?_add_of_some hfind]
    | none =>
      cases hnew : (d.add new).find? (l ++ [Path.nameOnDisk n]) with
      | none => rfl
      | some f =>
        cases r with
        | nil => exact congrArg some (location_of_find? hnew)
        | cons m r => rfl

/-- **A path means the same place after an addition.** -/
theorem meant?_add (h : Adds d new) (p : Path) : (d.add new).meant? p = d.meant? p := by
  unfold meant? locate
  cases p.flaw? with
  | some e => rfl
  | none =>
    dsimp only
    by_cases hlong : Path.maxPath < Path.octetCount p.text
    · rw [if_pos hlong, if_pos hlong]
    rw [if_neg hlong, if_neg hlong]
    exact location?_follow_add h _ _

/-- Additions one after the other are an addition. -/
theorem Adds.trans (h : Adds d new) (h' : Adds (d.add new) more) : Adds d (new ++ more) := by
  -- what comes later is free of the old files and of the new ones
  have hfree : ∀ g ∈ more, d.find? g.location = none ∧ ∀ f ∈ new, f.location ≠ g.location :=
    fun g hg => find?_add_eq_none.mp (h'.free g hg)
  refine ⟨?free, ?distinct, ?housed⟩
  case free =>
    intro g hg
    rcases List.mem_append.mp hg with hg | hg
    · exact h.free g hg
    · exact (hfree g hg).1
  case distinct =>
    rw [List.map_append]
    refine List.nodup_append.mpr ⟨h.distinct, h'.distinct, ?_⟩
    intro x hx y hy
    obtain ⟨f, hf, rfl⟩ := List.mem_map.mp hx
    obtain ⟨g, hg, rfl⟩ := List.mem_map.mp hy
    exact (hfree g hg).2 f hf
  case housed =>
    intro g hg
    rcases List.mem_append.mp hg with hg | hg
    · exact h.housed g hg
    · rw [← isDirectory_add h]
      exact h'.housed g hg

/-- **A file that was added is found.** -/
theorem Adds.found (h : Adds d new) (hf : f ∈ new) : (d.add new).find? f.location = some f := by
  have hfree := h.free f hf
  unfold find? add at *
  rw [List.find?_append, hfree, Option.none_or]
  cases hfind : List.find? (fun g => decide (g.location = f.location)) new with
  | none => simpa using List.find?_eq_none.mp hfind f hf
  | some g =>
    -- the places differ, so no other file has this one
    have hplace : g.location = f.location := by simpa using List.find?_some hfind
    rw [List.inj_on_of_nodup_map h.distinct (List.mem_of_find?_eq_some hfind) hf hplace]

end Directory

end SealedDrop
