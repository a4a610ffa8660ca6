/-
  SealedDrop.Proofs.Config.Loading
  ────────────────────────────────
  **LOADING A CONFIGURATION MERGES, OR REJECTS WITH REASONS.**

  `Config.load` makes a configuration of two texts: a shared document and, if one
  is named, a specific one, whose entries go before those of the first.

      shared text ── read ──┐
                            ├── laid over ── validate ── a configuration
      specific text ─ read ─┘                          └─ a list of faults

  The merged table is described by what its names say (`Merged`); two tables
  that say the same are validated alike, so nothing depends on the order in which
  the names were written.

  The end is a configuration, a text that is no document, or a rejection, with
  three exceptions: a level that is neither text nor number, a number with more
  digits than can be read, and values nested too deep.

  Main results:
    • `load_outcome` — every end of loading, with the documents that lead to it,
    • `not_cleanEnd_dateLevel` — a document that loading does not reject cleanly.
-/
import SealedDrop.Proofs.Config.Validation
import SealedDrop.Proofs.Text.Utf8

namespace SealedDrop.Config

open Toml (Table)

/-! ## §1. Two documents -/

/-- The table of two documents: each name of the specific one has its value there, whatever it is,
and every other name its value in the shared one. -/
inductive Merged (x : Text) : Option Text → Table → Prop where
  /-- There is a shared document only. -/
  | shared {t : Table} (ht : Toml.read x = .ok t) : Merged x none t
  /-- There are both. -/
  | both {y : Text} {t u m : Table} (ht : Toml.read x = .ok t) (hu : Toml.read y = .ok u)
      (hm : ∀ k, Table.find? k m = (Table.find? k u).or (Table.find? k t)) : Merged x (some y) m

/-- The first fault of two documents, the shared one going first. -/
inductive FirstFault (x : Text) : Option Text → Toml.Fault → Prop where
  /-- The shared document cannot be read. -/
  | shared {y : Option Text} {f : Toml.Fault} (hf : Toml.read x = .error f) : FirstFault x y f
  /-- The shared document can be read, and the specific one cannot. -/
  | specific {y : Text} {t : Table} {f : Toml.Fault} (ht : Toml.read x = .ok t)
      (hf : Toml.read y = .error f) : FirstFault x (some y) f

/-- The documents of two texts put together. -/
def combine (x : Text) (y : Option Text) : Except Toml.Fault Table := do
  let t ← Toml.read x
  match y with
  | none => return t
  | some y =>
    let u ← Toml.read y
    return Table.override t u

section Combine

variable {x : Text} {y : Option Text} {m m' : Table} {f : Toml.Fault}

theorem combine_eq_error_iff : combine x y = .error f ↔ FirstFault x y f := by
  unfold combine
  rw [Result.bind_eq_error_iff]
  constructor
  · rintro (hx | ⟨t, ht, h⟩)
    · exact .shared hx
    · cases y with
      | none => cases h
      | some y =>
        obtain hy | ⟨u, _, h⟩ := Result.bind_eq_error_iff.mp h
        · exact .specific ht hy
        · cases h
  · rintro (hx | ⟨ht, hy⟩)
    · exact .inl hx
    · exact .inr ⟨_, ht, Result.bind_eq_error_iff.mpr (.inl hy)⟩

theorem merged_of_combine (h : combine x y = .ok m) : Merged x y m := by
  obtain ⟨t, ht, h⟩ := Result.bind_eq_ok_iff.mp h
  cases y with
  | none =>
    cases h
    exact .shared ht
  | some y =>
    obtain ⟨u, hu, h⟩ := Result.bind_eq_ok_iff.mp h
    cases h
    exact .both ht hu fun k => Table.find?_override (Toml.distinct_of_read hu)

/-- Merged tables say the same. -/
theorem Merged.find?_eq (h : Merged x y m) (h' : Merged x y m') (k : Text) :
    Table.find? k m = Table.find? k m' := by
  cases h with
  | shared ht =>
    cases h' with
    | shared ht' =>
      rw [ht] at ht'
      cases ht'
      rfl
  | both ht hu hm =>
    cases h' with
    | both ht' hu' hm' =>
      rw [ht] at ht'
      rw [hu] at hu'
      cases ht'
      cases hu'
      rw [hm, hm']

/-- Documents with a fault are not merged. -/
theorem FirstFault.not_merged (hf : FirstFault x y f) : ¬ Merged x y m := by
  intro hm
  cases hf with
  | shared hf =>
    cases hm with
    | shared ht => exact nomatch hf.symm.trans ht
    | both ht _ _ => exact nomatch hf.symm.trans ht
  | specific _ hf =>
    cases hm with
    | both _ hu _ => exact nomatch hf.symm.trans hu

/-- What validation makes of one merged table it makes of all. -/
theorem exists_merged_iff {P : Except Refusal Config → Prop} {Q : Table → Prop}
    (hPQ : ∀ t, P (validate t) ↔ Q t) (hm : Merged x y m) :
    P (validate m) ↔ ∃ n, Merged x y n ∧ Q n := by
  constructor
  · intro h
    exact ⟨m, hm, (hPQ m).mp h⟩
  · rintro ⟨n, hn, h⟩
    rw [validate_congr (hm.find?_eq hn)]
    exact (hPQ n).mpr h

end Combine

/-! ## §2. Files -/

/-- A path leads to a file that holds a text. -/
def FileText (d : Directory) (path : Text) (x : Text) : Prop :=
  ∃ f, d.read? (Path.ofText path) = .ok f ∧ Utf8.decode f.content = .ok x

section Load

variable {d : Directory} {s : Sources} {path x : Text} {y : Option Text}

theorem readFile_eq (h : FileText d path x) :
    readFile d path = (Toml.read x).mapError .document := by
  obtain ⟨f, hf, hx⟩ := h
  unfold readFile
  rw [hf]
  dsimp only
  rw [hx]

/-- Loading puts the documents together and validates what comes out. -/
theorem load_eq (hx : FileText d s.sharedFile x) (hy : Option.Rel (FileText d) s.specificFile? y) :
    load d s = ((combine x y).mapError .document).bind validate := by
  unfold load combine
  rw [readFile_eq hx]
  cases hxt : Toml.read x with
  | error f => rfl
  | ok t =>
    cases hspecific : s.specificFile? with
    | none =>
      rw [hspecific] at hy
      cases hy
      rfl
    -- the second file is only read when the first can be
    | some path =>
      rw [hspecific] at hy
      cases hy with
      | @some _ y hy =>
        show (readFile d path).bind (fun u => validate (Table.override t u))
          = (((Toml.read y).bind fun u => .ok (Table.override t u)).mapError .document).bind validate
        rw [readFile_eq hy]
        cases Toml.read y with
        | error f => rfl
        | ok u => rfl

end Load

/-! ## §3. How loading ends -/

/-- The ends that loading is meant to have: a configuration, a text that is no document, or a
rejection. -/
inductive CleanEnd : Except Refusal Config → Prop where
  /-- There is a configuration. -/
  | loaded (c : Config) : CleanEnd (.ok c)
  /-- A text is no document. -/
  | malformed : CleanEnd (.error (.document .malformed))
  /-- The documents do not make a configuration. -/
  | rejected (r : Form.Rejection) : CleanEnd (.error (.rejected r))

/-- Every end of loading a shared text `x` and perhaps a specific text `y`, with what leads to it. -/
structure Outcome (x : Text) (y : Option Text) (result : Except Refusal Config) : Prop where
  /-- A configuration comes out iff the merged documents hold it. -/
  loaded : ∀ c, result = .ok c ↔ ∃ m, Merged x y m ∧ Fits m c
  /-- The fault of a document comes out iff it is the first. -/
  document : ∀ f, result = .error (.document f) ↔ FirstFault x y f
  /-- The merged documents are rejected iff they hold no configuration, and their level, if they
  have one, is a text or a number. -/
  rejected : (∃ r, result = .error (.rejected r)) ↔
    ∃ m, Merged x y m ∧ PlainLevel m ∧ ∀ c, ¬ Fits m c
  /-- What they are rejected for is there to be seen: at every place that is named nothing stands,
  or a value that is refused. -/
  blamed : ∀ r, result = .error (.rejected r) → r.title = "Config" ∧ r.faults ≠ []
    ∧ ∀ m, Merged x y m → ∀ f ∈ r.faults, Blames m f
  /-- The fault of its own comes out iff the level is neither a text nor a number. -/
  foreign : ∀ kind, result = .error (.foreignLevel kind) ↔ ∃ m, Merged x y m
    ∧ (Table.at? ["logging", "level"] m).bind foreignKind? = some kind
  /-- The end is as it is meant to be iff a document that cannot be read breaks the rules of the
  format, and the level is a text or a number. -/
  clean : CleanEnd result ↔
    (∀ f, FirstFault x y f → f = .malformed) ∧ ∀ m, Merged x y m → PlainLevel m

section Outcome

variable {x : Text} {y : Option Text} {m : Table} {f : Toml.Fault}

theorem outcome_of_fault (hf : FirstFault x y f) : Outcome x y (.error (.document f)) where
  loaded := fun c => ⟨nofun, fun ⟨_, hm, _⟩ => absurd hm hf.not_merged⟩
  document := by
    intro g
    rw [← combine_eq_error_iff, combine_eq_error_iff.mpr hf]
    simp
  rejected := ⟨nofun, fun ⟨_, hm, _⟩ => absurd hm hf.not_merged⟩
  blamed := nofun
  foreign := fun kind => ⟨nofun, fun ⟨_, hm, _⟩ => absurd hm hf.not_merged⟩
  clean := by
    constructor
    · rintro ⟨⟩
      refine ⟨?_, fun m hm => absurd hm hf.not_merged⟩
      intro g hg
      have hsame := (combine_eq_error_iff.mpr hg).symm.trans (combine_eq_error_iff.mpr hf)
      exact Except.error.inj hsame
    · rintro ⟨hmalformed, _⟩
      rw [hmalformed f hf]
      exact .malformed

/-- Validation ends in one of three ways. -/
theorem validate_cases (t : Table) : (∃ c, validate t = .ok c)
    ∨ (∃ r, validate t = .error (.rejected r))
    ∨ ∃ kind, validate t = .error (.foreignLevel kind) := by
  unfold validate
  cases foreignLevel? t with
  | some kind => exact .inr (.inr ⟨kind, rfl⟩)
  | none =>
    cases ofTable t with
    | ok c => exact .inl ⟨c, rfl⟩
    | error fs => exact .inr (.inl ⟨_, rfl⟩)

theorem outcome_of_merged (hm : Merged x y m) : Outcome x y (validate m) where
  loaded := fun c => exists_merged_iff (P := (· = .ok c)) (fun _ => validate_eq_ok_iff) hm
  document := by
    intro f
    refine ⟨?_, fun hf => absurd hm hf.not_merged⟩
    obtain ⟨_, h⟩ | ⟨_, h⟩ | ⟨_, h⟩ := validate_cases m
    · exact fun hdocument => nomatch h.symm.trans hdocument
    · exact fun hdocument => nomatch h.symm.trans hdocument
    · exact fun hdocument => nomatch h.symm.trans hdocument
  rejected := exists_merged_iff (P := fun e => ∃ r, e = .error (.rejected r))
    (fun _ => validate_eq_rejected_iff) hm
  blamed := by
    intro r hr
    obtain ⟨htitle, hne, _⟩ := blames_of_validate hr
    refine ⟨htitle, hne, fun n hn => ?_⟩
    -- any other merged table has the same entries
    rw [validate_congr (hm.find?_eq hn)] at hr
    exact (blames_of_validate hr).2.2
  foreign := fun kind => exists_merged_iff (P := (· = .error (.foreignLevel kind)))
    (fun _ => validate_eq_foreign_iff) hm
  clean := by
    constructor
    · intro hclean
      refine ⟨fun f hf => absurd hm hf.not_merged, fun n hn => ?_⟩
      rw [validate_congr (hm.find?_eq hn)] at hclean
      rw [← foreignLevel?_eq_none_iff]
      cases hlevel : foreignLevel? n with
      | none => rfl
      | some kind =>
        rw [validate, hlevel] at hclean
        cases hclean
    · rintro ⟨_, hlevel⟩
      obtain ⟨c, h⟩ | ⟨r, h⟩ | ⟨kind, h⟩ := validate_cases m
      · exact h ▸ .loaded c
      · exact h ▸ .rejected r
      · rw [validate, foreignLevel?_eq_none_iff.mpr (hlevel m hm)] at h
        obtain ⟨_, _, hrejected⟩ := Result.mapError_eq_error_iff.mp h
        cases hrejected

/-- **Loading two texts ends as their documents say: with the configuration that the merged
documents hold, with the fault of a document, with a rejection that points at what is wrong, or, when
the level is neither a text nor a number, with a fault of its own.** -/
theorem load_outcome {d : Directory} {s : Sources} (hx : FileText d s.sharedFile x)
    (hy : Option.Rel (FileText d) s.specificFile? y) : Outcome x y (load d s) := by
  rw [load_eq hx hy]
  cases hm : combine x y with
  | error f => exact outcome_of_fault (combine_eq_error_iff.mp hm)
  | ok m => exact outcome_of_merged (merged_of_combine hm)

end Outcome

/-! ## §4. Some documents -/

/-- A file at the top that holds a text. -/
def fileOf (name x : Text) : File := ⟨[name], x.flatMap Utf8.encodePoint, .readable⟩

/-- A directory at the top with some files. -/
def holding (files : List File) : Directory := ⟨[], [], files⟩

/-- A path that leads to the file leads to the text. -/
theorem fileText_fileOf {d : Directory} {path x : Text} (name : Text) (hx : x.isScalar = true)
    (h : d.read? (Path.ofText path) = .ok (fileOf name x)) : FileText d path x :=
  ⟨fileOf name x, h, Utf8.decode_eq_ok_iff.mpr ⟨hx, rfl⟩⟩

/-- A document that leaves out what may be left out. -/
def sharedSample : Text :=
  "[general]\ntitle = 'drop'\n[database]\npath = 'sqlite://'\n[paths]\nlogs = 'logs'\n"
    ++ "[logging]\nlevel = 'debug'\n[sharing]\npublic_url = 'http://x'\n"
    ++ "[network]\nhost = 'h'\nport = 80\nreload = false\n"
    ++ "rate_limit = \x7b timeout_period = 30, requests_per_second = 10 \x7d\n"

/-- A document that only says how long envelopes may be. -/
def specificSample : Text := "[sharing]\nmax_data_length = 10\n"

/-- A directory with both. -/
def samples : Directory := holding [fileOf "config.toml" sharedSample, fileOf "s.toml" specificSample]

/-- The specific document replaces the whole table of the shared one. -/
theorem load_samples : (load samples ⟨none, none, some "s.toml"⟩).toOption =
    some ⟨⟨"drop"⟩, ⟨"sqlite://"⟩, ⟨"logs"⟩, ⟨10⟩, ⟨10, Sharing.usual.publicUrl⟩,
      ⟨"h", 80, false, ⟨30, 10⟩⟩⟩ := by
  decide +kernel

/-- Both documents make a configuration, and the specific one alone makes none. -/
theorem load_outcome_samples :
    Outcome sharedSample (some specificSample) (load samples ⟨none, none, some "s.toml"⟩)
    ∧ (∃ c, load samples ⟨none, none, some "s.toml"⟩ = .ok c)
    ∧ Outcome specificSample none (load samples ⟨some "s.toml", none, none⟩)
    ∧ (load samples ⟨some "s.toml", none, none⟩).toOption = none := by
  have hshared : FileText samples usualFile sharedSample :=
    fileText_fileOf "config.toml" (by decide +kernel) (by decide +kernel)
  have hspecific : FileText samples "s.toml" specificSample :=
    fileText_fileOf "s.toml" (by decide +kernel) (by decide +kernel)
  refine ⟨load_outcome hshared (.some hspecific), ?_, load_outcome hspecific .none, by decide +kernel⟩
  have hload := load_samples
  cases h : load samples ⟨none, none, some "s.toml"⟩ with
  | ok c => exact ⟨c, rfl⟩
  | error why =>
    rw [h] at hload
    cases hload

/-- A document in which a date stands for the level. -/
def dateLevel : Text := "[logging]\nlevel = 2026-01-01\n"

/-- **A date for a level is not rejected: looking it up by its name fails.** -/
theorem not_cleanEnd_dateLevel :
    FileText (holding [fileOf "config.toml" dateLevel]) usualFile dateLevel
      ∧ ¬ CleanEnd (load (holding [fileOf "config.toml" dateLevel]) ⟨none, none, none⟩) := by
  have hkind : (Toml.read dateLevel).toOption.bind foreignLevel? = some "datetime.date" := by
    decide +kernel
  have htext : FileText (holding [fileOf "config.toml" dateLevel]) usualFile dateLevel :=
    fileText_fileOf "config.toml" (by decide) (by decide +kernel)
  refine ⟨htext, ?_⟩
  -- the level of the one file is a date, which is of a foreign kind
  rw [load_eq (y := none) htext .none, combine]
  cases hread : Toml.read dateLevel with
  | error f =>
    rw [hread] at hkind
    cases hkind
  | ok t =>
    rw [hread] at hkind
    have hlevel : foreignLevel? t = some "datetime.date" := hkind
    show ¬ CleanEnd (validate t)
    unfold validate
    rw [hlevel]
    nofun

end SealedDrop.Config
