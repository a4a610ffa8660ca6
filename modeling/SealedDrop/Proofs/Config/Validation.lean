/-
  SealedDrop.Proofs.Config.Validation
  ───────────────────────────────────
  **WHEN A TABLE IS A CONFIGURATION, AND WHAT IS WRONG WHEN IT IS NOT.**

  The forms of a configuration are nested: a table holds one table for each
  part of the service, and the part on the network holds one more.  What a form
  accepts is said here value by value, each at the key that leads to it:

      part "Network" (.. part "RateLimit" (.. entry int "timeout_period" ..))
        reads t   iff   network.rate_limit.timeout_period leads to a number, ..

  and what it refuses is said fault by fault: each points at a place where
  nothing stands, or where the value that stands there cannot be read.  Both are
  laws of the combinators first (`entry`, `part`, `both`), and of a
  configuration because it is put together from them.

  One value slips past the rejection.  A level is looked up by its name before it
  is checked, and a value that is neither text nor number has no name to look up:
  validation then ends with a fault of its own, which says nothing of the rest.

  Main results:
    • `validate_eq_ok_iff` — a table is a configuration iff every value is there
      and can be read (`Fits`),
    • `blaming_ofTable` — the faults of a rejected table point at something,
    • `validate_eq_rejected_iff`, `validate_eq_foreign_iff` — the two other ends,
    • `validate_congr` — validation looks at the values of names only.
-/
import SealedDrop.Config
import SealedDrop.Proofs.Form.Names
import SealedDrop.Proofs.Toml.Table

namespace SealedDrop

open Form (Checked Fault Problem)
open Toml (Key Table Value)

/-! ## §1. What a key leads to -/

namespace Toml

/-- What a key leads to, through tables only. -/
def Value.at? : Key → Value → Option Value
  | [], v => some v
  | k :: r, .table t => (Table.find? k t).bind (Value.at? r)
  | _ :: _, _ => none

/-- What a key leads to in a table. -/
def Table.at? (key : Key) (t : Table) : Option Value := Value.at? key (.table t)

variable {k : Text} {r : Key} {t n : Table}

/-- A path of one key is a lookup. -/
@[simp] theorem Table.at?_one : Table.at? [k] t = Table.find? k t := by
  show (Table.find? k t).bind some = _
  exact Option.bind_fun_some _

theorem Table.at?_none (h : Table.find? k t = none) : Table.at? (k :: r) t = none := by
  show (Table.find? k t).bind _ = _
  rw [h]
  rfl

/-- A path through a table is a path in that table. -/
theorem Table.at?_table (h : Table.find? k t = some (.table n)) :
    Table.at? (k :: r) t = Table.at? r n := by
  show (Table.find? k t).bind _ = _
  rw [h]
  rfl

end Toml

namespace Config

variable {α β : Type} {read : Value → Except Problem α} {name title : Text} {key : Key}
  {t u n : Table} {a default : α}

/-! ## §2. Values that are there -/

/-- A key leads to a value that is read. -/
def Holds (read : Value → Except Problem α) (key : Key) (t : Table) (a : α) : Prop :=
  ∃ v, Table.at? key t = some v ∧ read v = .ok a

/-- A key leads to a value that is read, or nowhere. -/
def HoldsOr (default : α) (read : Value → Except Problem α) (key : Key) (t : Table) (a : α) : Prop :=
  (Table.at? key t = none ∧ a = default) ∨ Holds read key t a

/-- A condition on a key of a table is one on the path through it. -/
theorem holds_table (h : Table.find? name t = some (.table n)) :
    Holds read (name :: key) t a ↔ Holds read key n a := by
  unfold Holds
  rw [Table.at?_table h]

/-- The same of a key with a default. -/
theorem holdsOr_table (h : Table.find? name t = some (.table n)) :
    HoldsOr default read (name :: key) t a ↔ HoldsOr default read key n a := by
  unfold HoldsOr
  rw [Table.at?_table h, holds_table h]

/-- Whatever a longer key leads to is inside a table. -/
theorem Holds.exists_table {k : Text} (h : Holds read (name :: k :: key) t a) :
    ∃ n, Table.find? name t = some (.table n) := by
  obtain ⟨v, hv, _⟩ := h
  obtain ⟨w, hw, hv⟩ := Option.bind_eq_some_iff.mp hv
  cases w with
  | table n => exact ⟨n, hw⟩
  | _ => cases hv

/-- A required field passes exactly when its key holds a value that its check accepts. -/
theorem entry_eq_ok_iff : entry read name t = .ok a ↔ Holds read [name] t a := by
  unfold entry Holds
  rw [Table.at?_one]
  cases Table.find? name t with
  | none => simp
  | some v => simp

/-- A field with a default passes also when its key is missing. -/
theorem entryOr_eq_ok_iff : entryOr default read name t = .ok a ↔ HoldsOr default read [name] t a := by
  unfold entryOr HoldsOr
  rw [← entry_eq_ok_iff, entry, Table.at?_one]
  cases Table.find? name t with
  | none => simp [eq_comm]
  | some v => simp

/-- A required section passes when its key holds a table, and that table passes. -/
theorem part_eq_ok_iff {read : Table → Checked α} : part title read name t = .ok a ↔
    ∃ n, Table.find? name t = some (.table n) ∧ read n = .ok a := by
  unfold part
  split
  next h => simp [h]
  next n h => simp [h]
  next v hne h =>
    constructor
    · intro h
      cases h
    · rintro ⟨n, hn, _⟩
      rw [h] at hn
      exact absurd (Option.some.inj hn) (hne n)

/-- A section with a default passes also when its key is missing. -/
theorem partOr_eq_ok_iff {read : Table → Checked α} : partOr default title read name t = .ok a ↔
    (Table.find? name t = none ∧ a = default)
      ∨ ∃ n, Table.find? name t = some (.table n) ∧ read n = .ok a := by
  unfold partOr
  split
  next h => simp [h, eq_comm]
  next v h =>
    rw [part_eq_ok_iff]
    simp [h]

/-- A part with one entry is read iff the entry is. -/
theorem part_entry_eq_ok_iff {make : α → β} {b : β} {inner : Text} :
    part title (fun n => (entry read inner n).map make) name t = .ok b ↔
      ∃ a, Holds read [name, inner] t a ∧ make a = b := by
  rw [part_eq_ok_iff]
  constructor
  · rintro ⟨n, hn, hb⟩
    obtain ⟨a, ha, hab⟩ := Result.map_eq_ok_iff.mp hb
    exact ⟨a, (holds_table hn).mpr (entry_eq_ok_iff.mp ha), hab⟩
  · rintro ⟨a, ha, hab⟩
    obtain ⟨n, hn⟩ := ha.exists_table
    exact ⟨n, hn, Result.map_eq_ok_iff.mpr ⟨a, entry_eq_ok_iff.mpr ((holds_table hn).mp ha), hab⟩⟩

/-! ## §3. Tables that are configurations -/

/-- The level of a table, if it has one, is a text, a whole number or a truth value. -/
def PlainLevel (t : Table) : Prop := ∀ v, Table.at? ["logging", "level"] t = some v →
  (∃ x, v = .text x) ∨ (∃ n, v = .int n) ∨ ∃ b, v = .bool b

/-- The greatest length of an envelope: a whole number that is not below the least. -/
def dataLength (v : Value) : Except Problem Int := (int v).bind (Form.atLeast leastDataLength)

/-- A table says what a configuration holds: every value is where it belongs and can be read, and
only the part on sharing, or entries of it, may be left out. -/
structure Fits (t : Table) (c : Config) : Prop where
  /-- What the service is called. -/
  title : Holds text ["general", "title"] t c.general.title
  /-- Where the tables are kept. -/
  path : Holds text ["database", "path"] t c.database.path
  /-- The directory of the journal. -/
  logs : Holds text ["paths", "logs"] t c.paths.logs
  /-- The rank from which on entries are written. -/
  level : Holds level ["logging", "level"] t c.logging.level
  /-- It is given as a rank or by its name. -/
  plainLevel : PlainLevel t
  /-- The part on sharing, if there is one, is a table. -/
  sharing : ∀ v, Table.find? "sharing" t = some v → ∃ n, v = .table n
  /-- The greatest length of an envelope. -/
  maxDataLength : HoldsOr 65536 dataLength ["sharing", "max_data_length"] t c.sharing.maxDataLength
  /-- The public address. -/
  publicUrl : HoldsOr (Text.ofString "http://127.0.0.1:8000") text ["sharing", "public_url"] t
    c.sharing.publicUrl
  /-- Where the service listens. -/
  host : Holds text ["network", "host"] t c.network.host
  /-- The port. -/
  port : Holds int ["network", "port"] t c.network.port
  /-- Whether it starts anew when its files change. -/
  reload : Holds bool ["network", "reload"] t c.network.reload
  /-- The length of a lock-out. -/
  timeoutPeriod : Holds int ["network", "rate_limit", "timeout_period"] t
    c.network.rateLimit.timeoutPeriod
  /-- The requests of a second. -/
  requestsPerSecond : Holds int ["network", "rate_limit", "requests_per_second"] t
    c.network.rateLimit.requestsPerSecond

section Parts

/-- The section `secret_sharing` passes with these two fields, both of which have defaults. -/
theorem sharingOf_eq_ok_iff {c : Sharing} : sharingOf n = .ok c ↔
    HoldsOr 65536 dataLength ["max_data_length"] n c.maxDataLength
      ∧ HoldsOr (Text.ofString "http://127.0.0.1:8000") text ["public_url"] n c.publicUrl := by
  unfold sharingOf
  rw [Checked.both_eq_ok_iff]
  constructor
  · rintro ⟨g, b, hg, hb, rfl⟩
    obtain ⟨a, ha, rfl⟩ := Result.map_eq_ok_iff.mp hg
    exact ⟨entryOr_eq_ok_iff.mp ha, entryOr_eq_ok_iff.mp hb⟩
  · rintro ⟨ha, hb⟩
    exact ⟨_, _, Result.map_eq_ok_iff.mpr ⟨_, entryOr_eq_ok_iff.mpr ha, rfl⟩,
      entryOr_eq_ok_iff.mpr hb, rfl⟩

/-- The section `rate_limit` passes with these two fields, both of which are required. -/
theorem rateLimitOf_eq_ok_iff {c : RateLimit} : rateLimitOf n = .ok c ↔
    Holds int ["timeout_period"] n c.timeoutPeriod
      ∧ Holds int ["requests_per_second"] n c.requestsPerSecond := by
  unfold rateLimitOf
  rw [Checked.both_eq_ok_iff]
  constructor
  · rintro ⟨g, b, hg, hb, rfl⟩
    obtain ⟨a, ha, rfl⟩ := Result.map_eq_ok_iff.mp hg
    exact ⟨entry_eq_ok_iff.mp ha, entry_eq_ok_iff.mp hb⟩
  · rintro ⟨ha, hb⟩
    exact ⟨_, _, Result.map_eq_ok_iff.mpr ⟨_, entry_eq_ok_iff.mpr ha, rfl⟩,
      entry_eq_ok_iff.mpr hb, rfl⟩

/-- The section `network` passes with three fields of its own and the two of `rate_limit`. -/
theorem networkOf_eq_ok_iff {c : Network} : networkOf n = .ok c ↔
    Holds text ["host"] n c.host ∧ Holds int ["port"] n c.port ∧ Holds bool ["reload"] n c.reload
      ∧ Holds int ["rate_limit", "timeout_period"] n c.rateLimit.timeoutPeriod
      ∧ Holds int ["rate_limit", "requests_per_second"] n c.rateLimit.requestsPerSecond := by
  unfold networkOf
  constructor
  · intro h
    -- the checks of the four fields are peeled off from the last to the first
    obtain ⟨_, limit, hthree, hlimit, rfl⟩ := Checked.both_eq_ok_iff.mp h
    obtain ⟨_, reload, htwo, hreload, rfl⟩ := Checked.both_eq_ok_iff.mp hthree
    obtain ⟨_, port, hone, hport, rfl⟩ := Checked.both_eq_ok_iff.mp htwo
    obtain ⟨host, hhost, rfl⟩ := Result.map_eq_ok_iff.mp hone
    obtain ⟨inner, hinner, hlimit⟩ := part_eq_ok_iff.mp hlimit
    obtain ⟨htimeout, hrequests⟩ := rateLimitOf_eq_ok_iff.mp hlimit
    exact ⟨entry_eq_ok_iff.mp hhost, entry_eq_ok_iff.mp hport, entry_eq_ok_iff.mp hreload,
      (holds_table hinner).mpr htimeout, (holds_table hinner).mpr hrequests⟩
  · rintro ⟨hhost, hport, hreload, htimeout, hrequests⟩
    obtain ⟨inner, hinner⟩ := htimeout.exists_table
    have hlimit : part "RateLimit" rateLimitOf "rate_limit" n = .ok c.rateLimit :=
      part_eq_ok_iff.mpr ⟨inner, hinner, rateLimitOf_eq_ok_iff.mpr
        ⟨(holds_table hinner).mp htimeout, (holds_table hinner).mp hrequests⟩⟩
    have hthree : Checked.both (Checked.both ((entry text "host" n).map Network.mk)
        (entry int "port" n)) (entry bool "reload" n) = .ok (Network.mk c.host c.port c.reload) := by
      refine Checked.both_eq_ok_iff.mpr ⟨_, _, ?_, entry_eq_ok_iff.mpr hreload, rfl⟩
      refine Checked.both_eq_ok_iff.mpr ⟨_, _, ?_, entry_eq_ok_iff.mpr hport, rfl⟩
      exact Result.map_eq_ok_iff.mpr ⟨_, entry_eq_ok_iff.mpr hhost, rfl⟩
    exact Checked.both_eq_ok_iff.mpr ⟨_, _, hthree, hlimit, rfl⟩

/-- The part on sharing may be left out; both its entries then have their usual values. -/
theorem part_sharing_eq_ok_iff {c : Sharing} :
    partOr Sharing.usual "Sharing" sharingOf "sharing" t = .ok c ↔
      (∀ v, Table.find? "sharing" t = some v → ∃ n, v = .table n)
        ∧ HoldsOr 65536 dataLength ["sharing", "max_data_length"] t c.maxDataLength
        ∧ HoldsOr (Text.ofString "http://127.0.0.1:8000") text ["sharing", "public_url"] t
            c.publicUrl := by
  rw [partOr_eq_ok_iff]
  cases hpart : Table.find? "sharing" t with
  | none =>
    have hlength := Table.at?_none (r := ["max_data_length"]) hpart
    have hurl := Table.at?_none (r := ["public_url"]) hpart
    constructor
    · rintro (⟨_, rfl⟩ | ⟨n, hn, _⟩)
      · exact ⟨fun v hv => (nomatch hv), .inl ⟨hlength, rfl⟩, .inl ⟨hurl, rfl⟩⟩
      · cases hn
    · rintro ⟨_, ⟨_, ha⟩ | ⟨v, hv, _⟩, ⟨_, hb⟩ | ⟨w, hw, _⟩⟩
      · exact .inl ⟨rfl, by rw [Sharing.usual, ← ha, ← hb]⟩
      · exact absurd (hurl.symm.trans hw) nofun
      · exact absurd (hlength.symm.trans hv) nofun
      · exact absurd (hlength.symm.trans hv) nofun
  -- a section that is there has to be a table, and defaults fill in its keys
  | some v =>
    constructor
    · rintro (⟨hnone, _⟩ | ⟨n, hn, hc⟩)
      · cases hnone
      · rw [sharingOf_eq_ok_iff, ← holdsOr_table (hpart.trans hn),
          ← holdsOr_table (hpart.trans hn)] at hc
        refine ⟨?_, hc⟩
        rintro w ⟨⟩
        exact ⟨n, Option.some.inj hn⟩
    · rintro ⟨htable, hc⟩
      obtain ⟨n, rfl⟩ := htable v rfl
      rw [holdsOr_table hpart, holdsOr_table hpart, ← sharingOf_eq_ok_iff] at hc
      exact .inr ⟨n, rfl, hc⟩

/-- The same of the whole document, where the fields are named by their paths. -/
theorem part_network_eq_ok_iff {c : Network} : part "Network" networkOf "network" t = .ok c ↔
    Holds text ["network", "host"] t c.host ∧ Holds int ["network", "port"] t c.port
      ∧ Holds bool ["network", "reload"] t c.reload
      ∧ Holds int ["network", "rate_limit", "timeout_period"] t c.rateLimit.timeoutPeriod
      ∧ Holds int ["network", "rate_limit", "requests_per_second"] t
          c.rateLimit.requestsPerSecond := by
  rw [part_eq_ok_iff]
  constructor
  · rintro ⟨n, hn, hc⟩
    simpa only [holds_table hn] using networkOf_eq_ok_iff.mp hc
  · intro h
    obtain ⟨n, hn⟩ := h.1.exists_table
    simp only [holds_table hn] at h
    exact ⟨n, hn, networkOf_eq_ok_iff.mpr h⟩

end Parts

/-- The level that `foreignLevel?` looks for is the one in the table. -/
theorem foreignLevel?_eq :
    foreignLevel? t = (Table.at? ["logging", "level"] t).bind foreignKind? := by
  unfold foreignLevel?
  split
  next n hn => rw [Table.at?_table hn, Table.at?_one]
  next hne =>
    cases hpart : Table.find? "logging" t with
    | none =>
      rw [Table.at?_none hpart]
      rfl
    | some v =>
      cases v with
      | table n => exact absurd hpart (hne n)
      | _ =>
        show none = Option.bind (Option.bind (Table.find? "logging" t) _) _
        rw [hpart]
        rfl

/-- Texts, whole numbers and truth values are the kinds that the validator of the level can handle.
-/
theorem foreignKind?_eq_none_iff {v : Value} : foreignKind? v = none ↔
    (∃ x, v = .text x) ∨ (∃ n, v = .int n) ∨ ∃ b, v = .bool b := by
  cases v <;> simp [foreignKind?]

/-- A level is let through iff it is a text, a whole number or a truth value. -/
theorem foreignLevel?_eq_none_iff : foreignLevel? t = none ↔ PlainLevel t := by
  rw [foreignLevel?_eq, Option.bind_eq_none_iff]
  exact forall_congr' fun v => imp_congr_right fun _ => foreignKind?_eq_none_iff

/-- **When the level is plain, a document is accepted exactly when it fits.** -/
theorem ofTable_eq_ok_iff {c : Config} (hlevel : PlainLevel t) :
    ofTable t = .ok c ↔ Fits t c := by
  unfold ofTable
  constructor
  · intro h
    obtain ⟨_, network, hfive, hnetwork, rfl⟩ := Checked.both_eq_ok_iff.mp h
    obtain ⟨_, sharing, hfour, hsharing, rfl⟩ := Checked.both_eq_ok_iff.mp hfive
    obtain ⟨_, logging, hthree, hlogging, rfl⟩ := Checked.both_eq_ok_iff.mp hfour
    obtain ⟨_, paths, htwo, hpaths, rfl⟩ := Checked.both_eq_ok_iff.mp hthree
    obtain ⟨_, database, hone, hdatabase, rfl⟩ := Checked.both_eq_ok_iff.mp htwo
    obtain ⟨general, hgeneral, rfl⟩ := Result.map_eq_ok_iff.mp hone
    obtain ⟨title, htitle, rfl⟩ := part_entry_eq_ok_iff.mp hgeneral
    obtain ⟨path, hpath, rfl⟩ := part_entry_eq_ok_iff.mp hdatabase
    obtain ⟨logs, hlogs, rfl⟩ := part_entry_eq_ok_iff.mp hpaths
    obtain ⟨rank, hrank, rfl⟩ := part_entry_eq_ok_iff.mp hlogging
    obtain ⟨htable, hlength, hurl⟩ := part_sharing_eq_ok_iff.mp hsharing
    obtain ⟨hhost, hport, hreload, htimeout, hrequests⟩ := part_network_eq_ok_iff.mp hnetwork
    exact ⟨htitle, hpath, hlogs, hrank, hlevel, htable, hlength, hurl, hhost, hport, hreload,
      htimeout, hrequests⟩
  · intro h
    obtain ⟨⟨title⟩, ⟨path⟩, ⟨logs⟩, ⟨rank⟩, sharing, network⟩ := c
    -- one part after the other, from the last to the first
    refine Checked.both_eq_ok_iff.mpr ⟨_, _, ?_, part_network_eq_ok_iff.mpr
      ⟨h.host, h.port, h.reload, h.timeoutPeriod, h.requestsPerSecond⟩, rfl⟩
    refine Checked.both_eq_ok_iff.mpr ⟨_, _, ?_, part_sharing_eq_ok_iff.mpr
      ⟨h.sharing, h.maxDataLength, h.publicUrl⟩, rfl⟩
    refine Checked.both_eq_ok_iff.mpr ⟨_, _, ?_, part_entry_eq_ok_iff.mpr
      ⟨_, h.level, rfl⟩, rfl⟩
    refine Checked.both_eq_ok_iff.mpr ⟨_, _, ?_, part_entry_eq_ok_iff.mpr ⟨_, h.logs, rfl⟩, rfl⟩
    refine Checked.both_eq_ok_iff.mpr ⟨_, _, ?_, part_entry_eq_ok_iff.mpr ⟨_, h.path, rfl⟩, rfl⟩
    exact Result.map_eq_ok_iff.mpr ⟨_, part_entry_eq_ok_iff.mpr ⟨_, h.title, rfl⟩, rfl⟩

/-- **A table is a configuration iff every value it needs is there and can be read.** -/
theorem validate_eq_ok_iff {c : Config} : validate t = .ok c ↔ Fits t c := by
  unfold validate
  cases hlevel : foreignLevel? t with
  | some kind =>
    constructor
    · intro h
      cases h
    · intro h
      rw [foreignLevel?_eq_none_iff.mpr h.plainLevel] at hlevel
      cases hlevel
  | none => rw [Result.mapError_eq_ok_iff, ofTable_eq_ok_iff (foreignLevel?_eq_none_iff.mp hlevel)]

/-! ## §4. What is wrong with a table -/

/-- Why a value that is there is refused: it is of the wrong type, or out of range. -/
inductive Unfit (v : Value) : Problem → Prop where
  /-- It cannot be read as a text. -/
  | text {p : Problem} (h : text v = .error p) : Unfit v p
  /-- It cannot be read as a truth value. -/
  | bool {p : Problem} (h : bool v = .error p) : Unfit v p
  /-- It cannot be read as a whole number. -/
  | int {p : Problem} (h : int v = .error p) : Unfit v p
  /-- It is no table. -/
  | noTable {title : Text} (h : ∀ n, v ≠ .table n) : Unfit v (.notRecord title)
  /-- It is a whole number below the least that may stand there. -/
  | below {n : Int} (h : Config.int v = .ok n) (hn : n < leastDataLength) :
      Unfit v (.below leastDataLength)

/-- A fault points at something: a place where nothing stands, or a value that is refused there. -/
structure Blames (t : Table) (f : Fault) : Prop where
  /-- It names the place. -/
  named : f.path ≠ []
  /-- It says what is wrong there. -/
  wrong : (f.problem = .missing ∧ Table.at? f.path t = none)
    ∨ ∃ v, Table.at? f.path t = some v ∧ Unfit v f.problem

/-- A reader of tables reports faults when it fails, and each of them points at something. -/
def Blaming (read : Table → Checked α) : Prop :=
  ∀ t fs, read t = .error fs → fs ≠ [] ∧ ∀ f ∈ fs, Blames t f

/-- A reader of values refuses only what is unfit. -/
def Refusing (read : Value → Except Problem α) : Prop := ∀ v p, read v = .error p → Unfit v p

theorem refusing_text : Refusing text := fun _ _ => .text

theorem refusing_bool : Refusing bool := fun _ _ => .bool

theorem refusing_int : Refusing int := fun _ _ => .int

/-- `level` takes every text, and refuses of the rest what `int` refuses. -/
theorem refusing_level : Refusing level := by
  intro v p h
  cases v with
  | text t => cases h
  | _ => exact .int h

theorem refusing_dataLength : Refusing dataLength := by
  intro v p h
  obtain hint | ⟨n, hn, hleast⟩ := Result.bind_eq_error_iff.mp h
  · exact .int hint
  · unfold Form.atLeast at hleast
    split at hleast
    next => cases hleast
    next hlt =>
      cases hleast
      exact .below hn (Int.not_le.mp hlt)

/-- `entry` blames the key that it reads: the key is missing, or its value is unfit. -/
theorem blaming_entry (hread : Refusing read) : Blaming (entry read name) := by
  intro t fs h
  unfold entry at h
  split at h
  next hnone =>
    cases h
    refine ⟨List.cons_ne_nil _ _, ?_⟩
    rintro f (_ | ⟨_, ⟨⟩⟩)
    exact ⟨List.cons_ne_nil _ _, .inl ⟨rfl, Table.at?_none hnone⟩⟩
  next v hv =>
    obtain ⟨p, hp, rfl⟩ := Result.mapError_eq_error_iff.mp h
    refine ⟨List.cons_ne_nil _ _, ?_⟩
    rintro f (_ | ⟨_, ⟨⟩⟩)
    exact ⟨List.cons_ne_nil _ _, .inr ⟨v, Table.at?_one.trans hv, hread v p hp⟩⟩

/-- `entryOr` blames its key as well, and only for a value that is there. -/
theorem blaming_entryOr (hread : Refusing read) : Blaming (entryOr default read name) := by
  intro t fs h
  unfold entryOr at h
  split at h
  next => cases h
  next => exact blaming_entry hread t fs h

/-- What is wrong inside a part is wrong with the table, one name further on. -/
theorem Blames.inside {f : Fault} (hn : Table.find? name t = some (.table n)) (h : Blames n f) :
    Blames t (f.inside name) := by
  refine ⟨List.cons_ne_nil _ _, ?_⟩
  have hat : Table.at? (f.inside name).path t = Table.at? f.path n := Table.at?_table hn
  rw [hat]
  exact h.wrong

/-- `part` blames what its section blames, one key further in, or the section itself. -/
theorem blaming_part {read : Table → Checked α} (hread : Blaming read) :
    Blaming (part title read name) := by
  intro t fs h
  unfold part at h
  split at h
  next hnone =>
    cases h
    refine ⟨List.cons_ne_nil _ _, ?_⟩
    rintro f (_ | ⟨_, ⟨⟩⟩)
    exact ⟨List.cons_ne_nil _ _, .inl ⟨rfl, Table.at?_none hnone⟩⟩
  -- what the section blames is reported one key further in
  next n hn =>
    obtain ⟨gs, hgs, rfl⟩ := Result.mapError_eq_error_iff.mp h
    obtain ⟨hne, hall⟩ := hread n gs hgs
    refine ⟨mt List.map_eq_nil_iff.mp hne, ?_⟩
    intro f hf
    obtain ⟨g, hg, rfl⟩ := List.mem_map.mp hf
    exact (hall g hg).inside hn
  next v hne hv =>
    cases h
    refine ⟨List.cons_ne_nil _ _, ?_⟩
    rintro f (_ | ⟨_, ⟨⟩⟩)
    exact ⟨List.cons_ne_nil _ _, .inr ⟨v, Table.at?_one.trans hv, .noTable hne⟩⟩

/-- The same of `partOr`, for a section that is there. -/
theorem blaming_partOr {read : Table → Checked α} (hread : Blaming read) :
    Blaming (partOr default title read name) := by
  intro t fs h
  unfold partOr at h
  split at h
  next => cases h
  next => exact blaming_part hread t fs h

/-- Making a record of what was read blames nothing new. -/
theorem blaming_map {read : Table → Checked α} {make : α → β} (hread : Blaming read) :
    Blaming fun t => (read t).map make := by
  intro t fs h
  dsimp only at h
  refine hread t fs ?_
  cases hr : read t with
  | error e =>
    rw [hr] at h
    cases h
    rfl
  | ok a =>
    rw [hr] at h
    cases h

/-- Both parts report, and what they report is put together. -/
theorem blaming_both {f : Table → Checked (α → β)} {x : Table → Checked α} (hf : Blaming f)
    (hx : Blaming x) : Blaming fun t => Checked.both (f t) (x t) := by
  intro t fs h
  dsimp only at h
  cases hft : f t with
  | ok g =>
    cases hxt : x t with
    | ok a =>
      rw [hft, hxt] at h
      cases h
    | error e =>
      rw [hft, hxt] at h
      cases h
      exact hx t _ hxt
  | error e =>
    cases hxt : x t with
    | ok a =>
      rw [hft, hxt] at h
      cases h
      exact hf t _ hft
    -- faults of both sides are reported, one list behind the other
    | error e' =>
      rw [hft, hxt] at h
      cases h
      obtain ⟨hne, hall⟩ := hf t _ hft
      obtain ⟨_, hall'⟩ := hx t _ hxt
      refine ⟨fun hnil => hne (List.append_eq_nil_iff.mp hnil).1, ?_⟩
      intro f hmem
      cases List.mem_append.mp hmem with
      | inl hmem => exact hall f hmem
      | inr hmem => exact hall' f hmem

theorem blaming_sharingOf : Blaming sharingOf :=
  blaming_both (blaming_map (blaming_entryOr refusing_dataLength)) (blaming_entryOr refusing_text)

theorem blaming_networkOf : Blaming networkOf := by
  refine blaming_both (blaming_both (blaming_both (blaming_map (blaming_entry refusing_text))
    (blaming_entry refusing_int)) (blaming_entry refusing_bool)) (blaming_part ?_)
  exact blaming_both (blaming_map (blaming_entry refusing_int)) (blaming_entry refusing_int)

/-- **A table that is rejected has faults, and each of them points at a place where nothing stands,
or where the value that stands there is refused.** -/
theorem blaming_ofTable : Blaming ofTable := by
  refine blaming_both (blaming_both (blaming_both (blaming_both (blaming_both (blaming_map ?_)
    ?_) ?_) ?_) (blaming_partOr blaming_sharingOf)) (blaming_part blaming_networkOf)
  · exact blaming_part (blaming_map (blaming_entry refusing_text))
  · exact blaming_part (blaming_map (blaming_entry refusing_text))
  · exact blaming_part (blaming_map (blaming_entry refusing_text))
  · exact blaming_part (blaming_map (blaming_entry refusing_level))

/-! ## §5. The two ends of validation that are no configuration -/

/-- **`validate` breaks down exactly on a level of a foreign kind.** -/
theorem validate_eq_foreign_iff {kind : Text} : validate t = .error (.foreignLevel kind) ↔
    (Table.at? ["logging", "level"] t).bind foreignKind? = some kind := by
  rw [← foreignLevel?_eq]
  unfold validate
  cases foreignLevel? t with
  | some kind' => simp
  | none =>
    constructor
    · intro h
      obtain ⟨fs, _, hfs⟩ := Result.mapError_eq_error_iff.mp h
      cases hfs
    · intro h
      cases h

/-- A rejection has the title of the configuration, and its faults point at something. -/
theorem blames_of_validate {r : Form.Rejection} (h : validate t = .error (.rejected r)) :
    r.title = "Config" ∧ r.faults ≠ [] ∧ ∀ f ∈ r.faults, Blames t f := by
  unfold validate at h
  split at h
  next => cases h
  next =>
    obtain ⟨fs, hfs, heq⟩ := Result.mapError_eq_error_iff.mp h
    cases heq
    exact ⟨rfl, blaming_ofTable t fs hfs⟩

/-- **A table is rejected iff it is no configuration, and its level, if it has one, is a text or a
number.** -/
theorem validate_eq_rejected_iff : (∃ r, validate t = .error (.rejected r)) ↔
    PlainLevel t ∧ ∀ c, ¬ Fits t c := by
  rw [← foreignLevel?_eq_none_iff]
  constructor
  · rintro ⟨r, hr⟩
    constructor
    · -- a level of a foreign kind ends before any field is refused
      cases hlevel : foreignLevel? t with
      | none => rfl
      | some kind =>
        rw [validate, hlevel] at hr
        cases hr
    · intro c hc
      rw [validate_eq_ok_iff.mpr hc] at hr
      cases hr
  · rintro ⟨hlevel, hno⟩
    cases hc : ofTable t with
    | ok c => exact absurd ((ofTable_eq_ok_iff (foreignLevel?_eq_none_iff.mp hlevel)).mp hc) (hno c)
    | error fs =>
      refine ⟨⟨"Config", fs⟩, ?_⟩
      rw [validate, hlevel, hc]
      rfl

section Congruence

variable (h : ∀ k, Table.find? k t = Table.find? k u)
include h

/-- A section only depends on what its key holds. -/
theorem part_congr {read : Table → Checked α} : part title read name t = part title read name u := by
  unfold part
  rw [h]

theorem partOr_congr {read : Table → Checked α} :
    partOr default title read name t = partOr default title read name u := by
  unfold partOr
  rw [h, part_congr h]

/-- **Validation looks at the values of names only.** -/
theorem validate_congr : validate t = validate u := by
  unfold validate foreignLevel? ofTable
  rw [h, part_congr h, part_congr h, part_congr h, part_congr h, partOr_congr h, part_congr h]

end Congruence

end Config

end SealedDrop
