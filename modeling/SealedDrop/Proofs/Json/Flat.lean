/-
  SealedDrop.Proofs.Json.Flat
  ───────────────────────────
  **FLAT DOCUMENTS.**

  Everything that clients sign and send is an object of texts and truth values
  (`FlatObject`).  `Json.read` takes back what `Json.render` writes of it in
  either style, `Style.compact` or `Style.ascii`, whatever the texts in it are, as
  long as they hold no surrogate; and it is written in ASCII, or without
  surrogates, as its style says.

  Main results:
    • `readText_render`, `read_render` — a whole document is read back,
    • `Style.WritesIn.object`, `Style.WritesIn.plain` — what stands in a document of a style,
    • `textOfBody_ascii` — a body in ASCII is the text that it was made of.
-/
import SealedDrop.Json.Encoding
import SealedDrop.Proofs.Json.Tree

namespace SealedDrop.Json

/-! ## §1. Flat values -/

/-- A text without surrogates, or a truth value. -/
inductive Flat : Json → Prop where
  /-- A text. -/
  | text {t : Text} (ht : t.isScalar = true) : Flat (.text t)
  /-- A truth value. -/
  | bool (b : Bool) : Flat (.bool b)

/-- Members of a flat object: names without surrogates, and flat values. -/
def FlatMembers (ms : List (Text × Json)) : Prop := ∀ m ∈ ms, m.1.isScalar = true ∧ Flat m.2

/-- The members of a flat object with distinct names, and at least one. -/
structure FlatObject (ms : List (Text × Json)) : Prop where
  /-- There is one. -/
  nonempty : ms ≠ []
  /-- They are flat. -/
  flat : FlatMembers ms
  /-- No name is given twice. -/
  distinct : (ms.map Prod.fst).Nodup

/-- An object is flat if its names are fine and its values are flat. -/
theorem FlatObject.of_names {ms : List (Text × Json)} (names : List Text)
    (hms : ms.map Prod.fst = names)
    (hnames : names ≠ [] ∧ names.Nodup ∧ ∀ k ∈ names, Text.isScalar k = true)
    (hvalues : ∀ m ∈ ms, Flat m.2) : FlatObject ms := by
  obtain ⟨hne, hnodup, hscalar⟩ := hnames
  subst hms
  refine ⟨?_, ?_, hnodup⟩
  · intro hnil
    rw [hnil] at hne
    exact hne rfl
  · intro m hm
    exact ⟨hscalar _ (List.mem_map_of_mem hm), hvalues m hm⟩

/-! ## §2. Reading back -/

section ReadingBack

variable {s : Style}

/-- A flat value is written without nesting. -/
theorem Flat.plain {v : Json} (h : Flat v) : Plain s 0 v := by
  cases h with
  | text ht => exact .text fun _ => ht
  | bool b => exact .bool b

/-- A flat object is written with one level of it. -/
theorem FlatObject.plain {ms : List (Text × Json)} (h : FlatObject ms) : Plain s 1 (.object ms) :=
  .object (fun m hm _ => (h.flat m hm).1) (fun m hm => (h.flat m hm).2.plain) h.distinct

/-- **A flat object with distinct names is read back.** -/
theorem readText_render (hs : s.Readable) {ms : List (Text × Json)} (h : FlatObject ms) :
    readText (render s (.object ms)) = .ok (.object ms) :=
  readText_plain hs h.plain (by decide)

/-- **So it is where a byte order mark is refused.** -/
theorem read_render (hs : s.Readable) {ms : List (Text × Json)} (h : FlatObject ms) :
    read (render s (.object ms)) = .ok (.object ms) :=
  read_plain hs h.plain (by decide)

end ReadingBack

/-! ## §3. What is written -/

/-- Whatever a style writes for texts without surrogates lies in a class of signs that holds ASCII. -/
structure Style.WritesIn (s : Style) (p : CodePoint → Bool) : Prop where
  /-- The class holds ASCII. -/
  ascii : ∀ c, c.isAscii = true → p c = true
  /-- The marks are ASCII. -/
  marks : Text.isAscii s.itemMark = true ∧ Text.isAscii s.nameMark = true
  /-- Spellings lie in the class. -/
  spelling : ∀ c w, c.isSurrogate = false → Spelling s.escaped c w → w.all p = true

/-- The escaped style writes ASCII. -/
theorem Style.writesIn_ascii : Style.ascii.WritesIn CodePoint.isAscii :=
  ⟨fun _ h => h, by decide, fun _ _ _ h => h.isAscii⟩

/-- The compact style writes no surrogates. -/
theorem Style.writesIn_compact : Style.compact.WritesIn fun c => !c.isSurrogate := by
  -- escapes are ASCII, and nothing of ASCII is a surrogate
  have hscalar : ∀ t, Text.isAscii t = true → t.all (fun c => !c.isSurrogate) = true :=
    fun t h => Text.isScalar_of_isAscii h
  refine ⟨?_, by decide, ?_⟩
  · intro c hc
    have hone := hscalar [c] (by
      unfold Text.isAscii
      rw [List.all_cons, hc]
      rfl)
    rw [List.all_cons, Bool.and_eq_true] at hone
    exact hone.1
  · intro c w hc hw
    cases hw with
    | plain =>
      rw [List.all_cons, hc]
      rfl
    | @short e _ _ hascii =>
      refine hscalar _ ?_
      unfold Text.isAscii
      rw [List.all_cons, List.all_cons, hascii]
      rfl
    | unit hlt _ => exact hscalar _ (isAscii_unitEscape hlt)
    | pair =>
      have hlt := c.isLt
      exact hscalar _ (Text.isAscii_append.mpr
        ⟨isAscii_unitEscape (by omega), isAscii_unitEscape (by omega)⟩)

section WritesIn

variable {s : Style} {p : CodePoint → Bool}

/-- A style that writes in a class of signs may write all of ASCII. -/
theorem Style.WritesIn.all (h : s.WritesIn p) {t : Text} (ht : Text.isAscii t = true) :
    t.all p = true :=
  List.all_eq_true.mpr fun c hc => h.ascii c (List.all_eq_true.mp ht c hc)

/-- A quoted text stays in the class. -/
theorem Style.WritesIn.quoted (h : s.WritesIn p) {t : Text} (ht : t.isScalar = true) :
    (quoted s.escaped t).all p = true := by
  have hpoints : (t.flatMap (pointText s.escaped)).all p = true := by
    refine List.all_eq_true.mpr ?_
    intro x hx
    obtain ⟨c, hc, hxc⟩ := List.mem_flatMap.mp hx
    have hscalar : c.isSurrogate = false := by
      have := List.all_eq_true.mp ht c hc
      rwa [Bool.not_eq_true'] at this
    exact List.all_eq_true.mp (h.spelling c _ hscalar (spelling_pointText s.escaped c)) x hxc
  unfold Json.quoted
  rw [List.all_cons, List.all_append, hpoints, h.ascii _ (by decide), Bool.true_and, Bool.true_and]
  exact h.all (by decide)

/-- So does a flat value. -/
theorem Style.WritesIn.value (h : s.WritesIn p) {v : Json} (hv : Flat v) :
    (Json.render s v).all p = true := by
  cases hv with
  | text ht =>
    rw [Json.render]
    exact h.quoted ht
  | bool b =>
    cases b with
    | false => exact h.all rfl
    | true => exact h.all rfl

/-- So does a list of such. -/
theorem Style.WritesIn.items (h : s.WritesIn p) {vs : List Json}
    (hvs : ∀ v ∈ vs, (Json.render s v).all p = true) : (renderItems s vs).all p = true := by
  induction vs with
  | nil => rfl
  | cons v vs ih =>
    have hv := hvs v List.mem_cons_self
    have hrest := ih fun w hw => hvs w (List.mem_cons_of_mem _ hw)
    cases vs with
    | nil =>
      rw [renderItems]
      exact hv
    | cons w vs =>
      rw [renderItems]
      simp only [List.all_append, Bool.and_eq_true]
      exact ⟨⟨hv, h.all h.marks.1⟩, hrest⟩

/-- So do the members of an object. -/
theorem Style.WritesIn.members (h : s.WritesIn p) {ms : List (Text × Json)}
    (hms : ∀ m ∈ ms, m.1.isScalar = true ∧ (Json.render s m.2).all p = true) :
    (renderMembers s ms).all p = true := by
  induction ms with
  | nil => rfl
  | cons m ms ih =>
    obtain ⟨hk, hv⟩ := hms m List.mem_cons_self
    have hrest := ih fun x hx => hms x (List.mem_cons_of_mem _ hx)
    have hitem := h.all h.marks.1
    have hname := h.all h.marks.2
    cases ms with
    | nil =>
      rw [renderMembers]
      simp only [List.all_append, Bool.and_eq_true]
      exact ⟨⟨h.quoted hk, hname⟩, hv⟩
    | cons m' ms =>
      rw [renderMembers]
      simp only [List.all_append, Bool.and_eq_true]
      exact ⟨⟨⟨⟨h.quoted hk, hname⟩, hv⟩, hitem⟩, hrest⟩

/-- **A flat object is written in the class of its style.** -/
theorem Style.WritesIn.object (h : s.WritesIn p) {ms : List (Text × Json)} (hms : FlatMembers ms) :
    (Json.render s (.object ms)).all p = true := by
  have hmembers := h.members fun m hm => ⟨(hms m hm).1, h.value (hms m hm).2⟩
  rw [render_object, List.all_cons, List.all_append, hmembers, h.ascii _ (by decide),
    Bool.true_and, Bool.true_and]
  exact h.all (by decide)

/-- **So is any plain value**, if its texts hold no surrogate: those that the escaped style does not
spoil. -/
theorem Style.WritesIn.plain (h : s.WritesIn p) {n : Nat} {v : Json} (hv : Plain Style.ascii n v) :
    (Json.render s v).all p = true := by
  -- on the value as it is printed
  induction hv with
  | null => exact h.all rfl
  | bool b =>
    cases b with
    | false => exact h.all rfl
    | true => exact h.all rfl
  | text ht =>
    rw [render]
    exact h.quoted (ht rfl)
  | list _ ih =>
    rw [render]
    simp only [List.all_append, Bool.and_eq_true]
    exact ⟨⟨h.all rfl, h.items ih⟩, h.all rfl⟩
  | object hnames _ _ ih =>
    have hmembers := h.members fun m hm => ⟨hnames m hm rfl, ih m hm⟩
    rw [render_object, List.all_cons, List.all_append, hmembers, h.ascii _ (by decide),
      Bool.true_and, Bool.true_and]
    exact h.all (by decide)

end WritesIn

/-! ## §4. Bodies in ASCII -/

/-- An ASCII sign is one octet in UTF-8. -/
theorem encodePoint_ascii {c : CodePoint} (hc : c.isAscii = true) :
    Utf8.encodePoint c = [UInt8.ofNat c.val] := by
  unfold CodePoint.isAscii at hc
  rw [decide_eq_true_eq] at hc
  unfold Utf8.encodePoint
  exact if_pos hc

/-- And it is taken off again as one. -/
theorem head_ascii (surrogates : Bool) {c : CodePoint} (hc : c.isAscii = true) (r : Bytes) :
    Utf8.head surrogates (UInt8.ofNat c.val) r = .point c 1 := by
  unfold CodePoint.isAscii at hc
  rw [decide_eq_true_eq] at hc
  have hoctet : (UInt8.ofNat c.val).toNat = c.val := Utf8.toNat_octet (by omega)
  have hlt : UInt8.ofNat c.val < 0x80 := by
    rw [UInt8.lt_iff_toNat_lt, hoctet]
    exact hc
  rw [Utf8.head.eq_def, if_pos hlt, hoctet, Utf8.ofNat_val]

/-- Octets below 128 are read one by one, however surrogates are taken. -/
theorem go_ascii (surrogates : Bool) {t : Text} (ht : Text.isAscii t = true) (pos : Nat)
    (acc : Text) :
    Utf8.decodeWith.go surrogates (t.flatMap Utf8.encodePoint) pos 0 acc = .ok (acc.reverse ++ t) := by
  induction t generalizing pos acc with
  | nil =>
    rw [List.append_nil]
    rfl
  | cons c t ih =>
    unfold Text.isAscii at ht
    rw [List.all_cons, Bool.and_eq_true] at ht
    rw [List.flatMap_cons, encodePoint_ascii ht.1, List.singleton_append, Utf8.decodeWith.go,
      head_ascii surrogates ht.1]
    show Utf8.decodeWith.go surrogates (t.flatMap Utf8.encodePoint) (pos + 1) 0 (c :: acc) = _
    rw [ih ht.2, List.reverse_cons, List.append_assoc]
    rfl

/-- A body that starts with a brace and a quote is taken for octets. -/
theorem detect_object (r : Bytes) :
    Encoding.detect (0x7B :: 0x22 :: r) = (.utf8, 0x7B :: 0x22 :: r) := by
  rcases r with _ | ⟨a, _ | ⟨b, r⟩⟩
  · rfl
  · rfl
  · rfl

/-- **A body in ASCII that starts like an object is the text that it was made of.** -/
theorem textOfBody_ascii {r : Text}
    (h : Text.isAscii ((0x7B : CodePoint) :: CodePoint.ofChar '"' :: r) = true) :
    textOfBody (((0x7B : CodePoint) :: CodePoint.ofChar '"' :: r).flatMap Utf8.encodePoint)
      = .ok ((0x7B : CodePoint) :: CodePoint.ofChar '"' :: r) := by
  unfold textOfBody
  rw [show ((0x7B : CodePoint) :: CodePoint.ofChar '"' :: r).flatMap Utf8.encodePoint
    = 0x7B :: 0x22 :: r.flatMap Utf8.encodePoint from rfl, detect_object]
  exact go_ascii true h 0 []

end SealedDrop.Json
