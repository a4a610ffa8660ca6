/-
  SealedDrop.Proofs.Json.Tree
  ───────────────────────────
  **A DOCUMENT IS READ BACK AS IT WAS WRITTEN.**

  Documents without numbers are read back from both styles of writing, however
  deep they are nested, as long as the reader has room for it.

  The parser, `Json.value`, pays a unit of fuel for every value and for every step
  along a list or an object.  `ReadsBack` says what a value costs: no more than
  the signs that `render` writes of it.  Brackets, marks and names are signs too,
  so a list or an object pays for its own steps, and `readText` starts with fuel
  for twice the length of the document.

  Main results:
    • `items_readsBack`, `members_readsBack` — along a list and along an object,
    • `Plain.readsBack` — every value, by induction on the document,
    • `readText_plain`, `read_plain` — a whole document.
-/
import SealedDrop.Proofs.Json.Strings

namespace SealedDrop.Json

/-! ## §1. Styles and blanks -/

/-- A style whose marks are a comma and a colon, with blanks behind them. -/
structure Style.Readable (s : Style) : Prop where
  /-- Between two members. -/
  item : ∃ bs : Text, s.itemMark = CodePoint.ofChar ',' :: bs ∧ ∀ c ∈ bs, c = CodePoint.ofChar ' '
  /-- Between a name and its value. -/
  name : ∃ bs : Text, s.nameMark = CodePoint.ofChar ':' :: bs ∧ ∀ c ∈ bs, c = CodePoint.ofChar ' '

theorem Style.readable_compact : Style.compact.Readable :=
  ⟨⟨[], rfl, by simp⟩, ⟨[], rfl, by simp⟩⟩

theorem Style.readable_ascii : Style.ascii.Readable :=
  ⟨⟨[CodePoint.ofChar ' '], rfl, by simp⟩, ⟨[CodePoint.ofChar ' '], rfl, by simp⟩⟩

/-- A text that a style does not spoil: written as escapes, surrogates could be joined to pairs. -/
def Style.Keeps (s : Style) (t : Text) : Prop := s.escaped = true → t.isScalar = true

/-- A sign that the reader does not pass over. -/
def Solid (c : CodePoint) : Prop :=
  c ≠ CodePoint.ofChar ' ' ∧ c ≠ CodePoint.ofChar '\t' ∧ c ≠ CodePoint.ofChar '\n'
    ∧ c ≠ CodePoint.ofChar '\r'

instance (c : CodePoint) : Decidable (Solid c) := inferInstanceAs (Decidable (_ ∧ _))

/-- Blanks are passed over up to the first sign that is none. -/
theorem skipBlanks_append {bs : Text} (hbs : ∀ c ∈ bs, c = CodePoint.ofChar ' ') {c : CodePoint}
    (hc : Solid c) (r : Text) (o : Nat) :
    ∃ o', (Cursor.mk (bs ++ c :: r) o).skipBlanks = ⟨c :: r, o'⟩ := by
  obtain ⟨h1, h2, h3, h4⟩ := hc
  unfold Cursor.skipBlanks
  dsimp only
  refine ⟨_, congrArg (Cursor.mk · _) ?_⟩
  rw [List.dropWhile_append_of_pos]
  · rw [List.dropWhile_cons, if_neg]
    simp only [Bool.or_eq_true, decide_eq_true_eq, not_or]
    exact ⟨⟨⟨h1, h2⟩, h3⟩, h4⟩
  · intro x hx
    rw [hbs x hx]
    rfl

theorem skipBlanks_solid {c : CodePoint} (hc : Solid c) (r : Text) (o : Nat) :
    ∃ o', (Cursor.mk (c :: r) o).skipBlanks = ⟨c :: r, o'⟩ :=
  @skipBlanks_append [] (by simp) c hc r o

/-! ## §2. Values that are read back -/

/-- A sign that a value can start with: neither a blank, nor the end of a list, nor a byte order
mark. -/
def Opening (c : CodePoint) : Prop := Solid c ∧ c ≠ CodePoint.ofChar ']' ∧ c ≠ 0xFEFF

instance (c : CodePoint) : Decidable (Opening c) := inferInstanceAs (Decidable (_ ∧ _))

/-- A value is read back wherever it stands, by a reader with room for it and with more fuel than it
has signs. -/
structure ReadsBack (s : Style) (room : Nat) (v : Json) : Prop where
  /-- It starts with a sign of its own. -/
  start : ∃ c r, render s v = c :: r ∧ Opening c
  /-- It is read up to whatever follows it. -/
  back : ∀ fuel, (render s v).length < fuel → ∀ r o,
    ∃ o', value fuel room ⟨render s v ++ r, o⟩ = .ok (v, ⟨r, o'⟩)

section Values

variable {s : Style} {room : Nat}

theorem readsBack_null : ReadsBack s room .null := by
  refine ⟨⟨CodePoint.ofChar 'n', _, rfl, by decide⟩, ?_⟩
  intro fuel hfuel r o
  obtain ⟨fuel, rfl⟩ : ∃ f, fuel = f + 1 := ⟨fuel - 1, by omega⟩
  exact ⟨o + 4, rfl⟩

theorem readsBack_bool (b : Bool) : ReadsBack s room (.bool b) := by
  cases b with
  | false =>
    refine ⟨⟨CodePoint.ofChar 'f', _, rfl, by decide⟩, ?_⟩
    intro fuel hfuel r o
    obtain ⟨fuel, rfl⟩ : ∃ f, fuel = f + 1 := ⟨fuel - 1, by omega⟩
    exact ⟨o + 5, rfl⟩
  | true =>
    refine ⟨⟨CodePoint.ofChar 't', _, rfl, by decide⟩, ?_⟩
    intro fuel hfuel r o
    obtain ⟨fuel, rfl⟩ : ∃ f, fuel = f + 1 := ⟨fuel - 1, by omega⟩
    exact ⟨o + 4, rfl⟩

theorem readsBack_text {t : Text} (ht : s.Keeps t) : ReadsBack s room (.text t) := by
  refine ⟨⟨CodePoint.ofChar '"', _, rfl, by decide⟩, ?_⟩
  intro fuel hfuel r o
  obtain ⟨fuel, rfl⟩ : ∃ f, fuel = f + 1 := ⟨fuel - 1, by omega⟩
  obtain ⟨o', hscan⟩ := scanString_flatMap o s.escaped ht r (o + 1) []
  refine ⟨o', ?_⟩
  unfold render quoted
  rw [List.cons_append, List.append_assoc, List.singleton_append, value.eq_def]
  dsimp only
  rw [if_pos rfl, hscan]
  rfl

end Values

/-! ## §3. Items -/

section Items

variable {s : Style} {room : Nat} {v : Json}

/-- An item is read, up to whatever sign follows. -/
theorem items_item (hv : ReadsBack s room v) {y : CodePoint} (hy : Solid y) (fuel : Nat)
    (hfuel : (render s v).length < fuel) (r : Text) (o : Nat) (acc : List Json) :
    ∃ o', items (fuel + 1) room ⟨render s v ++ y :: r, o⟩ acc =
      if y = CodePoint.ofChar ']' then .ok (.list (v :: acc).reverse, ⟨r, o' + 1⟩)
      else if y = CodePoint.ofChar ',' then
        items fuel room (Cursor.mk r (o' + 1)).skipBlanks (v :: acc)
      else .error (.malformed .expectingComma o') := by
  obtain ⟨o₁, hvalue⟩ := hv.back fuel hfuel (y :: r) o
  obtain ⟨o₂, hnext⟩ := skipBlanks_solid hy r o₁
  refine ⟨o₂, ?_⟩
  rw [items, hvalue]
  dsimp only
  rw [hnext]
  rfl

/-- Items start like the first of them. -/
theorem renderItems_cons {vs : List Json} (hne : vs ≠ []) (hvs : ∀ v ∈ vs, ReadsBack s room v) :
    ∃ c r, renderItems s vs = c :: r ∧ Opening c := by
  cases vs with
  | nil => exact absurd rfl hne
  | cons v vs =>
    obtain ⟨c, r, hc, hopening⟩ := (hvs v List.mem_cons_self).start
    cases vs with
    | nil =>
      rw [renderItems]
      exact ⟨c, r, hc, hopening⟩
    | cons w vs =>
      rw [renderItems, hc, List.append_assoc, List.cons_append]
      exact ⟨c, _, rfl, hopening⟩

/-- **Items are read back**, those before them kept. -/
theorem items_readsBack (hs : s.Readable) {vs : List Json} (hne : vs ≠ [])
    (hvs : ∀ v ∈ vs, ReadsBack s room v) (fuel : Nat)
    (hfuel : (renderItems s vs).length + 1 < fuel) (r : Text) (o : Nat) (acc : List Json) :
    ∃ o', items fuel room ⟨renderItems s vs ++ CodePoint.ofChar ']' :: r, o⟩ acc
      = .ok (.list (acc.reverse ++ vs), ⟨r, o'⟩) := by
  induction vs generalizing fuel o acc with
  | nil => exact absurd rfl hne
  | cons v vs ih =>
    have hv := hvs v List.mem_cons_self
    obtain ⟨fuel, rfl⟩ : ∃ f, fuel = f + 1 := ⟨fuel - 1, by omega⟩
    cases vs with
    | nil =>
      -- the closing bracket follows
      rw [renderItems] at hfuel ⊢
      obtain ⟨o', hitem⟩ := items_item hv (y := CodePoint.ofChar ']') (by decide)
        fuel (by omega) r o acc
      refine ⟨o' + 1, ?_⟩
      rw [if_pos rfl, List.reverse_cons] at hitem
      exact hitem
    | cons w vs =>
      -- a comma, blanks and the next item follow
      obtain ⟨bs, hmark, hbs⟩ := hs.item
      have hrest : ∀ x ∈ w :: vs, ReadsBack s room x := fun x hx =>
        hvs x (List.mem_cons_of_mem _ hx)
      obtain ⟨c, tail, htail, hopening⟩ := renderItems_cons (List.cons_ne_nil w vs) hrest
      rw [renderItems] at hfuel ⊢
      rw [hmark] at hfuel ⊢
      simp only [List.length_append, List.length_cons] at hfuel
      obtain ⟨o₁, hitem⟩ := items_item hv (y := CodePoint.ofChar ',') (by decide) fuel
        (by omega) (bs ++ (renderItems s (w :: vs) ++ CodePoint.ofChar ']' :: r)) o acc
      obtain ⟨o₂, hblanks⟩ := skipBlanks_append hbs hopening.1
        (tail ++ CodePoint.ofChar ']' :: r) (o₁ + 1)
      obtain ⟨o₃, hitems⟩ := ih (by simp) hrest fuel (by omega) o₂ (v :: acc)
      refine ⟨o₃, ?_⟩
      rw [if_neg (by decide), if_pos rfl] at hitem
      have htext : render s v ++ (CodePoint.ofChar ',' :: bs) ++ renderItems s (w :: vs)
            ++ CodePoint.ofChar ']' :: r
          = render s v ++ CodePoint.ofChar ','
            :: (bs ++ (renderItems s (w :: vs) ++ CodePoint.ofChar ']' :: r)) := by
        simp only [List.cons_append, List.append_assoc]
      rw [htext, hitem, htail, List.cons_append, hblanks]
      rw [htail, List.cons_append] at hitems
      rw [hitems, List.reverse_cons, List.append_assoc]
      rfl

/-- **A list of values that are read back is read back.** -/
theorem readsBack_list (hs : s.Readable) {vs : List Json} (hvs : ∀ v ∈ vs, ReadsBack s room v) :
    ReadsBack s (room + 1) (.list vs) := by
  have hrender : render s (.list vs)
      = CodePoint.ofChar '[' :: (renderItems s vs ++ [CodePoint.ofChar ']']) := by
    rw [render]
    rfl
  refine ⟨⟨_, _, hrender, by decide⟩, ?_⟩
  intro fuel hfuel r o
  obtain ⟨fuel, rfl⟩ : ∃ f, fuel = f + 1 := ⟨fuel - 1, by omega⟩
  rw [hrender] at hfuel ⊢
  simp only [List.length_cons, List.length_append, List.length_nil] at hfuel
  have htext : CodePoint.ofChar '[' :: (renderItems s vs ++ [CodePoint.ofChar ']']) ++ r
      = CodePoint.ofChar '[' :: (renderItems s vs ++ CodePoint.ofChar ']' :: r) := by
    rw [List.cons_append, List.append_assoc, List.singleton_append]
  rw [htext, value.eq_def]
  dsimp only
  rw [if_neg (by decide), if_neg (by decide), if_pos rfl]
  unfold Cursor.advance
  dsimp only
  rw [List.drop_succ_cons, List.drop_zero]
  -- the parser looks for the closing bracket before the first item
  by_cases hne : vs = []
  · subst hne
    obtain ⟨o', hclose⟩ := skipBlanks_solid (c := CodePoint.ofChar ']') (by decide) r (o + 1)
    refine ⟨o' + 1, ?_⟩
    rw [renderItems, List.nil_append, hclose]
    dsimp only
    rw [if_pos rfl]
    rfl
  · obtain ⟨c, tail, htail, hopening⟩ := renderItems_cons hne hvs
    obtain ⟨o₁, hfirst⟩ := skipBlanks_solid hopening.1 (tail ++ CodePoint.ofChar ']' :: r) (o + 1)
    obtain ⟨o₂, hitems⟩ := items_readsBack hs hne hvs fuel (by omega) r o₁ []
    refine ⟨o₂, ?_⟩
    rw [htail, List.cons_append] at hitems ⊢
    rw [hfirst]
    dsimp only
    rw [if_neg hopening.2.1]
    exact hitems

end Items

/-! ## §4. Members -/

section Members

variable {s : Style} {room : Nat} {k : Text} {v : Json}

/-- Members start with the quote of a name. -/
theorem renderMembers_cons (s : Style) {ms : List (Text × Json)} (hne : ms ≠ []) :
    ∃ tail, renderMembers s ms = CodePoint.ofChar '"' :: tail := by
  cases ms with
  | nil => exact absurd rfl hne
  | cons m ms =>
    cases ms with
    | nil => exact ⟨_, rfl⟩
    | cons m' ms => exact ⟨_, rfl⟩

/-- The text of one member. -/
def memberText (s : Style) (k : Text) (v : Json) : Text :=
  quoted s.escaped k ++ s.nameMark ++ render s v

/-- A name, its colon and its value are read, up to whatever sign follows. -/
theorem members_member (hs : s.Readable) (hk : s.Keeps k) (hv : ReadsBack s room v) {y : CodePoint}
    (hy : Solid y) (fuel : Nat) (hfuel : (render s v).length < fuel) (r : Text) (o : Nat)
    (acc : List (Text × Json)) :
    ∃ o', members (fuel + 1) room ⟨memberText s k v ++ y :: r, o⟩ acc =
      if y.val = 0x7D then .ok (ofMembers ((k, v) :: acc).reverse, ⟨r, o' + 1⟩)
      else if y = CodePoint.ofChar ',' then
        members fuel room (Cursor.mk r (o' + 1)).skipBlanks ((k, v) :: acc)
      else .error (.malformed .expectingComma o') := by
  -- name, colon, blanks, value and the sign behind it, each with the offset it ends at
  obtain ⟨bs, hmark, hbs⟩ := hs.name
  obtain ⟨x, tail, hx, hopening⟩ := hv.start
  obtain ⟨o₁, hname⟩ := scanString_flatMap o s.escaped hk
    (CodePoint.ofChar ':' :: (bs ++ (render s v ++ y :: r))) (o + 1) []
  obtain ⟨o₂, hcolon⟩ := skipBlanks_solid (c := CodePoint.ofChar ':') (by decide)
    (bs ++ (render s v ++ y :: r)) o₁
  obtain ⟨o₃, hblanks⟩ := skipBlanks_append hbs hopening.1 (tail ++ y :: r) (o₂ + 1)
  obtain ⟨o₄, hvalue⟩ := hv.back fuel hfuel (y :: r) o₃
  obtain ⟨o₅, hnext⟩ := skipBlanks_solid hy r o₄
  rw [hx, List.cons_append] at hvalue
  refine ⟨o₅, ?_⟩
  have htext : memberText s k v ++ y :: r
      = CodePoint.ofChar '"' :: (k.flatMap (pointText s.escaped) ++ CodePoint.ofChar '"'
        :: CodePoint.ofChar ':' :: (bs ++ (render s v ++ y :: r))) := by
    unfold memberText quoted
    rw [hmark]
    simp only [List.cons_append, List.append_assoc, List.nil_append]
  rw [htext, members]
  dsimp only
  rw [if_pos rfl, hname]
  dsimp only
  rw [hcolon]
  dsimp only
  rw [if_pos rfl]
  unfold Cursor.advance
  dsimp only
  rw [List.drop_succ_cons, List.drop_zero, hx, List.cons_append, hblanks, hvalue]
  dsimp only
  rw [hnext]
  rfl

/-- **The members of an object are read back**, those before them kept. -/
theorem members_readsBack (hs : s.Readable) {ms : List (Text × Json)} (hne : ms ≠ [])
    (hnames : ∀ m ∈ ms, s.Keeps m.1) (hvalues : ∀ m ∈ ms, ReadsBack s room m.2) (fuel : Nat)
    (hfuel : (renderMembers s ms).length + 1 < fuel) (r : Text) (o : Nat)
    (acc : List (Text × Json)) :
    ∃ o', members fuel room ⟨renderMembers s ms ++ (0x7D : CodePoint) :: r, o⟩ acc
      = .ok (ofMembers (acc.reverse ++ ms), ⟨r, o'⟩) := by
  induction ms generalizing fuel o acc with
  | nil => exact absurd rfl hne
  | cons m ms ih =>
    obtain ⟨k, v⟩ := m
    have hk : s.Keeps k := hnames (k, v) List.mem_cons_self
    have hv : ReadsBack s room v := hvalues (k, v) List.mem_cons_self
    obtain ⟨fuel, rfl⟩ : ∃ f, fuel = f + 1 := ⟨fuel - 1, by omega⟩
    cases ms with
    | nil =>
      -- the closing brace follows
      rw [renderMembers] at hfuel
      simp only [List.length_append] at hfuel
      obtain ⟨o', hmember⟩ := members_member hs hk hv (y := 0x7D) (by decide) fuel
        (by omega) r o acc
      refine ⟨o' + 1, ?_⟩
      rw [if_pos (by decide), List.reverse_cons] at hmember
      exact hmember
    | cons m ms =>
      -- a comma, blanks and the next member follow
      obtain ⟨bs, hmark, hbs⟩ := hs.item
      obtain ⟨tail, htail⟩ := renderMembers_cons s (List.cons_ne_nil m ms)
      rw [renderMembers, hmark] at hfuel
      simp only [List.length_append, List.length_cons] at hfuel
      obtain ⟨o₁, hmember⟩ := members_member hs hk hv (y := CodePoint.ofChar ',') (by decide)
        fuel (by omega) (bs ++ (renderMembers s (m :: ms) ++ (0x7D : CodePoint) :: r)) o acc
      obtain ⟨o₂, hblanks⟩ := skipBlanks_append hbs (c := CodePoint.ofChar '"') (by decide)
        (tail ++ (0x7D : CodePoint) :: r) (o₁ + 1)
      obtain ⟨o₃, hrest⟩ := ih (by simp) (fun x hx => hnames x (List.mem_cons_of_mem _ hx))
        (fun x hx => hvalues x (List.mem_cons_of_mem _ hx)) fuel (by omega) o₂
        ((k, v) :: acc)
      refine ⟨o₃, ?_⟩
      rw [if_neg (by decide), if_pos rfl] at hmember
      have htext : renderMembers s ((k, v) :: m :: ms) ++ (0x7D : CodePoint) :: r
          = memberText s k v ++ CodePoint.ofChar ','
            :: (bs ++ (renderMembers s (m :: ms) ++ (0x7D : CodePoint) :: r)) := by
        unfold memberText
        rw [renderMembers, hmark]
        simp only [List.cons_append, List.append_assoc]
      rw [htext, hmember, htail, List.cons_append, hblanks]
      rw [htail, List.cons_append] at hrest
      rw [hrest, List.reverse_cons, List.append_assoc]
      rfl

/-- Setting a name that is not there adds it at the end. -/
theorem setMember_of_not_mem {ms : List (Text × Json)} (h : k ∉ ms.map Prod.fst) :
    setMember k v ms = ms ++ [(k, v)] := by
  induction ms with
  | nil => rfl
  | cons m ms ih =>
    rw [List.map_cons, List.mem_cons, not_or] at h
    unfold setMember
    rw [if_neg (fun he => h.1 he.symm), ih h.2]
    rfl

/-- Members with distinct names are the object. -/
theorem ofMembers_of_nodup {ms : List (Text × Json)} (h : (ms.map Prod.fst).Nodup) :
    ofMembers ms = .object ms := by
  -- members that are set already keep their place, so the fold appends
  have hfold : ∀ (rest done : List (Text × Json)), ((done ++ rest).map Prod.fst).Nodup →
      rest.foldl (fun acc m => setMember m.1 m.2 acc) done = done ++ rest := by
    intro rest
    induction rest with
    | nil =>
      intro done _
      exact (List.append_nil done).symm
    | cons m rest ih =>
      intro done hnodup
      have hm : m.1 ∉ done.map Prod.fst := by
        rw [List.map_append, List.map_cons, List.nodup_append] at hnodup
        intro hmem
        exact hnodup.2.2 _ hmem _ List.mem_cons_self rfl
      rw [List.foldl_cons, setMember_of_not_mem hm, ih, List.append_assoc]
      · rfl
      · rw [List.append_assoc]
        exact hnodup
  exact congrArg Json.object (hfold ms [] h)

/-- The text of an object. -/
theorem render_object (s : Style) (ms : List (Text × Json)) :
    render s (.object ms) = (0x7B : CodePoint) :: (renderMembers s ms ++ [(0x7D : CodePoint)]) := by
  rw [render]
  rfl

/-- **An object of values that are read back is read back**, if no name is given twice. -/
theorem readsBack_object (hs : s.Readable) {ms : List (Text × Json)}
    (hnames : ∀ m ∈ ms, s.Keeps m.1) (hvalues : ∀ m ∈ ms, ReadsBack s room m.2)
    (hdistinct : (ms.map Prod.fst).Nodup) : ReadsBack s (room + 1) (.object ms) := by
  refine ⟨⟨_, _, render_object s ms, by decide⟩, ?_⟩
  intro fuel hfuel r o
  obtain ⟨fuel, rfl⟩ : ∃ f, fuel = f + 1 := ⟨fuel - 1, by omega⟩
  rw [render_object] at hfuel ⊢
  simp only [List.length_cons, List.length_append, List.length_nil] at hfuel
  have htext : (0x7B : CodePoint) :: (renderMembers s ms ++ [(0x7D : CodePoint)]) ++ r
      = (0x7B : CodePoint) :: (renderMembers s ms ++ (0x7D : CodePoint) :: r) := by
    rw [List.cons_append, List.append_assoc, List.singleton_append]
  rw [htext, value.eq_def]
  dsimp only
  rw [if_neg (by decide), if_pos (by decide)]
  unfold Cursor.advance
  dsimp only
  rw [List.drop_succ_cons, List.drop_zero]
  -- it looks for the closing brace before the first name as well
  by_cases hne : ms = []
  · subst hne
    obtain ⟨o', hclose⟩ := skipBlanks_solid (c := 0x7D) (by decide) r (o + 1)
    refine ⟨o' + 1, ?_⟩
    rw [renderMembers, List.nil_append, hclose]
    dsimp only
    rw [if_pos (by decide)]
    rfl
  · obtain ⟨tail, htail⟩ := renderMembers_cons s hne
    obtain ⟨o₁, hfirst⟩ := skipBlanks_solid (c := CodePoint.ofChar '"') (by decide)
      (tail ++ (0x7D : CodePoint) :: r) (o + 1)
    obtain ⟨o₂, hmembers⟩ := members_readsBack hs hne hnames hvalues fuel (by omega) r o₁ []
    refine ⟨o₂, ?_⟩
    rw [List.reverse_nil, List.nil_append, ofMembers_of_nodup hdistinct] at hmembers
    rw [htail, List.cons_append] at hmembers ⊢
    rw [hfirst]
    dsimp only
    rw [if_neg (by decide)]
    exact hmembers

end Members

/-! ## §5. Documents -/

/-- A value without numbers, nested at most so deep, whose texts a style does not spoil. -/
inductive Plain (s : Style) : Nat → Json → Prop where
  /-- Nothing. -/
  | null {n : Nat} : Plain s n .null
  /-- A truth value. -/
  | bool {n : Nat} (b : Bool) : Plain s n (.bool b)
  /-- A text. -/
  | text {n : Nat} {t : Text} (ht : s.Keeps t) : Plain s n (.text t)
  /-- A list of such values. -/
  | list {n : Nat} {vs : List Json} (hvs : ∀ v ∈ vs, Plain s n v) : Plain s (n + 1) (.list vs)
  /-- An object of such values, with distinct names. -/
  | object {n : Nat} {ms : List (Text × Json)} (hnames : ∀ m ∈ ms, s.Keeps m.1)
    (hvalues : ∀ m ∈ ms, Plain s n m.2) (hdistinct : (ms.map Prod.fst).Nodup) :
    Plain s (n + 1) (.object ms)

section Documents

variable {s : Style} {n : Nat} {v : Json}

/-- **Every plain value is read back** where there is room for its depth. -/
theorem Plain.readsBack (hs : s.Readable) (h : Plain s n v) {room : Nat} (hroom : n ≤ room) :
    ReadsBack s room v := by
  induction h generalizing room with
  | null => exact readsBack_null
  | bool b => exact readsBack_bool b
  | text ht => exact readsBack_text ht
  | list _ ih =>
    obtain ⟨room, rfl⟩ : ∃ m, room = m + 1 := ⟨room - 1, by omega⟩
    exact readsBack_list hs fun v hv => ih v hv (by omega)
  | object hnames _ hdistinct ih =>
    obtain ⟨room, rfl⟩ : ∃ m, room = m + 1 := ⟨room - 1, by omega⟩
    exact readsBack_object hs hnames (fun m hm => ih m hm (by omega)) hdistinct

/-- **A plain document is read back.** -/
theorem readText_plain (hs : s.Readable) (h : Plain s n v) (hdepth : n ≤ maxDepth) :
    readText (render s v) = .ok v := by
  have hv := h.readsBack hs hdepth
  obtain ⟨c, tail, hc, hopening⟩ := hv.start
  obtain ⟨o₁, hfirst⟩ := skipBlanks_solid hopening.1 tail 0
  -- the reader has more fuel than the document has signs
  obtain ⟨o₂, hvalue⟩ := hv.back (2 * (render s v).length + 2) (by omega) [] o₁
  rw [List.append_nil] at hvalue
  unfold readText
  rw [hc] at hvalue ⊢
  rw [hfirst, hvalue]
  rfl

/-- **So it is where a byte order mark is refused.** -/
theorem read_plain (hs : s.Readable) (h : Plain s n v) (hdepth : n ≤ maxDepth) :
    read (render s v) = .ok v := by
  obtain ⟨c, tail, hc, hopening⟩ := (h.readsBack hs hdepth).start
  unfold read
  rw [if_neg, readText_plain hs h hdepth]
  rw [hc, List.head?_cons]
  intro hmark
  injection hmark with hmark
  exact hopening.2.2 hmark

end Documents

end SealedDrop.Json
