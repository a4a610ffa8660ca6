/-
  SealedDrop.Proofs.Server.Identifier
  ───────────────────────────────────
  **AN ISSUED ID IS AN ID WHEREVER IT GOES.**

  What `identifierOf` makes of sixteen octets consists of lower-case hexadecimal
  digits and hyphens.  That is enough for everything that looks at it on its way
  through a link (`Link.toId`), an address (`Percent.decode`) and the router
  (`destination`): none of its signs means anything there.  `IdSign` says what
  such a sign is, and each reader gets one lemma about texts of such signs.

  Main results:
    • `isIdentifier_identifierOf` — an issued id is looked up,
    • `Percent.decode_plain` — a plain address is its own path,
    • `destination_read` — a read of an issued id goes to the route of reads.
-/
import SealedDrop.Proofs.Json.Flat
import SealedDrop.Proofs.Link
import SealedDrop.Proofs.Text.Literal
import SealedDrop.Proofs.Text.Percent
import SealedDrop.Server.Route

namespace SealedDrop

/-! ## §1. Signs of an id -/

/-- A lower-case hexadecimal digit. -/
def HexSign (c : CodePoint) : Prop := c.isDigit = true ∨ (0x61 ≤ c.val ∧ c.val ≤ 0x66)

/-- A sign that an issued id may consist of. -/
def IdSign (c : CodePoint) : Prop := HexSign c ∨ c = CodePoint.ofChar '-'

theorem HexSign.val {c : CodePoint} (h : HexSign c) :
    (0x30 ≤ c.val ∧ c.val ≤ 0x39) ∨ (0x61 ≤ c.val ∧ c.val ≤ 0x66) := by
  unfold HexSign CodePoint.isDigit at h
  simpa only [Bool.and_eq_true, decide_eq_true_eq] using h

theorem IdSign.val {c : CodePoint} (h : IdSign c) :
    (0x30 ≤ c.val ∧ c.val ≤ 0x39) ∨ (0x61 ≤ c.val ∧ c.val ≤ 0x66) ∨ c.val = 0x2D := by
  rcases h with h | rfl
  · rcases h.val with h | h
    · exact .inl h
    · exact .inr (.inl h)
  · exact .inr (.inr rfl)

/-- A sign of an id is none of the signs that mean something in a path. -/
theorem IdSign.ne {c d : CodePoint} (h : IdSign c)
    (hd : ¬ (0x30 ≤ d.val ∧ d.val ≤ 0x39) ∧ ¬ (0x61 ≤ d.val ∧ d.val ≤ 0x66) ∧ d.val ≠ 0x2D) :
    c ≠ d := by
  rintro rfl
  have := h.val
  omega

/-- The same of a hexadecimal sign. -/
theorem HexSign.ne {c d : CodePoint} (h : HexSign c)
    (hd : ¬ (0x30 ≤ d.val ∧ d.val ≤ 0x39) ∧ ¬ (0x61 ≤ d.val ∧ d.val ≤ 0x66)) : c ≠ d := by
  rintro rfl
  have := h.val
  omega

theorem IdSign.isAscii {c : CodePoint} (h : IdSign c) : c.isAscii = true := by
  have := h.val
  unfold CodePoint.isAscii
  rw [decide_eq_true_eq]
  omega

/-- A hexadecimal digit is written with a hexadecimal sign. -/
theorem hexSign_hexDigit {n : Nat} (hn : n < 16) : HexSign (Text.hexDigit n) := by
  have : ∀ m : Fin 16, (Text.hexDigit m.val).isDigit = true
      ∨ (0x61 ≤ (Text.hexDigit m.val).val ∧ (Text.hexDigit m.val).val ≤ 0x66) := by decide
  exact this ⟨n, hn⟩

/-- So are octets. -/
theorem hexSign_encode {bytes : Bytes} {c : CodePoint} (hc : c ∈ Hex.encode bytes) : HexSign c := by
  obtain ⟨b, _, hb⟩ := List.mem_flatMap.mp hc
  have hlt := b.toNat_lt
  simp only [List.mem_cons, List.not_mem_nil, or_false] at hb
  rcases hb with rfl | rfl
  · exact hexSign_hexDigit (by omega)
  · exact hexSign_hexDigit (by omega)

/-- Two signs for each octet. -/
theorem length_hexEncode (bytes : Bytes) : (Hex.encode bytes).length = 2 * bytes.length := by
  induction bytes with
  | nil => rfl
  | cons b bytes ih =>
    show (_ :: _ :: Hex.encode bytes).length = 2 * (bytes.length + 1)
    rw [List.length_cons, List.length_cons, ih]
    omega

namespace Server

/-! ## §2. Issued ids -/

/-- Sixteen octets with the marks of an issued id. -/
def marked (octets : Bytes) : Bytes :=
  (List.range 16).map fun i =>
    let b := octets.getD i 0
    if i = 6 then b &&& 0x0F ||| 0x40 else if i = 8 then b &&& 0x3F ||| 0x80 else b

/-- An issued id is 32 digits in five groups. -/
theorem identifierOf_eq (octets : Bytes) :
    ∃ ds : Text, ds.length = 32 ∧ (∀ c ∈ ds, HexSign c)
      ∧ identifierOf octets = ds.take 8 ++ CodePoint.ofChar '-' :: ((ds.drop 8).take 4
        ++ CodePoint.ofChar '-' :: ((ds.drop 12).take 4 ++ CodePoint.ofChar '-'
          :: ((ds.drop 16).take 4 ++ CodePoint.ofChar '-' :: ds.drop 20))) := by
  refine ⟨Hex.encode (marked octets), ?_, fun c hc => hexSign_encode hc, ?_⟩
  · rw [length_hexEncode, marked, List.length_map, List.length_range]
  · show Text.joinWith "-" [_, _, _, _, _] = _
    simp only [Text.joinWith, List.append_assoc]
    rfl

/-- An id is made of hexadecimal signs and hyphens. -/
theorem idSign_identifierOf {octets : Bytes} {c : CodePoint} (hc : c ∈ identifierOf octets) :
    IdSign c := by
  obtain ⟨ds, _, hds, hid⟩ := identifierOf_eq octets
  rw [hid] at hc
  simp only [List.mem_append, List.mem_cons] at hc
  rcases hc with h | h | h | h | h | h | h | h | h
  · exact .inl (hds c (List.mem_of_mem_take h))
  · exact .inr h
  · exact .inl (hds c (List.mem_of_mem_drop (List.mem_of_mem_take h)))
  · exact .inr h
  · exact .inl (hds c (List.mem_of_mem_drop (List.mem_of_mem_take h)))
  · exact .inr h
  · exact .inl (hds c (List.mem_of_mem_drop (List.mem_of_mem_take h)))
  · exact .inr h
  · exact .inl (hds c (List.mem_of_mem_drop h))

/-- An id has signs in it, so that a link with it is longer than the base. -/
theorem identifierOf_ne_nil (octets : Bytes) : identifierOf octets ≠ [] := by
  obtain ⟨ds, _, _, hid⟩ := identifierOf_eq octets
  rw [hid]
  simp

/-- An id is ASCII: it can be encoded, bound to a column and sent in a path. -/
theorem isAscii_identifierOf (octets : Bytes) : Text.isAscii (identifierOf octets) = true :=
  List.all_eq_true.mpr fun _ hc => (idSign_identifierOf hc).isAscii

/-! ## §3. Looking up -/

/-- Dropping hyphens leaves a run of hexadecimal signs as it is. -/
theorem filter_hyphen {ds : Text} (hds : ∀ c ∈ ds, HexSign c) :
    ds.filter (fun c => c ≠ CodePoint.ofChar '-') = ds :=
  List.filter_eq_self.mpr fun c hc => decide_eq_true ((hds c hc).ne (by decide))

/-- What is left of an issued id are its digits. -/
theorem bareId_identifierOf (octets : Bytes) :
    ∃ ds : Text, ds.length = 32 ∧ (∀ c ∈ ds, HexSign c) ∧ bareId (identifierOf octets) = ds := by
  obtain ⟨ds, hlength, hds, hid⟩ := identifierOf_eq octets
  refine ⟨ds, hlength, hds, ?_⟩
  have hsigns : ∀ c ∈ identifierOf octets, IdSign c := fun c hc => idSign_identifierOf hc
  -- none of the marks that the reader takes off occurs in an issued id
  have hurn : Text.removeLiteral "urn:" (identifierOf octets) = identifierOf octets :=
    Text.removeLiteral_of_not_mem fun c hc => (hsigns c hc).ne (by decide)
  have huuid : Text.removeLiteral "uuid:" (identifierOf octets) = identifierOf octets :=
    Text.removeLiteral_of_not_mem fun c hc => (hsigns c hc).ne (by decide)
  have htrim : Text.trim (fun c => c.val = 0x7B || c.val = 0x7D) (identifierOf octets)
      = identifierOf octets := by
    refine Text.trim_of_not_mem ?_
    intro c hc
    have := (hsigns c hc).val
    simp only [Bool.or_eq_false_iff, decide_eq_false_iff_not]
    omega
  have htake : ∀ n, ∀ c ∈ ds.take n, HexSign c := fun n c hc => hds c (List.mem_of_mem_take hc)
  have hmiddle : ∀ m n, ∀ c ∈ (ds.drop m).take n, HexSign c :=
    fun m n c hc => hds c (List.mem_of_mem_drop (List.mem_of_mem_take hc))
  have hrest : ∀ n, ∀ c ∈ ds.drop n, HexSign c := fun n c hc => hds c (List.mem_of_mem_drop hc)
  unfold bareId
  dsimp only
  rw [hurn, huuid, htrim, hid]
  simp only [List.filter_append, List.filter_cons, ne_eq, not_true_eq_false, decide_false,
    Bool.false_eq_true, if_false]
  have hfilter := fun (u : Text) (hu : ∀ c ∈ u, HexSign c) => filter_hyphen hu
  simp only [ne_eq] at hfilter
  rw [hfilter _ (htake 8), hfilter _ (hmiddle 8 4), hfilter _ (hmiddle 12 4),
    hfilter _ (hmiddle 16 4), hfilter _ (hrest 20)]
  -- the groups put together again
  rw [show ds.drop 20 = (ds.drop 16).drop 4 by rw [List.drop_drop], List.take_append_drop,
    show ds.drop 16 = (ds.drop 12).drop 4 by rw [List.drop_drop], List.take_append_drop,
    show ds.drop 12 = (ds.drop 8).drop 4 by rw [List.drop_drop], List.take_append_drop,
    List.take_append_drop]

/-- `int` would read such a run as a number. -/
theorem isHexRun_of_hexSigns {ds : Text} (hds : ∀ c ∈ ds, HexSign c) :
    isHexRun true ds = true := by
  induction ds with
  | nil => rfl
  | cons c r ih =>
    have hc := hds c List.mem_cons_self
    -- a hexadecimal sign is a digit or one of the six letters
    have hdigit : c.hexDigit?.isSome = true := by
      have := hc.val
      unfold CodePoint.hexDigit?
      split
      · rfl
      next hnot =>
        rw [if_pos]
        · rfl
        · unfold CodePoint.isDigit at hnot
          simp only [Bool.and_eq_true, decide_eq_true_eq] at hnot
          omega
    unfold isHexRun
    rw [if_neg (hc.ne (by decide)), isHexSign, hdigit, Bool.true_or, Bool.true_and]
    exact ih fun x hx => hds x (List.mem_cons_of_mem _ hx)

/-- A run of at least two digits is a number. -/
theorem isHexNumber_of_hexSigns {a b : CodePoint} {ds : Text}
    (hds : ∀ c ∈ a :: b :: ds, HexSign c) : isHexNumber (a :: b :: ds) = true := by
  have ha := hds a List.mem_cons_self
  have hb := hds b (List.mem_cons_of_mem _ List.mem_cons_self)
  have htrim : Text.trim Text.isWhite (a :: b :: ds) = a :: b :: ds := by
    refine Text.trim_of_not_mem ?_
    intro c hc
    have := (hds c hc).val
    unfold Text.isWhite
    simp only [Bool.or_eq_false_iff, Bool.and_eq_false_iff, decide_eq_false_iff_not]
    omega
  -- no digit is a sign or the mark of a base
  have hplus : Text.dropLiteral? "+" (a :: b :: ds) = none := by
    unfold Text.dropLiteral?
    show (if CodePoint.ofChar '+' = a then _ else none) = none
    rw [if_neg fun h => ha.ne (by decide) h.symm]
  have hlower : b.toLowerAscii = b := by
    have := hb.val
    unfold CodePoint.toLowerAscii
    rw [dif_neg (by omega)]
  have hprefix : Text.dropLiteral? "0x" (Text.lowerAscii (a :: b :: ds)) = none := by
    unfold Text.dropLiteral?
    show (if CodePoint.ofChar '0' = a.toLowerAscii then
      (if CodePoint.ofChar 'x' = b.toLowerAscii then _ else none) else none) = none
    rw [hlower, if_neg fun h : CodePoint.ofChar 'x' = b => hb.ne (by decide) h.symm]
    exact ite_self none
  have hrun : isHexRun false (a :: b :: ds) = isHexRun true (a :: b :: ds) := by
    unfold isHexRun
    rw [if_neg (ha.ne (by decide)), if_neg (ha.ne (by decide))]
  unfold isHexNumber
  dsimp only
  rw [htrim, hplus, Option.getD_none, hprefix]
  exact hrun.trans (isHexRun_of_hexSigns hds)

/-- **An issued id is one that is looked up.** -/
theorem isIdentifier_identifierOf (octets : Bytes) : isIdentifier (identifierOf octets) = true := by
  obtain ⟨ds, hlength, hds, hbare⟩ := bareId_identifierOf octets
  unfold isIdentifier
  dsimp only
  rw [hbare, decide_eq_true hlength, Bool.true_and]
  -- 32 digits are at least two
  match ds, hlength, hds with
  | a :: b :: r, _, hds => exact isHexNumber_of_hexSigns hds

/-! ## §4. Addresses -/

/-- A sign that stands for itself in the path of an address. -/
def Plain (c : CodePoint) : Prop :=
  c.isAscii = true ∧ c ≠ CodePoint.ofChar '%' ∧ c ≠ CodePoint.ofChar '?'

instance (c : CodePoint) : Decidable (Plain c) := inferInstanceAs (Decidable (_ ∧ _))

/-- **A text of plain signs stands for itself.** -/
theorem decode_plain {t : Text} (ht : ∀ c ∈ t, Plain c) : Percent.decode t = t := by
  have hspells : Percent.Spells (fun _ => true) t (t.flatMap Utf8.encodePoint) :=
    Percent.spells_of_signs fun c hc => ⟨rfl, (ht c hc).2.1⟩
  have hscalar : t.isScalar = true :=
    Text.isScalar_of_isAscii (List.all_eq_true.mpr fun c hc => (ht c hc).1)
  unfold Percent.decode
  rw [hspells.octets, Utf8.decodeLossy_flatMap, Utf8.flatMap_lenient_of_isScalar hscalar]

/-- A request to a plain target has it for its path. -/
theorem path_plain {r : Http.Request} (ht : ∀ c ∈ r.target, Plain c) : r.path = r.target := by
  have hall : ∀ c ∈ r.target, decide (c ≠ CodePoint.ofChar '?') = true :=
    fun c hc => decide_eq_true (ht c hc).2.2
  unfold Http.Request.path
  rw [List.takeWhile_eq_self_iff.mpr hall]
  exact decode_plain ht

/-! ## §5. The route of a read -/

/-- A path with an id behind the fixed part fits the route of reads. -/
theorem fit?_read {id : Text} (hne : id ≠ []) (hid : ∀ c ∈ id, c ≠ CodePoint.ofChar '/') :
    Route.read.fit? (Route.read.fixedPath ++ id) = some id := by
  have hslash : List.contains id (CodePoint.ofChar '/') = false := by
    rw [← Bool.not_eq_true, List.contains_iff_mem]
    intro hmem
    exact hid _ hmem rfl
  unfold Route.fit?
  dsimp only
  rw [Text.dropLiteral?_eq_some_iff.mpr rfl]
  dsimp only
  rw [hslash, List.isEmpty_eq_false_iff.mpr hne]
  rfl

/-- **A path that fits a read goes to the route of reads**, whatever else it fits: the other routes
take another method. -/
theorem destination_of_fit?_read {path id : Text} (h : Route.read.fit? path = some id) :
    destination (Text.ofString "GET") path = .route .read id := by
  -- a route that fits as well is passed over for its method
  have hother : ∀ r : Route, r ≠ .read →
      ((r.fit? path).map fun p => (r, p)).any (fun f => f.1.method = Text.ofString "GET") = false := by
    intro r hr
    cases r.fit? path with
    | none => rfl
    | some p =>
      cases r with
      | read => exact absurd rfl hr
      | register | create | list | expire => rfl
  have hfind : (Route.all.filterMap fun r => (r.fit? path).map fun p => (r, p)).find?
      (fun f => f.1.method = Text.ofString "GET") = some (.read, id) := by
    rw [List.find?_filterMap]
    unfold Route.all
    rw [List.find?_cons, hother .register (by decide), List.find?_cons, hother .create (by decide),
      List.find?_cons, hother .list (by decide), List.find?_cons, hother .expire (by decide),
      List.find?_cons, h]
    rw [show ((some id).map fun p => (Route.read, p)).any
      (fun f => f.1.method = Text.ofString "GET") = true from rfl]
    dsimp only [Option.bind]
    rw [h]
    rfl
  unfold destination
  dsimp only
  rw [hfind]

/-- **A read of an issued id goes to the route of reads.** -/
theorem destination_read (octets : Bytes) :
    destination (Text.ofString "GET") (Route.read.fixedPath ++ identifierOf octets)
      = .route .read (identifierOf octets) := by
  refine destination_of_fit?_read (fit?_read (identifierOf_ne_nil octets) ?_)
  intro c hc
  exact (idSign_identifierOf hc).ne (by decide)

end Server

end SealedDrop
