/-
  SealedDrop.Proofs.Http.Escape
  ─────────────────────────────
  **AN ADDRESS IS RESPELLED, NOT REWRITTEN.**

  Each part of an address is escaped by itself, and then the escapes of the
  whole address are brought into their normal form.  The lemmas follow a
  spelling through both: `escapePart` makes one of any text, and what `requote`
  makes of a spelling stands for the same octets.

  Main results:
    • `spells_escapePart` — an escaped part is a spelling,
    • `Spells.released` — undoing escapes that are not needed spells the same,
    • `requote_parts` — the normal form of an address, part by part.
-/
import SealedDrop.Http.Address
import SealedDrop.Proofs.Text.Percent

namespace SealedDrop.Http

open Percent (Spells encode octet? isUnreserved)

/-! ## §1. Escaping a part -/

section Parts

variable {p allowed : CodePoint → Bool} {t : Text} {bs : Bytes}

/-- The case of a hexadecimal digit does not change what it stands for. -/
theorem hexDigit?_toUpperAscii (c : CodePoint) : c.toUpperAscii.hexDigit? = c.hexDigit? := by
  unfold CodePoint.toUpperAscii
  split
  next h =>
    -- of the letters, the first six are digits in either case
    unfold CodePoint.hexDigit? CodePoint.isDigit
    simp only [Bool.and_eq_true, decide_eq_true_eq]
    rw [if_neg (by omega), if_neg (by omega)]
    by_cases hdigit : c.val ≤ 0x66
    · rw [if_pos (by omega), if_neg (by omega), if_pos (by omega)]
      exact congrArg some (by omega)
    · rw [if_neg (by omega), if_neg (by omega), if_neg (by omega), if_neg (by omega)]
  next => rfl

/-- Writing escapes in capitals does not change what a text spells. -/
theorem spells_upperEscapes (h : Spells p t bs) : Spells p (upperEscapes t) bs := by
  unfold upperEscapes
  induction h with
  | nil => exact .nil
  | sign hc hne _ ih =>
    rw [upperEscapes.go, if_neg fun h => hne h.1]
    exact .sign hc hne ih
  | @escape a b r n bs hn _ ih =>
    have hstart : Percent.startsWithOctet (a :: b :: r) = true := by
      unfold Percent.startsWithOctet
      rw [show octet? (a :: b :: r) = some n from hn]
      rfl
    have hupper : octet? [a.toUpperAscii, b.toUpperAscii] = some n := by
      unfold octet? at hn ⊢
      dsimp only at hn ⊢
      rw [hexDigit?_toUpperAscii, hexDigit?_toUpperAscii]
      exact hn
    rw [upperEscapes.go, if_pos ⟨rfl, hstart⟩]
    exact .escape hupper ih

/-- Escaping a part of an address keeps what is allowed, and percent signs if the part is escaped
already. -/
theorem escapePart_eq (allowed : CodePoint → Bool) (t : Text) :
    escapePart allowed t = encode
      (fun c => allowed c || (Percent.isEscaped t && c = CodePoint.ofChar '%')) (upperEscapes t) := by
  unfold escapePart
  dsimp only
  rw [show encode _ (upperEscapes t) = (upperEscapes t).flatMap _ from rfl]
  congr 1
  funext c
  split
  next => rfl
  next => exact List.append_nil _

/-- **An escaped part is a spelling.** -/
theorem spells_escapePart (hallowed : ∀ c, isUnreserved c = true → allowed c = true)
    (hpercent : allowed (CodePoint.ofChar '%') = false) (t : Text) :
    ∃ bs, Spells allowed (escapePart allowed t) bs := by
  rw [escapePart_eq]
  cases hescaped : Percent.isEscaped t with
  | false =>
    simp only [Bool.false_and, Bool.or_false]
    exact ⟨_, Percent.spells_encode hpercent _⟩
  | true =>
    obtain ⟨bs, hbs⟩ := Percent.spells_of_isEscaped hescaped
    refine ⟨bs, ((spells_upperEscapes hbs).respelled ?_ ?_).mono ?_⟩
    · simp
    · intro c hc
      rw [hallowed c hc, Bool.true_or]
    · intro c hne hc
      simpa [hne] using hc

/-- A part without percent signs is escaped sign by sign. -/
theorem escapePart_of_not_mem (h : ∀ c ∈ t, c ≠ CodePoint.ofChar '%') :
    escapePart allowed t = encode allowed t := by
  have hupper : ∀ t : Text, (∀ c ∈ t, c ≠ CodePoint.ofChar '%') → upperEscapes.go t 0 = t := by
    intro t
    induction t with
    | nil =>
      intro _
      rfl
    | cons c r ih =>
      intro h
      rw [upperEscapes.go, if_neg fun hc => h c List.mem_cons_self hc.1,
        ih fun x hx => h x (List.mem_cons_of_mem _ hx)]
  rw [escapePart_eq, upperEscapes, hupper t h]
  unfold encode
  refine List.flatMap_congr ?_
  intro c hc
  simp [h c hc]

end Parts

/-! ## §2. Undoing escapes -/

section Release

variable {p keep : CodePoint → Bool} {t : Text} {bs : Bytes}

/-- A sign that is no percent sign is passed over. -/
theorem release_cons {c : CodePoint} (hc : c ≠ CodePoint.ofChar '%') (r : Text) :
    releaseUnreserved?.go (c :: r) 0 = (releaseUnreserved?.go r 0).map (c :: ·) := by
  conv => lhs; unfold releaseUnreserved?.go
  exact if_neg hc

/-- Signs that are no percent signs are released as they are. -/
theorem release_append {u : Text} (hu : ∀ c ∈ u, c ≠ CodePoint.ofChar '%') (r : Text) :
    releaseUnreserved?.go (u ++ r) 0 = (releaseUnreserved?.go r 0).map (u ++ ·) := by
  induction u with
  | nil => exact Option.map_id'.symm
  | cons c u ih =>
    rw [List.cons_append, release_cons (hu c List.mem_cons_self),
      ih fun x hx => hu x (List.mem_cons_of_mem _ hx), Option.map_map]
    rfl

/-- An escape is undone if it stands for an unreserved sign. -/
theorem release_escape {a b : CodePoint} {n : UInt8} (hn : octet? [a, b] = some n) (r : Text) :
    releaseUnreserved?.go (CodePoint.ofChar '%' :: a :: b :: r) 0
      = (releaseUnreserved?.go r 0).map
          ((if isUnreserved (CodePoint.ofNat n.toNat) then [CodePoint.ofNat n.toNat]
            else [CodePoint.ofChar '%', a, b]) ++ ·) := by
  obtain ⟨ha, hb⟩ := Percent.octet?_eq_some hn
  have hoctet : octet? (a :: b :: r) = some n := hn
  rw [releaseUnreserved?.go, if_pos rfl]
  dsimp only
  rw [hoctet]
  dsimp only
  split
  next => rfl
  next =>
    rw [release_cons (Percent.ne_percent ha), release_cons (Percent.ne_percent hb), Option.map_map,
      Option.map_map]
    rfl

theorem isAscii_of_isUnreserved {c : CodePoint} (h : isUnreserved c = true) : c.isAscii = true := by
  unfold isUnreserved CodePoint.isLetter CodePoint.isDigit at h
  unfold CodePoint.isAscii
  rw [decide_eq_true_eq]
  rw [Bool.or_eq_true, Bool.or_eq_true] at h
  rcases h with (h | h) | h
  · simp only [Bool.or_eq_true, Bool.and_eq_true, decide_eq_true_eq] at h
    omega
  · simp only [Bool.and_eq_true, decide_eq_true_eq] at h
    omega
  · have hall : (Text.ofString "._-~").all CodePoint.isAscii = true := by decide
    exact of_decide_eq_true (List.all_eq_true.mp hall c (List.contains_iff_mem.mp h))

/-- **Undoing escapes of a spelling spells the same**, whatever follows it. -/
theorem Spells.released (hp : ∀ c, isUnreserved c = true → p c = true) (h : Spells p t bs) :
    ∃ t', Spells p t' bs ∧ ∀ r, releaseUnreserved?.go (t ++ r) 0
      = (releaseUnreserved?.go r 0).map (t' ++ ·) := by
  induction h with
  | nil => exact ⟨[], .nil, fun r => Option.map_id'.symm⟩
  | @sign c r bs hc hne _ ih =>
    obtain ⟨t', ht', hrelease⟩ := ih
    refine ⟨c :: t', .sign hc hne ht', ?_⟩
    intro u
    rw [List.cons_append, release_cons hne, hrelease, Option.map_map]
    rfl
  | @escape a b r n bs hn _ ih =>
    obtain ⟨t', ht', hrelease⟩ := ih
    refine ⟨(if isUnreserved (CodePoint.ofNat n.toNat) then [CodePoint.ofNat n.toNat]
            else [CodePoint.ofChar '%', a, b]) ++ t', ?_, ?_⟩
    · split
      next hfree =>
        -- an unreserved sign is ASCII, so its octet is its number
        have hval : (CodePoint.ofNat n.toNat).val = n.toNat := by
          have := n.toNat_lt
          exact Utf8.val_ofNat (by omega)
        have hform : Utf8.encodePoint (CodePoint.ofNat n.toNat) = [n] := by
          rw [Json.encodePoint_ascii (isAscii_of_isUnreserved hfree), hval, UInt8.ofNat_toNat]
        have hsign := Spells.sign (hp _ hfree) (Percent.ne_percent hfree) ht'
        rw [hform] at hsign
        exact hsign
      next => exact .escape hn ht'
    · intro u
      show releaseUnreserved?.go (CodePoint.ofChar '%' :: a :: b :: (r ++ u)) 0 = _
      rw [release_escape hn, hrelease, Option.map_map]
      simp only [Function.comp_def, List.append_assoc]

/-- An octet of ASCII stands for itself only. -/
theorem eq_of_mem_encodePoint {c : CodePoint} {b : UInt8} (hb : b ∈ Utf8.encodePoint c)
    (hlt : b.toNat < 0x80) : CodePoint.ofNat b.toNat = c := by
  have hclt := c.isLt
  unfold Utf8.encodePoint at hb
  dsimp only at hb
  split at hb
  next h =>
    rw [List.mem_singleton] at hb
    rw [hb, Utf8.toNat_octet (by omega), Utf8.ofNat_val]
  next =>
    -- leading and trailing octets are at least 128
    have hbeyond : ∀ n, 0x80 ≤ n → n < 256 → b ≠ UInt8.ofNat n := by
      rintro n hn hn' rfl
      rw [Utf8.toNat_octet hn'] at hlt
      omega
    split at hb
    next =>
      simp only [List.mem_cons, List.not_mem_nil, or_false] at hb
      rcases hb with hb | hb
      · exact absurd hb (hbeyond _ (by omega) (by omega))
      · exact absurd hb (hbeyond _ (by omega) (by omega))
    next =>
      split at hb
      next =>
        simp only [List.mem_cons, List.not_mem_nil, or_false] at hb
        rcases hb with hb | hb | hb
        · exact absurd hb (hbeyond _ (by omega) (by omega))
        · exact absurd hb (hbeyond _ (by omega) (by omega))
        · exact absurd hb (hbeyond _ (by omega) (by omega))
      next =>
        simp only [List.mem_cons, List.not_mem_nil, or_false] at hb
        rcases hb with hb | hb | hb | hb
        · exact absurd hb (hbeyond _ (by omega) (by omega))
        · exact absurd hb (hbeyond _ (by omega) (by omega))
        · exact absurd hb (hbeyond _ (by omega) (by omega))
        · exact absurd hb (hbeyond _ (by omega) (by omega))

/-- Escapes of reserved octets are not released. -/
theorem release_escapes {bytes : Bytes}
    (h : ∀ b ∈ bytes, isUnreserved (CodePoint.ofNat b.toNat) = false) (r : Text) :
    releaseUnreserved?.go (bytes.flatMap Percent.ofOctet ++ r) 0
      = (releaseUnreserved?.go r 0).map (bytes.flatMap Percent.ofOctet ++ ·) := by
  induction bytes with
  | nil => exact Option.map_id'.symm
  | cons b bytes ih =>
    obtain ⟨x, y, hb, hoctet⟩ := Percent.exists_ofOctet b
    rw [List.flatMap_cons, hb]
    show releaseUnreserved?.go (CodePoint.ofChar '%' :: x :: y
      :: (bytes.flatMap Percent.ofOctet ++ r)) 0 = _
    rw [release_escape hoctet, h b List.mem_cons_self, if_neg (by simp),
      ih fun d hd => h d (List.mem_cons_of_mem _ hd), Option.map_map]
    rfl

/-- **In a text that escapes no unreserved sign, nothing is undone.** -/
theorem release_encode (hkeep : ∀ c, isUnreserved c = true → keep c = true)
    (hpercent : keep (CodePoint.ofChar '%') = false) (t r : Text) :
    releaseUnreserved?.go (encode keep t ++ r) 0
      = (releaseUnreserved?.go r 0).map (encode keep t ++ ·) := by
  induction t with
  | nil => exact Option.map_id'.symm
  | cons c t ih =>
    cases hc : keep c with
    | true =>
      have hne : c ≠ CodePoint.ofChar '%' := by
        rintro rfl
        rw [hpercent] at hc
        cases hc
      rw [Percent.encode_cons_of_keep hc, List.cons_append, release_cons hne, ih, Option.map_map]
      rfl
    | false =>
      have hoctets : ∀ b ∈ Utf8.encodePoint c, isUnreserved (CodePoint.ofNat b.toNat) = false := by
        intro b hb
        refine Bool.eq_false_iff.mpr fun hfree => ?_
        -- an octet that is unreserved would be the sign itself
        have hlt : b.toNat < 0x80 := by
          have hascii := isAscii_of_isUnreserved hfree
          unfold CodePoint.isAscii at hascii
          rw [decide_eq_true_eq, Utf8.val_ofNat (by have := b.toNat_lt; omega)] at hascii
          exact hascii
        rw [eq_of_mem_encodePoint hb hlt] at hfree
        rw [hkeep c hfree] at hc
        cases hc
      rw [Percent.encode_cons_of_not_keep hc, List.append_assoc, release_escapes hoctets, ih,
        Option.map_map]
      simp only [Function.comp_def, List.append_assoc]

end Release

/-! ## §3. The normal form of an address -/

section Requote

/-- A text behind a mark, if there is one. -/
def behind (sign t : Text) : Text := if t.isEmpty then [] else sign ++ t

theorem isPathSign_of_isUnreserved {c : CodePoint} (h : isUnreserved c = true) :
    isPathSign c = true := by
  unfold isPathSign isUserSign
  rw [h, Bool.true_or, Bool.true_or]

theorem isQuerySign_of_isPathSign {c : CodePoint} (h : isPathSign c = true) :
    isQuerySign c = true := by
  unfold isQuerySign
  rw [h, Bool.true_or]

theorem isQuerySign_of_isUnreserved {c : CodePoint} (h : isUnreserved c = true) :
    isQuerySign c = true :=
  isQuerySign_of_isPathSign (isPathSign_of_isUnreserved h)

theorem isAddressSign_of_isQuerySign {c : CodePoint} (h : isQuerySign c = true) :
    isAddressSign c = true := by
  unfold isAddressSign
  rw [h, Bool.true_or]

/-- A spelling of signs of a query needs no more escapes. -/
theorem all_isAddressSign {t : Text} {bs : Bytes} (h : Spells isQuerySign t bs) :
    t.all isAddressSign = true := by
  refine List.all_eq_true.mpr ?_
  intro c hc
  rcases h.mem (fun _ => isQuerySign_of_isUnreserved) hc with hsign | rfl
  · exact isAddressSign_of_isQuerySign hsign
  · decide

/-- A part that is empty stays empty, and any other is respelled behind its mark. -/
theorem Spells.released_behind {sign t : Text} {bs : Bytes}
    (hsign : sign.all (fun c => c ≠ CodePoint.ofChar '%') = true) (h : Spells isQuerySign t bs) :
    ∃ t', Spells isQuerySign t' bs ∧ ∀ r, releaseUnreserved?.go (behind sign t ++ r) 0
      = (releaseUnreserved?.go r 0).map (behind sign t' ++ ·) := by
  obtain ⟨t', ht', hrelease⟩ := Spells.released (fun _ => isQuerySign_of_isUnreserved) h
  refine ⟨t', ht', fun r => ?_⟩
  have hempty : t'.isEmpty = t.isEmpty := by
    rw [Bool.eq_iff_iff, List.isEmpty_iff, List.isEmpty_iff, ht'.eq_nil_iff, h.eq_nil_iff]
  unfold behind
  rw [hempty]
  split
  next => exact Option.map_id'.symm
  next =>
    rw [List.append_assoc,
      release_append fun c hc => of_decide_eq_true (List.all_eq_true.mp hsign c hc), hrelease,
      Option.map_map]
    simp only [Function.comp_def, List.append_assoc]

theorem all_behind {sign t : Text} (hsign : sign.all isAddressSign = true)
    (h : t.all isAddressSign = true) : (behind sign t).all isAddressSign = true := by
  unfold behind
  split
  next => rfl
  next => rw [List.all_append, hsign, h]; rfl

/-- What is released into signs of an address is the address. -/
theorem requote_of_release {t t' : Text} (h : releaseUnreserved?.go t 0 = some t')
    (hall : t'.all isAddressSign = true) : requote t = t' := by
  unfold requote releaseUnreserved?
  rw [h]
  exact Percent.encode_of_all hall

/-- **The normal form of an address is that of its parts**: what stands before the path stays as it
is, and query and fragment still stand for the same octets. -/
theorem requote_parts {front path path' query fragment : Text} {bp bq bf : Bytes}
    (hfront : ∀ c ∈ front, isAddressSign c = true ∧ c ≠ CodePoint.ofChar '%')
    (hpath : Spells isPathSign path' bp) (hrelease : ∀ r, releaseUnreserved?.go (path ++ r) 0
      = (releaseUnreserved?.go r 0).map (path' ++ ·))
    (hquery : Spells isQuerySign query bq) (hfragment : Spells isQuerySign fragment bf) :
    ∃ query' fragment', Spells isQuerySign query' bq ∧ Spells isQuerySign fragment' bf
      ∧ requote (front ++ (path ++ (behind "?" query ++ behind "#" fragment)))
        = front ++ (path' ++ (behind "?" query' ++ behind "#" fragment')) := by
  -- each part is released by itself; the marks between them need no release
  have hmarks : ∀ sign ∈ [Text.ofString "?", Text.ofString "#"],
      sign.all (fun c => c ≠ CodePoint.ofChar '%') = true := by decide
  obtain ⟨query', hq, hqueryRelease⟩ := Spells.released_behind (hmarks "?" (by simp)) hquery
  obtain ⟨fragment', hf, hfragmentRelease⟩ :=
    Spells.released_behind (hmarks "#" (by simp)) hfragment
  refine ⟨query', fragment', hq, hf, requote_of_release ?_ ?_⟩
  · have hnil := hfragmentRelease []
    rw [List.append_nil] at hnil
    rw [release_append fun c hc => (hfront c hc).2, hrelease, hqueryRelease, hnil]
    exact congrArg (fun u => some (front ++ (path' ++ (behind "?" query' ++ u))))
      (List.append_nil _)
  · have hfrontAll : front.all isAddressSign = true :=
      List.all_eq_true.mpr fun c hc => (hfront c hc).1
    rw [List.all_append, List.all_append, List.all_append, hfrontAll,
      all_isAddressSign (hpath.mono fun _ _ => isQuerySign_of_isPathSign),
      all_behind (by decide) (all_isAddressSign hq), all_behind (by decide) (all_isAddressSign hf)]
    rfl

end Requote

end SealedDrop.Http
