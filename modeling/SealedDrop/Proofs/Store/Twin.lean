/-
  SealedDrop.Proofs.Store.Twin
  ────────────────────────────
  **ENVELOPES THAT COULD BE ONE ANOTHER.**

  Two secrets of one length are sealed to envelopes of one length, and whoever
  cannot open them has nothing else to tell them apart by.  `Twin` is this
  likeness of envelopes.  It is as much as the service needs to treat two of them
  alike: it measures an envelope, asks whether it can be stored, and flips a bit
  of it in a drill.

  What the service shows of tables with twins in them is `Shown` alike: the
  same document, but for the envelopes.

  Main results:
    • `tamper_like` — a drill keeps tables alike,
    • `Shown.memberOf` — a client finds a difference under one name only.
-/
import SealedDrop.Client.Operation
import SealedDrop.Proofs.Codec.Base64
import SealedDrop.Proofs.Store.Blindness
import SealedDrop.Proofs.Store.View
import SealedDrop.Store.Tamper

namespace SealedDrop.Store

open Result (Like)

/-! ## §1. Twins -/

/-- Two envelopes of one length, the same or both sealed: base64 of octets. -/
structure Twin (d d' : Text) : Prop where
  length : d.length = d'.length
  kind : d = d' ∨ ∃ a b : Bytes, a ≠ [] ∧ a.length = b.length
    ∧ d = Base64.encode a ∧ d' = Base64.encode b

theorem Twin.refl (d : Text) : Twin d d := ⟨rfl, .inl rfl⟩

theorem twin_encode {a b : Bytes} (hne : a ≠ []) (h : a.length = b.length) :
    Twin (Base64.encode a) (Base64.encode b) := by
  refine ⟨?_, .inr ⟨a, b, hne, h, rfl, rfl⟩⟩
  rw [Base64.length_encode, Base64.length_encode, h]

/-- Twins can be stored, or are the same. -/
theorem Twin.storable {d d' : Text} (h : Twin d d') :
    d = d' ∨ d.isScalar = true ∧ d'.isScalar = true := by
  rcases h.kind with hsame | ⟨a, b, _, _, rfl, rfl⟩
  · exact .inl hsame
  · exact .inr ⟨Text.isScalar_of_isAscii (Base64.isAscii_encode a),
      Text.isScalar_of_isAscii (Base64.isAscii_encode b)⟩

theorem Row.Like.refl (r : Row) : r.Like Twin r := by
  refine ⟨rfl, ?_⟩
  cases r.data with
  | none => exact .none
  | some d => exact .some (.refl d)

theorem Table.Like.refl (t : Table) : t.Like Twin t := List.forall₂_same.mpr fun r _ => .refl r

/-! ## §2. A drill -/

theorem exists_flipLast {a : Bytes} (hne : a ≠ []) :
    ∃ c, flipLast a = some c ∧ c.length = a.length := by
  have hback : a.reverse ≠ [] := fun h => hne (List.reverse_eq_nil_iff.mp h)
  obtain ⟨x, r, hr⟩ := List.exists_cons_of_ne_nil hback
  refine ⟨((x ^^^ 1) :: r).reverse, ?_, ?_⟩
  · unfold flipLast
    rw [hr]
  · have hlength := congrArg List.length hr
    rw [List.length_reverse] at hlength
    rw [List.length_reverse, hlength]
    rfl

/-- **Twins are still twins when both are tampered with.** -/
theorem tamperText_like {d d' : Text} (h : Twin d d') :
    Like Twin (tamperText d) (tamperText d') := by
  rcases h.kind with hsame | ⟨a, b, hne, hlength, rfl, rfl⟩
  · rw [hsame]
    exact .refl Twin.refl _
  · have hne' : b ≠ [] := by
      intro hb
      rw [hb, List.length_nil, List.length_eq_zero_iff] at hlength
      exact hne hlength
    obtain ⟨c, hc, hclength⟩ := exists_flipLast hne
    obtain ⟨c', hc', hclength'⟩ := exists_flipLast hne'
    have hlengths : c.length = c'.length := by rw [hclength, hclength', hlength]
    -- a flip keeps the length, so neither text becomes empty
    have hkept : c ≠ [] := by
      intro hnil
      rw [hnil, List.length_nil] at hclength
      exact hne (List.length_eq_zero_iff.mp hclength.symm)
    unfold tamperText
    rw [Base64.decodeLenient_encode, Base64.decodeLenient_encode]
    dsimp only
    rw [hc, hc']
    exact .ok (twin_encode hkept hlengths)

/-- **A drill keeps tables alike**, and says the same. -/
theorem tamper_like {t t' : Table} (ht : t.Like Twin t') (id : Text) :
    Like (fun x x' : Text × Table => x.1 = x'.1 ∧ x.2.Like Twin x'.2) (tamper t id)
      (tamper t' id) := by
  -- an envelope is found in both tables, or in none
  have hfound : Option.Rel Twin ((t.find? id).bind Row.data) ((t'.find? id).bind Row.data) := by
    have hrow := ht.find? id
    generalize t.find? id = x, t'.find? id = x' at hrow ⊢
    cases hrow with
    | none => exact .none
    | some hr => exact hr.data
  unfold tamper
  cases Utf8.firstSurrogates id with
  | some e => exact .error _
  | none =>
    dsimp only
    generalize (t.find? id).bind Row.data = x, (t'.find? id).bind Row.data = x' at hfound ⊢
    cases hfound with
    | none => exact .ok ⟨rfl, ht⟩
    | @some d d' hd =>
      dsimp only
      have htext := tamperText_like hd
      generalize tamperText d = y, tamperText d' = y' at htext ⊢
      cases htext with
      | error e => exact .error e
      | ok hflipped =>
        refine .ok ⟨rfl, List.rel_map ?_ ht⟩
        intro r r' hr
        dsimp only
        rw [hr.header]
        split
        next => exact ⟨rfl, .some hflipped⟩
        next => exact hr

/-! ## §3. What is shown -/

/-- Two documents show the same, but for envelopes: they are the same, or the public views of a
secret, or lists of views, with twins for envelopes. -/
inductive Shown : Json → Json → Prop where
  /-- The same document. -/
  | same (j : Json) : Shown j j
  /-- A live secret, as anybody may read it. -/
  | secret (h : Header) {d d' : Text} (data : Twin d d') : Shown (publicJson h d) (publicJson h d')
  /-- The secrets of an owner. -/
  | secrets {vs vs' : List View} (views : List.Forall₂ (View.Like Twin) vs vs') :
      Shown (.list (vs.map View.toJson)) (.list (vs'.map View.toJson))

/-- A name is not found in a member of another name behind. -/
theorem find?_concat {k name : Text} (hne : k ≠ name) (v : Json) (ms : List (Text × Json)) :
    Json.find? name (ms ++ [(k, v)]) = Json.find? name ms := by
  induction ms with
  | nil => exact if_neg hne
  | cons m ms ih =>
    rw [List.cons_append, Json.find?, Json.find?, ih]

/-- The public view of a secret, up to its envelope. -/
def publicFront (h : Header) : List (Text × Json) :=
  [("id", .text h.id), ("created_at", .text (Stamp.utc h.createdAt).wireText),
   ("expires_at", .text (Stamp.utc h.expiresAt).wireText), ("single_use", .bool h.singleUse),
   ("expired", .bool false)]

/-- The envelope is the last member of a public view. -/
theorem publicJson_eq (h : Header) (d : Text) :
    publicJson h d = .object (publicFront h ++ [(Text.ofString "data", .text d)]) := rfl

/-- **Only under the name of the envelope a client finds a difference.** -/
theorem Shown.memberOf {j j' : Json} (h : Shown j j') {name : Text}
    (hname : Text.ofString "data" ≠ name) :
    Client.memberOf name j = Client.memberOf name j' := by
  cases h with
  | same => rfl
  | secrets => rfl
  | @secret h d d' _ =>
    rw [publicJson_eq, publicJson_eq]
    unfold Client.memberOf
    dsimp only
    rw [find?_concat hname, find?_concat hname]

theorem Shown.textOf {j j' : Json} (h : Shown j j') {name : Text}
    (hname : Text.ofString "data" ≠ name) : Client.textOf name j = Client.textOf name j' := by
  unfold Client.textOf
  rw [h.memberOf hname]

end SealedDrop.Store
