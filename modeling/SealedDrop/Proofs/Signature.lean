/-
  SealedDrop.Proofs.Signature
  ───────────────────────────
  **WHAT BECOMES OF A SIGNATURE.**

  `Signature.check` takes a signature through checks in a fixed order: the size
  of the key, the text of the signature, its base64, the UTF-8 form of the
  message, and `Ed25519.verify`.  Each of them can turn it down for a reason of
  its own.  To the caller there should be one reason only: the signature is
  wrong.  Two of the checks ask about texts, not about signatures, and what
  they turn down is not called that.

      Checked   — the links of the chain, and where it breaks
      Verifies  — the signature is that of the text
      answer?   — the answer that a refusal is
      Outcomes  — when a signature is accepted, called wrong, or neither

  Main results:
    • `checked_check` — a check follows the chain,
    • `check_eq_ok_iff` — when a signature is accepted,
    • `check_outcomes` — what becomes of any signature, under any key,
    • `check_escapes` — a signature that is neither accepted nor called wrong.
-/
import SealedDrop.Proofs.Codec.Base64
import SealedDrop.Proofs.Text.Utf8
import SealedDrop.Server.Failure
import SealedDrop.Signature

namespace SealedDrop.Signature

/-! ## §1. The chain of checks -/

/-- How far a signature gets. -/
inductive Checked (key : Bytes) (signature text : Text) : Except Refusal Unit → Prop where
  | badKey (size : key.length ≠ keySize) : Checked key signature text (.error .badKey)
  | notAscii (size : key.length = keySize) (foreign : signature.isAscii = false) :
      Checked key signature text (.error .notAscii)
  | notBase64 (size : key.length = keySize) (ascii : signature.isAscii = true)
      (unspelled : ¬ ∃ octets, Base64.Spells signature octets) :
      Checked key signature text (.error .notBase64)
  | unencodable (size : key.length = keySize) {octets : Bytes}
      (spells : Base64.Spells signature octets) {fault : Unencodable}
      (formless : Utf8.encode text = .error fault) :
      Checked key signature text (.error (.unencodable fault))
  | mismatch (size : key.length = keySize) {octets message : Bytes}
      (spells : Base64.Spells signature octets) (form : Utf8.encode text = .ok message)
      (fails : Ed25519.verify key octets message = false) :
      Checked key signature text (.error .mismatch)
  | accepted (size : key.length = keySize) {octets message : Bytes}
      (spells : Base64.Spells signature octets) (form : Utf8.encode text = .ok message)
      (verifies : Ed25519.verify key octets message = true) :
      Checked key signature text (.ok ())

section Checks

variable {key : Bytes} {signature text : Text}

/-- **A check follows the chain.** -/
theorem checked_check (key : Bytes) (signature text : Text) :
    Checked key signature text (check key signature text) := by
  unfold check
  -- in the order of the program: the key, the signature, the text, then the verdict
  by_cases hsize : key.length = keySize
  · rw [if_neg (not_not_intro hsize)]
    cases hascii : signature.isAscii with
    | false => exact .notAscii hsize hascii
    | true =>
      rw [if_neg (by simp)]
      cases hoctets : Base64.decode? signature with
      | none => exact .notBase64 hsize hascii (Base64.decode?_eq_none_iff.mp hoctets)
      | some octets =>
        have hspells := Base64.decode?_eq_some_iff.mp hoctets
        cases hform : Utf8.encode text with
        | error fault => exact .unencodable hsize hspells hform
        | ok message =>
          dsimp only
          cases hverify : Ed25519.verify key octets message with
          | false => exact .mismatch hsize hspells hform hverify
          | true => exact .accepted hsize hspells hform hverify
  · rw [if_pos hsize]
    exact .badKey hsize

/-- **A signature is accepted iff it is base64 of octets that verify under the key.** -/
theorem check_eq_ok_iff :
    check key signature text = .ok () ↔
      key.length = keySize ∧ signature.isAscii = true ∧
        ∃ octets message, Base64.decode? signature = some octets
          ∧ Utf8.encode text = .ok message ∧ Ed25519.verify key octets message = true := by
  constructor
  · intro h
    have hchecked := checked_check key signature text
    rw [h] at hchecked
    cases hchecked with
    | accepted size spells form verifies =>
      exact ⟨size, spells.isAscii, _, _, Base64.decode?_eq_some_iff.mpr spells, form, verifies⟩
  · rintro ⟨hsize, hascii, octets, message, hoctets, hform, hverify⟩
    unfold check
    rw [if_neg (not_not_intro hsize), hascii, if_neg (by simp), hoctets, hform]
    exact if_pos hverify

end Checks

/-! ## §2. What the caller is told -/

/-- The answer that a refusal is: a wrong signature is called that, whatever is wrong with it. A
malformed request is no answer yet. -/
def Refusal.answer? (r : Refusal) : Option Server.ErrorAnswer :=
  if r.isInvalid then some ⟨400, r.message⟩ else none

/-- The answer to a wrong signature. -/
def wrong : Server.ErrorAnswer := ⟨400, "Invalid signature"⟩

/-- A signature is that of a text: strict base64 of octets that verify, under the key, over the UTF-8
form of the text. -/
def Verifies (key : Bytes) (signature text : Text) : Prop :=
  ∃ octets message, Base64.Spells signature octets ∧ Utf8.encode text = .ok message
    ∧ Ed25519.verify key octets message = true

/-- When a signature is accepted, when it is called wrong, and when it is neither. -/
structure Outcomes (key : Bytes) (signature text : Text) (result : Except Refusal Unit) : Prop where
  /-- Exactly the signature of the text is accepted. -/
  accepted : result = .ok () ↔ Verifies key signature text
  /-- An ASCII text that is no base64 is called wrong, and so is base64 that does not verify over a text
  that has a form. -/
  invalid : (∃ r, result = .error r ∧ r.answer? = some wrong) ↔
    signature.isAscii = true ∧ ((¬ ∃ octets, Base64.Spells signature octets)
      ∨ (text.isScalar = true ∧ ¬ Verifies key signature text))
  /-- A signature beyond ASCII is turned down before it is looked at. -/
  foreign : result = .error .notAscii ↔ signature.isAscii = false
  /-- Nothing is said of base64 over a text without a form. -/
  formless : (∃ fault, result = .error (.unencodable fault)) ↔
    (∃ octets, Base64.Spells signature octets) ∧ text.isScalar = false
  /-- There is no other way out. -/
  exhausted : ∀ r, result = .error r → r.answer? = some wrong ∨ r = .notAscii
    ∨ ∃ fault, r = .unencodable fault

section Outcomes

variable {key : Bytes} {signature text : Text}

/-- What does not verify in one way does not verify at all. -/
theorem not_verifies {octets message : Bytes} (spells : Base64.Spells signature octets)
    (form : Utf8.encode text = .ok message) (fails : Ed25519.verify key octets message = false) :
    ¬ Verifies key signature text := by
  rintro ⟨octets', message', hspells, hform, hverify⟩
  obtain rfl := spells.unique hspells
  obtain rfl : message = message' := Except.ok.inj (form.symm.trans hform)
  rw [fails] at hverify
  cases hverify

theorem check_eq_ok_iff_verifies (hsize : key.length = keySize) :
    check key signature text = .ok () ↔ Verifies key signature text := by
  rw [check_eq_ok_iff]
  simp only [Base64.decode?_eq_some_iff]
  constructor
  · rintro ⟨_, _, hverifies⟩
    exact hverifies
  · rintro ⟨octets, message, hspells, hverifies⟩
    exact ⟨hsize, hspells.isAscii, octets, message, hspells, hverifies⟩

theorem check_eq_notAscii_iff (hsize : key.length = keySize) :
    check key signature text = .error .notAscii ↔ signature.isAscii = false := by
  have hchecked := checked_check key signature text
  constructor
  · intro h
    rw [h] at hchecked
    cases hchecked with
    | notAscii _ foreign => exact foreign
  · intro hforeign
    unfold check
    rw [if_neg (not_not_intro hsize), hforeign]
    rfl

theorem check_eq_unencodable_iff (hsize : key.length = keySize) :
    (∃ fault, check key signature text = .error (.unencodable fault)) ↔
      (∃ octets, Base64.Spells signature octets) ∧ text.isScalar = false := by
  have hchecked := checked_check key signature text
  constructor
  · rintro ⟨fault, h⟩
    rw [h] at hchecked
    cases hchecked with
    | unencodable _ spells formless => exact ⟨⟨_, spells⟩, Utf8.isScalar_of_encode_eq_error formless⟩
  · rintro ⟨⟨octets, hspells⟩, hscalar⟩
    cases hform : Utf8.encode text with
    | ok message =>
      rw [(Utf8.encode_eq_ok_iff.mp hform).1] at hscalar
      cases hscalar
    | error fault =>
      refine ⟨fault, ?_⟩
      unfold check
      rw [if_neg (not_not_intro hsize), hspells.isAscii, if_neg (by simp),
        Base64.decode?_eq_some_iff.mpr hspells, hform]

theorem check_eq_wrong_iff :
    (∃ r, check key signature text = .error r ∧ r.answer? = some wrong) ↔ key.length = keySize
      ∧ signature.isAscii = true ∧ ((¬ ∃ octets, Base64.Spells signature octets)
        ∨ (text.isScalar = true ∧ ¬ Verifies key signature text)) := by
  have hchecked := checked_check key signature text
  constructor
  · rintro ⟨r, h, hanswer⟩
    rw [h] at hchecked
    -- only two of the refusals are an answer
    cases hchecked with
    | badKey => cases hanswer
    | notAscii => cases hanswer
    | notBase64 size ascii unspelled => exact ⟨size, ascii, .inl unspelled⟩
    | unencodable => cases hanswer
    | mismatch size spells form fails =>
      exact ⟨size, spells.isAscii, .inr ⟨(Utf8.encode_eq_ok_iff.mp form).1,
        not_verifies spells form fails⟩⟩
  · rintro ⟨hsize, hascii, hwrong⟩
    generalize check key signature text = result at hchecked
    -- every other end of the chain contradicts one of the conditions
    cases hchecked with
    | badKey size => exact absurd hsize size
    | notAscii _ foreign =>
      rw [hascii] at foreign
      cases foreign
    | notBase64 => exact ⟨_, rfl, rfl⟩
    | unencodable _ spells formless =>
      rcases hwrong with hunspelled | ⟨hscalar, _⟩
      · exact absurd ⟨_, spells⟩ hunspelled
      · rw [Utf8.isScalar_of_encode_eq_error formless] at hscalar
        cases hscalar
    | mismatch => exact ⟨_, rfl, rfl⟩
    | accepted _ spells form verifies =>
      rcases hwrong with hunspelled | ⟨_, hnot⟩
      · exact absurd ⟨_, spells⟩ hunspelled
      · exact absurd ⟨_, _, spells, form, verifies⟩ hnot

/-- **What becomes of any signature, of any text, under a key of the right size.** -/
theorem check_outcomes (key : Bytes) (hsize : key.length = keySize) (signature text : Text) :
    Outcomes key signature text (check key signature text) where
  accepted := check_eq_ok_iff_verifies hsize
  invalid := check_eq_wrong_iff.trans (and_iff_right hsize)
  foreign := check_eq_notAscii_iff hsize
  formless := check_eq_unencodable_iff hsize
  exhausted := by
    intro r h
    have hchecked := checked_check key signature text
    rw [h] at hchecked
    cases hchecked with
    | badKey size => exact absurd hsize size
    | notAscii => exact .inr (.inl rfl)
    | notBase64 => exact .inl rfl
    | unencodable => exact .inr (.inr ⟨_, rfl⟩)
    | mismatch => exact .inl rfl

end Outcomes

/-- A key of the right size. -/
def zeroKey : Bytes := List.replicate keySize 0

/-- The octets of one quad are no signature, two thirds of a quad are not even base64, and a letter
with an accent is not looked at. -/
theorem check_outcomes_zeroKey :
    zeroKey.length = keySize
      ∧ (∃ r, check zeroKey "c2ln" "text" = .error r ∧ r.answer? = some wrong)
      ∧ (∃ r, check zeroKey "c2l" "text" = .error r ∧ r.answer? = some wrong)
      ∧ check zeroKey "é" "text" = .error .notAscii
      ∧ ∃ fault, check zeroKey "c2ln" [0xD800] = .error (.unencodable fault) := by
  have hsize : zeroKey.length = keySize := List.length_replicate
  have hquad : Base64.Spells "c2ln" [0x73, 0x69, 0x67] := Base64.decode?_eq_some_iff.mp (by decide)
  have hunspelled : ¬ ∃ octets, Base64.Spells "c2l" octets := Base64.decode?_eq_none_iff.mp (by decide)
  have hfails : ¬ Verifies zeroKey "c2ln" "text" := not_verifies hquad rfl (by decide)
  exact ⟨hsize, (check_outcomes zeroKey hsize _ _).invalid.mpr ⟨by decide, .inr ⟨by decide, hfails⟩⟩,
    (check_outcomes zeroKey hsize _ _).invalid.mpr ⟨by decide, .inl hunspelled⟩,
    (check_outcomes zeroKey hsize _ _).foreign.mpr (by decide),
    (check_outcomes zeroKey hsize _ _).formless.mpr ⟨⟨_, hquad⟩, by decide⟩⟩

/-- **Some signatures are neither accepted nor called wrong**: one beyond ASCII, and one of a text
without a form. -/
theorem check_escapes :
    (∃ r, check zeroKey "é" "text" = .error r ∧ r.answer? = none)
      ∧ ∃ r, check zeroKey "c2ln" [0xD800] = .error r ∧ r.answer? = none := by
  exact ⟨⟨.notAscii, by decide, rfl⟩, ⟨.unencodable ⟨0xD800, 0, 1⟩, by decide, rfl⟩⟩

end SealedDrop.Signature
