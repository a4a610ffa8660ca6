/-
  SealedDrop.Proofs.Store.Tamper
  ──────────────────────────────
  **A DRILL IS NOTICED, AND A SECOND ONE UNDOES IT.**

  The tag of an envelope is a function of everything before it: key, nonce and
  sealed text.  So what stands before it has one tag and no other, and
  `Envelope.unwrap` refuses an envelope with another tag, whatever the cipher is
  worth.

      raw = frontOf raw ‖ tagOf raw,   withTag raw tag = frontOf raw ‖ tag

  `Store.tamper` flips a bit of the last octet of a stored envelope, which is one
  of its tag (`tamperText`).  The text in the table is the canonical base64 of
  the octets before and after, so flipping the bit back restores the text itself.

  Main results:
    • `Gcm.decrypt?_append_of_ne` — a sealed text decrypts under one tag only,
    • `Seals.unwrapRaw_withTag` — an envelope with another tag is not authentic,
    • `exists_flipped` — a drill changes the tag, and a second one changes it back,
    • `tamper_of_held` — what a drill leaves of a table,
    • `tampering_is_noticed_and_undone` — all of it for what was sealed.
-/
import SealedDrop.Proofs.Envelope
import SealedDrop.Proofs.Store.Finality
import SealedDrop.Store.Tamper

namespace SealedDrop

/-! ## §1. One tag -/

theorem Gcm.cut_append {front tag : Bytes} (h : tag.length = tagSize) :
    (front ++ tag).length - tagSize = front.length := by
  rw [List.length_append, h, Nat.add_sub_cancel]

/-- **A sealed text decrypts under its own tag only.** -/
theorem Gcm.decrypt?_append_of_ne {key nonce sealedText other : Bytes}
    (hlength : other.length = tagSize)
    (hne : other ≠ tag (Aes.expand key) nonce sealedText) :
    decrypt? key nonce (sealedText ++ other) = none := by
  unfold decrypt?
  dsimp only
  rw [cut_append hlength, List.take_left' rfl, List.drop_left' rfl, if_neg]
  rintro ⟨_, htag⟩
  exact hne htag

namespace Envelope

/-- What stands before the tag of a raw envelope. -/
def frontOf (raw : Bytes) : Bytes := raw.take (raw.length - Gcm.tagSize)

/-- The tag of a raw envelope. -/
def tagOf (raw : Bytes) : Bytes := raw.drop (raw.length - Gcm.tagSize)

/-- A raw envelope with another tag. -/
def withTag (raw tag : Bytes) : Bytes := frontOf raw ++ tag

/-- Putting the tag of an envelope back gives the envelope. -/
theorem withTag_tagOf (raw : Bytes) : withTag raw (tagOf raw) = raw := List.take_append_drop _ raw

/-- The tag of an envelope that is long enough has the size of a tag. -/
theorem length_tagOf {raw : Bytes} (h : Gcm.tagSize ≤ raw.length) :
    (tagOf raw).length = Gcm.tagSize := by
  unfold tagOf
  rw [List.length_drop]
  omega

section Append

variable {front tag : Bytes} (h : tag.length = Gcm.tagSize)
include h

theorem frontOf_append : frontOf (front ++ tag) = front := by
  unfold frontOf
  rw [Gcm.cut_append h, List.take_left' rfl]

theorem tagOf_append : tagOf (front ++ tag) = tag := by
  unfold tagOf
  rw [Gcm.cut_append h, List.drop_left' rfl]

end Append

/-- What does not decrypt is not authentic. -/
theorem unwrapRaw_of_decrypt?_eq_none {n : Int} {raw key : Bytes} {password : Text}
    (hlong : minimalSize ≤ raw.length) (hkey : deriveKey n password (saltOf raw) = .ok key)
    (hnone : Gcm.decrypt? key (nonceOf raw) (bodyOf raw) = none) :
    unwrapRaw n raw password = .error .notAuthentic := by
  unfold saltOf at hkey
  unfold nonceOf bodyOf at hnone
  unfold unwrapRaw
  rw [if_neg (Nat.not_lt.mpr hlong)]
  dsimp only
  rw [hkey]
  dsimp only
  rw [hnone]

/-- What was sealed, part by part: the tag is the one of the sealed text. -/
theorem Seals.layout {n : Int} {password p : Text} {raw : Bytes} (h : Seals n password raw p) :
    ∃ salt nonce key sealedText, salt.length = saltSize ∧ nonce.length = nonceSize
      ∧ deriveKey n password salt = .ok key
      ∧ raw = salt ++ nonce ++ (sealedText ++ Gcm.tag (Aes.expand key) nonce sealedText) := by
  obtain ⟨hlong, key, text, hkey, _, hraw⟩ := h
  have hsizes : saltSize + nonceSize ≤ raw.length := (Nat.le_add_right _ _).trans hlong
  exact ⟨saltOf raw, nonceOf raw, key, Gcm.applyStream (Aes.expand key) (nonceOf raw) text,
    length_saltOf hsizes, length_nonceOf hsizes, hkey, hraw⟩

/-- **What was sealed is not authentic under another tag.** -/
theorem Seals.unwrapRaw_withTag {n : Int} {password p : Text} {raw other : Bytes}
    (h : Seals n password raw p) (hlength : other.length = Gcm.tagSize) (hne : other ≠ tagOf raw) :
    unwrapRaw n (withTag raw other) password = .error .notAuthentic := by
  obtain ⟨salt, nonce, key, sealedText, hsalt, hnonce, hkey, hraw⟩ := h.layout
  have htag : (Gcm.tag (Aes.expand key) nonce sealedText).length = Gcm.tagSize :=
    Gcm.length_tag _ _ _
  rw [← List.append_assoc] at hraw
  have hne : other ≠ Gcm.tag (Aes.expand key) nonce sealedText := by
    rw [hraw, tagOf_append htag] at hne
    exact hne
  have hforged : withTag raw other = salt ++ nonce ++ (sealedText ++ other) := by
    rw [hraw, withTag, frontOf_append htag, List.append_assoc]
  -- salt and nonce are where they were, so key and sealed text are too
  rw [hforged]
  apply unwrapRaw_of_decrypt?_eq_none
  case hlong =>
    unfold minimalSize
    simp only [List.length_append]
    omega
  case hkey =>
    rw [saltOf_append hsalt]
    exact hkey
  case hnone =>
    rw [nonceOf_append hsalt hnonce, bodyOf_append hsalt hnonce]
    exact Gcm.decrypt?_append_of_ne hlength hne

/-- **An envelope with another tag does not open**: the tag is a function of the rest, the salt, the
nonce and the password. -/
theorem Seals.opened_withTag {n : Int} {password p : Text} {raw other : Bytes}
    (h : Seals n password raw p) (hlength : other.length = Gcm.tagSize) (hne : other ≠ tagOf raw) :
    opened n (Base64.encode (withTag raw other)) password = .error .undecryptable := by
  unfold opened unwrap
  rw [Base64.decode?_encode]
  dsimp only
  rw [h.unwrapRaw_withTag hlength hne]
  rfl

end Envelope

namespace Store

open Envelope

/-! ## §2. One bit of the tag -/

/-- Flipping the last bit of an octet twice changes nothing. -/
theorem flip_flip (x : UInt8) : x ^^^ 1 ^^^ 1 = x := by
  rw [UInt8.xor_assoc, UInt8.xor_self, UInt8.xor_zero]

/-- Flipping it once changes the octet. -/
theorem flip_ne (x : UInt8) : x ^^^ 1 ≠ x := by
  intro h
  have hone : x ^^^ (x ^^^ 1) = x ^^^ x := congrArg (x ^^^ ·) h
  rw [← UInt8.xor_assoc, UInt8.xor_self, UInt8.zero_xor] at hone
  exact absurd hone (by decide)

/-- The drill flips the last bit of the last octet. -/
theorem flipLast_concat (b : Bytes) (x : UInt8) : flipLast (b ++ [x]) = some (b ++ [x ^^^ 1]) := by
  unfold flipLast
  rw [List.reverse_concat]
  dsimp only
  rw [List.reverse_cons, List.reverse_reverse]

/-- It decodes the envelope, flips that bit and encodes the rest again. -/
theorem tamperText_encode_concat (b : Bytes) (x : UInt8) :
    tamperText (Base64.encode (b ++ [x])) = .ok (Base64.encode (b ++ [x ^^^ 1])) := by
  unfold tamperText
  rw [Base64.decodeLenient_encode]
  dsimp only
  rw [flipLast_concat]

/-- **A drill changes the tag of an envelope and nothing else, and a second one changes it
back.** -/
theorem exists_flipped {raw : Bytes} (hlong : Gcm.tagSize ≤ raw.length) :
    ∃ tag, tag.length = Gcm.tagSize ∧ tag ≠ tagOf raw
      ∧ tamperText (Base64.encode raw) = .ok (Base64.encode (withTag raw tag))
      ∧ tamperText (Base64.encode (withTag raw tag)) = .ok (Base64.encode raw) := by
  have hlength := length_tagOf hlong
  have hne : tagOf raw ≠ [] := by
    intro hnil
    rw [hnil] at hlength
    exact absurd hlength (by decide)
  -- the last octet of the envelope is the last one of its tag
  obtain ⟨init, x, htag⟩ : ∃ init x, tagOf raw = init ++ [x] :=
    ⟨_, _, (List.dropLast_append_getLast hne).symm⟩
  have hraw : raw = (frontOf raw ++ init) ++ [x] := by
    rw [List.append_assoc, ← htag]
    exact (withTag_tagOf raw).symm
  have hflipped : withTag raw (init ++ [x ^^^ 1]) = (frontOf raw ++ init) ++ [x ^^^ 1] :=
    (List.append_assoc _ _ _).symm
  refine ⟨init ++ [x ^^^ 1], ?_, ?_, ?_, ?_⟩
  · rw [htag, List.length_append] at hlength
    rw [List.length_append]
    exact hlength
  · intro h
    rw [htag] at h
    have hlast := List.append_cancel_left h
    injection hlast with hlast
    exact flip_ne x hlast
  · have h := tamperText_encode_concat (frontOf raw ++ init) x
    rw [← hraw, ← hflipped] at h
    exact h
  · have h := tamperText_encode_concat (frontOf raw ++ init) (x ^^^ 1)
    rw [flip_flip, ← hraw, ← hflipped] at h
    exact h

/-! ## §3. One envelope of a table -/

/-- The table with another envelope of an id. -/
def Table.withData (t : Table) (id d : Text) : Table :=
  t.map fun r => if r.header.id = id then { r with data := some d } else r

/-- A table that differs from another one in the envelope of one id only. -/
structure Altered (t : Table) (id d : Text) (t' : Table) : Prop where
  /-- The same headers in the same order. -/
  headers : t'.map Row.header = t.map Row.header
  /-- Rows of other ids are the same, and where they were. -/
  others : ∀ (i : Nat) (r : Row), t[i]? = some r → r.header.id ≠ id → t'[i]? = some r
  /-- A row of the id holds this envelope. -/
  stored : ∀ r ∈ t', r.header.id = id → r.data = some d

section Table

variable {t : Table} {r : Row} {id d d' : Text}

/-- `withData` writes one envelope and leaves every other row. -/
theorem Table.altered_withData (t : Table) (id d : Text) : Altered t id d (t.withData id d) where
  headers := by
    unfold withData
    rw [List.map_map]
    apply List.map_congr_left
    intro r _
    by_cases hid : r.header.id = id
    · simp [hid]
    · simp [hid]
  others := by
    intro i r hr hid
    unfold withData
    rw [List.getElem?_map, hr, Option.map_some, if_neg hid]
  stored := by
    intro r' hr' hid'
    obtain ⟨r, _, rfl⟩ := List.mem_map.mp hr'
    by_cases hid : r.header.id = id
    · rw [if_pos hid]
    · rw [if_neg hid] at hid'
      exact absurd hid' hid

/-- It keeps ids, so the table stays keyed. -/
theorem Table.Keyed.withData (h : t.Keyed) (id d : Text) : (t.withData id d).Keyed := by
  have hids := congrArg (List.map Header.id) (altered_withData t id d).headers
  rw [List.map_map, List.map_map] at hids
  unfold Keyed at h ⊢
  exact hids ▸ h

theorem Table.mem_withData (hr : r ∈ t) :
    { r with data := some d } ∈ t.withData r.header.id d :=
  List.mem_map.mpr ⟨r, hr, if_pos rfl⟩

/-- Of two envelopes written under one id the last one counts. -/
theorem Table.withData_withData (t : Table) (id d d' : Text) :
    (t.withData id d).withData id d' = t.withData id d' := by
  unfold withData
  rw [List.map_map]
  apply List.map_congr_left
  intro r _
  by_cases hid : r.header.id = id
  · simp [hid]
  · simp [hid]

/-- What a row holds already is put back. -/
theorem Table.withData_self (h : t.Keyed) (hr : r ∈ t) (hd : r.data = some d) :
    t.withData r.header.id d = t := by
  unfold withData
  conv_rhs => rw [← List.map_id t]
  -- ids are a key, so the row is the only one that is touched
  apply List.map_congr_left
  intro x hx
  split
  next hid =>
    obtain rfl := h.eq hx hr hid
    rw [← hd]
    rfl
  next => rfl

/-! ## §4. The drill -/

/-- What a drill says of an id. -/
def tamperNotice (id : Text) : Text := "[✔] Tampered envelope of shared secret '" ++ id ++ "'\n"

/-- **A drill replaces the envelope of its id.** -/
theorem tamper_of_held (h : t.Keyed) (hr : r ∈ t) (hid : r.header.id.isScalar = true)
    (hd : r.data = some d) (hflip : tamperText d = .ok d') :
    tamper t r.header.id = .ok (tamperNotice r.header.id, t.withData r.header.id d') := by
  unfold tamper
  rw [Utf8.firstSurrogates_eq_none_iff.mpr hid]
  dsimp only
  rw [h.find? hr, Option.bind_some, hd]
  dsimp only
  rw [hflip]
  rfl

/-- **A second drill puts everything back.** -/
theorem tamper_withData (h : t.Keyed) (hr : r ∈ t) (hid : r.header.id.isScalar = true)
    (hd : r.data = some d) (hback : tamperText d' = .ok d) :
    tamper (t.withData r.header.id d') r.header.id = .ok (tamperNotice r.header.id, t) := by
  -- the table with the changed envelope is kept as well, and holds it under the id
  have hagain := tamper_of_held (h.withData r.header.id d') (Table.mem_withData hr) hid rfl hback
  rw [Table.withData_withData, Table.withData_self h hr hd] at hagain
  exact hagain

end Table

/-- **A tampered tag always fails, and tampering twice changes nothing.**  Whatever was sealed under
a password opens under it, and with any other tag it is refused like under a wrong password.  So is
what a drill leaves of it in a table, where everything else is as it was; a second drill restores
the table. -/
theorem tampering_is_noticed_and_undone (n : Int) (plaintext password : Text) (salt nonce : Bytes)
    (hn : 1 ≤ n) (hn' : n < 0x10000000000000000) (hplaintext : plaintext.isScalar = true)
    (hpassword : password.isScalar = true) (hsalt : salt.length = saltSize)
    (hnonce : nonce.length = nonceSize) :
    ∃ raw, wrap n salt nonce plaintext password = .ok (Base64.encode raw)
      ∧ opened n (Base64.encode raw) password = .ok plaintext
      ∧ (∀ tag : Bytes, tag.length = Gcm.tagSize → tag ≠ tagOf raw →
          opened n (Base64.encode (withTag raw tag)) password = .error .undecryptable)
      ∧ ∀ (t : Table) (r : Row), t.WellKept → r ∈ t → r.data = some (Base64.encode raw) →
          ∃ d t', tamper t r.header.id = .ok (tamperNotice r.header.id, t')
            ∧ Altered t r.header.id d t' ∧ d ≠ Base64.encode raw
            ∧ opened n d password = .error .undecryptable
            ∧ tamper t' r.header.id = .ok (tamperNotice r.header.id, t) := by
  obtain ⟨envelope, hwrap⟩ := exists_wrap nonce (exists_deriveKey hn hn' hpassword salt) hplaintext
  obtain ⟨raw, rfl, hseals, _⟩ := seals_of_wrap hsalt hnonce hwrap
  refine ⟨raw, hwrap, opened_eq_ok_iff.mpr ⟨raw, Base64.decode?_encode raw, hseals⟩, ?_, ?_⟩
  · intro tag hlength hne
    exact hseals.opened_withTag hlength hne
  · intro t r ht hr hd
    have hid : r.header.id.isScalar = true :=
      encodable_eq_ok_iff.mp (ht.legible r hr) _ List.mem_cons_self
    obtain ⟨tag, hlength, hne, hflip, hback⟩ :=
      exists_flipped ((Nat.le_add_left _ _).trans hseals.1)
    refine ⟨_, _, tamper_of_held ht.keyed hr hid hd hflip, Table.altered_withData _ _ _, ?_,
      hseals.opened_withTag hlength hne, tamper_withData ht.keyed hr hid hd hback⟩
    intro hsame
    -- the same text would be of the same octets, with the same tag
    have htag : tagOf (withTag raw tag) = tag := tagOf_append hlength
    rw [Base64.encode_injective hsame] at htag
    exact hne htag.symm

/-- The secret that can be read for a minute, sealed, and another one. -/
def sealedAndOther (raw : Bytes) : Table :=
  [⟨briefHeader, some (Base64.encode raw)⟩,
    ⟨{ briefHeader with id := Text.hex 32 2 }, some "c2VhbGVk"⟩]

/-- The table of the example has one row for each id. -/
theorem wellKept_sealedAndOther (raw : Bytes) : (sealedAndOther raw).WellKept where
  keyed := show [Text.hex 32 1, Text.hex 32 2].Nodup by decide
  legible := by
    intro r hr
    have hmem : r.header.id ∈ (sealedAndOther raw).map fun r => r.header.id :=
      List.mem_map_of_mem hr
    have hall : ∀ id ∈ [Text.hex 32 1, Text.hex 32 2], encodable [id] = .ok () := by decide
    exact hall _ hmem

/-- A drill on one of two secrets. -/
theorem tampering_is_noticed_and_undone_two_rows :
    ∃ raw d t', wrap 1 (List.replicate 16 0) (List.replicate 12 0) "hello" "pw"
        = .ok (Base64.encode raw)
      ∧ tamper (sealedAndOther raw) briefHeader.id = .ok (tamperNotice briefHeader.id, t')
      ∧ t'[1]? = (sealedAndOther raw)[1]?
      ∧ (∀ r ∈ t', r.header.id = briefHeader.id → r.data = some d)
      ∧ opened 1 d "pw" = .error .undecryptable
      ∧ tamper t' briefHeader.id = .ok (tamperNotice briefHeader.id, sealedAndOther raw) := by
  obtain ⟨raw, hwrap, _, _, hdrill⟩ := tampering_is_noticed_and_undone 1 "hello" "pw"
    (List.replicate 16 0) (List.replicate 12 0) (by decide) (by decide) (by decide) (by decide)
    (by decide) (by decide)
  obtain ⟨d, t', hdone, haltered, _, hrefused, hundone⟩ :=
    hdrill (sealedAndOther raw) _ (wellKept_sealedAndOther raw) List.mem_cons_self rfl
  have hother : Text.hex 32 2 ≠ Text.hex 32 1 := by decide
  exact ⟨raw, d, t', hwrap, hdone, haltered.others 1 _ rfl hother, haltered.stored, hrefused,
    hundone⟩

end Store

end SealedDrop
