/-
  SealedDrop.Proofs.Envelope
  ──────────────────────────
  **WHAT OPENS IS WHAT CAN BE SEALED.**

  `Envelope.unwrap` goes through four layers: `Base64.decode?`, the layout of
  salt, nonce and body, the tag and the key stream of `Gcm.decrypt?`, and
  UTF-8.  Each layer has a converse, and the chain of converses is the theorem:
  an envelope opens to a text iff its octets are the ones that `Envelope.wrap`
  makes of that text and password with the salt and the nonce found at their
  start.  Everything else is refused with one and the same error.

  Main results:
    • `Gcm.decrypt?_eq_some_iff` — octets decrypt to a text iff they encrypt it,
    • `deriveKey_eq_ok_iff` — when there is a key,
    • `unwrapRaw_eq_ok_iff` — raw envelopes that open,
    • `opens_iff_sealed` — all envelopes, and nothing but them.
-/
import SealedDrop.Envelope
import SealedDrop.Proofs.Codec.Base64
import SealedDrop.Proofs.Result
import SealedDrop.Proofs.Text.Utf8

namespace SealedDrop

/-! ## §1. The body -/

/-- **Octets decrypt to a text iff they are the text encrypted.** -/
theorem Gcm.decrypt?_eq_some_iff {key nonce body text : Bytes} :
    decrypt? key nonce body = some text ↔ body = encrypt key nonce text := by
  constructor
  · intro h
    unfold decrypt? at h
    dsimp only at h
    split at h
    next hcut =>
      injection h with h
      -- the stream undoes itself, so what was opened seals to what stood before the tag
      have hbody : applyStream (Aes.expand key) nonce text
          = body.take (body.length - tagSize) := by
        rw [← h, applyStream_applyStream]
      unfold encrypt
      dsimp only
      rw [hbody, ← hcut.2, List.take_append_drop]
    next => cases h
  · rintro rfl
    exact decrypt?_encrypt key nonce text

/-- Encryption keeps the length and adds the tag. -/
theorem Gcm.length_encrypt (key nonce text : Bytes) :
    (encrypt key nonce text).length = text.length + tagSize := by
  unfold encrypt
  dsimp only
  rw [List.length_append, length_applyStream, length_tag]

namespace Envelope

/-! ## §2. The key -/

/-- A text without surrogates is the octets of its encoding. -/
theorem octetsOf_eq_ok_iff {t : Text} {octets : Bytes} :
    octetsOf t = .ok octets ↔ Utf8.encode t = .ok octets :=
  Result.mapError_eq_ok_iff

/-- **There is a key iff the rounds can be counted and the password has a form.** -/
theorem deriveKey_eq_ok_iff {n : Int} {password : Text} {salt key : Bytes} :
    deriveKey n password salt = .ok key ↔
      (1 ≤ n ∧ n < 0x10000000000000000) ∧ ∃ p, Utf8.encode password = .ok p
        ∧ key = Sha256.stretch p salt n.toNat := by
  unfold deriveKey
  split
  next hneg =>
    constructor
    · intro h
      cases h
    · rintro ⟨⟨hpos, _⟩, _⟩
      omega
  next hneg =>
    split
    next hmany =>
      constructor
      · intro h
        cases h
      · rintro ⟨⟨_, hfew⟩, _⟩
        omega
    next hmany =>
      split
      next hnone =>
        constructor
        · intro h
          cases h
        · rintro ⟨⟨hpos, _⟩, _⟩
          omega
      next hsome =>
        -- from here on only the password can be at fault
        have hn : 1 ≤ n ∧ n < 0x10000000000000000 := by omega
        simp only [Result.map_eq_ok_iff, octetsOf_eq_ok_iff, hn, and_self, true_and]
        simp only [eq_comm]

/-! ## §3. Raw envelopes -/

/-- The salt of a raw envelope. -/
def saltOf (raw : Bytes) : Bytes := raw.take saltSize

/-- The nonce of a raw envelope. -/
def nonceOf (raw : Bytes) : Bytes := (raw.drop saltSize).take nonceSize

/-- The body of a raw envelope. -/
def bodyOf (raw : Bytes) : Bytes := raw.drop (saltSize + nonceSize)

/-- The parts of a raw envelope in order. -/
theorem parts_append (raw : Bytes) : saltOf raw ++ nonceOf raw ++ bodyOf raw = raw := by
  unfold saltOf nonceOf bodyOf
  rw [← List.drop_drop, List.append_assoc, List.take_append_drop, List.take_append_drop]

/-- The salt of an envelope that is long enough has its size. -/
theorem length_saltOf {raw : Bytes} (h : saltSize + nonceSize ≤ raw.length) :
    (saltOf raw).length = saltSize := by
  unfold saltOf
  rw [List.length_take]
  omega

/-- So has its nonce. -/
theorem length_nonceOf {raw : Bytes} (h : saltSize + nonceSize ≤ raw.length) :
    (nonceOf raw).length = nonceSize := by
  unfold nonceOf
  rw [List.length_take, List.length_drop]
  omega

section Parts

variable {salt nonce body : Bytes}

/-- The salt comes first. -/
theorem saltOf_append (hs : salt.length = saltSize) : saltOf (salt ++ nonce ++ body) = salt := by
  unfold saltOf
  rw [List.append_assoc, ← hs, List.take_left']
  rfl

/-- The nonce follows. -/
theorem nonceOf_append (hs : salt.length = saltSize) (hn : nonce.length = nonceSize) :
    nonceOf (salt ++ nonce ++ body) = nonce := by
  unfold nonceOf
  rw [List.append_assoc, ← hs, List.drop_left' rfl, ← hn, List.take_left' rfl]

/-- The rest is the ciphertext with its tag. -/
theorem bodyOf_append (hs : salt.length = saltSize) (hn : nonce.length = nonceSize) :
    bodyOf (salt ++ nonce ++ body) = body := by
  unfold bodyOf
  rw [← hs, ← hn, List.drop_left']
  exact List.length_append

end Parts

/-- A raw envelope is what sealing a text makes of the salt and the nonce at its start. -/
def Seals (n : Int) (password : Text) (raw : Bytes) (p : Text) : Prop :=
  minimalSize ≤ raw.length ∧ ∃ key text, deriveKey n password (saltOf raw) = .ok key
    ∧ Utf8.encode p = .ok text
    ∧ raw = saltOf raw ++ nonceOf raw ++ Gcm.encrypt key (nonceOf raw) text

/-- **A raw envelope opens to a text iff it seals that text.** -/
theorem unwrapRaw_eq_ok_iff {n : Int} {raw : Bytes} {password p : Text} :
    unwrapRaw n raw password = .ok p ↔ Seals n password raw p := by
  constructor
  · intro h
    unfold unwrapRaw at h
    split at h
    next => cases h
    next hlong =>
      dsimp only at h
      split at h
      next => cases h
      next key hkey =>
        split at h
        next => cases h
        next text hopen =>
          split at h
          next => cases h
          next t hdecode =>
            injection h with h
            subst h
            refine ⟨Nat.le_of_not_lt hlong, key, text, hkey,
              Utf8.decode_eq_ok_iff_encode.mp hdecode, ?_⟩
            have hbody : bodyOf raw = Gcm.encrypt key (nonceOf raw) text :=
              Gcm.decrypt?_eq_some_iff.mp hopen
            rw [← hbody]
            exact (parts_append raw).symm
  · rintro ⟨hlong, key, text, hkey, hencode, hraw⟩
    -- salt and nonce stand on both sides, so the bodies agree
    have hbody : bodyOf raw = Gcm.encrypt key (nonceOf raw) text :=
      List.append_cancel_left ((parts_append raw).trans hraw)
    have hopen : Gcm.decrypt? key (nonceOf raw) (bodyOf raw) = some text :=
      Gcm.decrypt?_eq_some_iff.mpr hbody
    unfold saltOf at hkey
    unfold nonceOf bodyOf at hopen
    unfold unwrapRaw
    rw [if_neg (Nat.not_lt.mpr hlong)]
    dsimp only
    rw [hkey]
    dsimp only
    rw [hopen]
    dsimp only
    rw [Utf8.decode_eq_ok_iff_encode.mpr hencode]

/-- A raw envelope seals at most one text, and a text has one raw envelope under a salt and a
nonce. -/
theorem Seals.raw_eq {n : Int} {password p : Text} {raw raw' : Bytes} (h : Seals n password raw p)
    (h' : Seals n password raw' p) (hsalt : saltOf raw = saltOf raw')
    (hnonce : nonceOf raw = nonceOf raw') : raw = raw' := by
  obtain ⟨_, key, text, hkey, htext, hraw⟩ := h
  obtain ⟨_, key', text', hkey', htext', hraw'⟩ := h'
  rw [← hsalt, hkey] at hkey'
  injection hkey' with hkey'
  rw [htext] at htext'
  injection htext' with htext'
  rw [hraw, hraw', ← hsalt, ← hnonce, hkey', htext']

/-! ## §4. Envelopes -/

/-- What the one who opens an envelope gets. -/
def opened (n : Int) (envelope password : Text) : Except Error Text :=
  (unwrap n envelope password).mapError Refusal.error

/-- **An envelope opens exactly when it seals that text under that password.** -/
theorem opened_eq_ok_iff {n : Int} {envelope password p : Text} :
    opened n envelope password = .ok p ↔
      ∃ raw, Base64.decode? envelope = some raw ∧ Seals n password raw p := by
  unfold opened unwrap
  cases Base64.decode? envelope with
  | none =>
    show (Except.error _ : Except Error Text) = .ok p ↔ _
    simp
  | some raw => simp [unwrapRaw_eq_ok_iff]

/-- **As long as there is a key, every refusal is the same error.** -/
theorem opened_of_not_ok {n : Int} {envelope password : Text}
    (hkey : ∀ salt, ∃ key, deriveKey n password salt = .ok key)
    (h : ∀ p, opened n envelope password ≠ .ok p) :
    opened n envelope password = .error .undecryptable := by
  unfold opened unwrap at h ⊢
  cases hd : Base64.decode? envelope with
  | none => rfl
  | some raw =>
    rw [hd] at h
    dsimp only at h ⊢
    -- with a key at hand, whatever fails later is not authentic
    obtain ⟨key, hkey⟩ := hkey (saltOf raw)
    unfold unwrapRaw at h ⊢
    split
    next => rfl
    next hlong =>
      rw [if_neg hlong] at h
      dsimp only at h ⊢
      rw [show raw.take saltSize = saltOf raw from rfl, hkey] at h ⊢
      dsimp only at h ⊢
      cases hg : Gcm.decrypt? key ((raw.drop saltSize).take nonceSize)
          (raw.drop (saltSize + nonceSize)) with
      | none => rfl
      | some text =>
        rw [hg] at h
        dsimp only at h ⊢
        cases hu : Utf8.decode text with
        | error e => rfl
        | ok t =>
          rw [hu] at h
          exact absurd rfl (h t)

/-- **What was sealed opens.** -/
theorem seals_of_wrap {n : Int} {salt nonce : Bytes} {plaintext password envelope : Text}
    (hs : salt.length = saltSize) (hn : nonce.length = nonceSize)
    (h : wrap n salt nonce plaintext password = .ok envelope) :
    ∃ raw, envelope = Base64.encode raw ∧ Seals n password raw plaintext
      ∧ saltOf raw = salt ∧ nonceOf raw = nonce := by
  unfold wrap at h
  cases hkey : deriveKey n password salt with
  | error e =>
    rw [hkey] at h
    cases h
  | ok key =>
    cases htext : octetsOf plaintext with
    | error e =>
      rw [hkey, htext] at h
      cases h
    | ok text =>
      rw [hkey, htext] at h
      injection h with h
      -- the three parts are cut off again by their sizes
      have hsalt : saltOf (salt ++ nonce ++ Gcm.encrypt key nonce text) = salt := saltOf_append hs
      have hnonce : nonceOf (salt ++ nonce ++ Gcm.encrypt key nonce text) = nonce :=
        nonceOf_append hs hn
      refine ⟨salt ++ nonce ++ Gcm.encrypt key nonce text, h.symm, ?_, hsalt, hnonce⟩
      · refine ⟨?_, key, text, ?_, octetsOf_eq_ok_iff.mp htext, ?_⟩
        · rw [List.length_append, List.length_append, hs, hn, Gcm.length_encrypt]
          unfold minimalSize
          omega
        · rw [hsalt]
          exact hkey
        · rw [hsalt, hnonce]

/-- Sealing succeeds whenever there is a key and the text has a form. -/
theorem exists_wrap {n : Int} {salt : Bytes} (nonce : Bytes) {plaintext password : Text}
    (hkey : ∃ key, deriveKey n password salt = .ok key) (hp : plaintext.isScalar = true) :
    ∃ envelope, wrap n salt nonce plaintext password = .ok envelope := by
  obtain ⟨key, hkey⟩ := hkey
  have htext : octetsOf plaintext = .ok (plaintext.flatMap Utf8.encodePoint) :=
    octetsOf_eq_ok_iff.mpr (Utf8.encode_of_isScalar hp)
  refine ⟨Base64.encode (salt ++ nonce
    ++ Gcm.encrypt key nonce (plaintext.flatMap Utf8.encodePoint)), ?_⟩
  unfold wrap
  rw [hkey, htext]
  rfl

/-- A password without surrogates gives a key, under a number of rounds that can be counted. -/
theorem exists_deriveKey {n : Int} {password : Text} (hn : 1 ≤ n)
    (hn' : n < 0x10000000000000000) (hp : password.isScalar = true) (salt : Bytes) :
    ∃ key, deriveKey n password salt = .ok key :=
  ⟨_, deriveKey_eq_ok_iff.mpr ⟨⟨hn, hn'⟩, _, Utf8.encode_of_isScalar hp, rfl⟩⟩

/-- **What is sealed under fresh salt and nonce opens**, and it is a text that can be sent. -/
theorem exists_wrapFresh {n : Int} {plaintext password : Text} (hn : 1 ≤ n)
    (hn' : n < 0x10000000000000000) (hplaintext : plaintext.isScalar = true)
    (hpassword : password.isScalar = true) (e : Entropy) :
    ∃ envelope, (wrapFresh n plaintext password e).1 = .ok envelope
      ∧ envelope.isAscii = true ∧ envelope.isEmpty = false
      ∧ unwrap n envelope password = .ok plaintext := by
  obtain ⟨envelope, hwrap⟩ := exists_wrap ((e.draw saltSize).2.draw nonceSize).1
    (exists_deriveKey hn hn' hpassword (e.draw saltSize).1) hplaintext
  obtain ⟨raw, rfl, hseals, _⟩ := seals_of_wrap (e.length_draw saltSize)
    ((e.draw saltSize).2.length_draw nonceSize) hwrap
  have hlong := hseals.1
  refine ⟨_, hwrap, Base64.isAscii_encode raw, Base64.isEmpty_encode ?_, ?_⟩
  -- an envelope without octets would be too short
  · rintro rfl
    exact absurd hlong (by decide)
  · unfold unwrap
    rw [Base64.decode?_encode]
    exact unwrapRaw_eq_ok_iff.mpr hseals

/-- The most rounds that count: the stretching of a password takes their number as a signed one of
32 bits, so that beyond it `deriveKey` no longer says what comes out. -/
def maxRounds : Int := 0x7FFFFFFF

/-- The most octets that the cipher takes at once; of a longer text `wrap` says nothing. -/
def maxTextSize : Nat := 0x7FFFFFFF

/-- **Exactly the envelopes that can be sealed open.**  Under a password that has a form and rounds
that count, an envelope opens to a text iff its octets seal that text; every other one is refused
with the same error.  So whatever is sealed opens, as long as the cipher takes it, and no two raw
envelopes with the same salt and nonce open to the same text. -/
theorem opens_iff_sealed (n : Int) (password : Text) (hn : 1 ≤ n) (hn' : n ≤ maxRounds)
    (hpassword : password.isScalar = true) :
    (∀ envelope p, opened n envelope password = .ok p ↔
        ∃ raw, Base64.decode? envelope = some raw ∧ minimalSize ≤ raw.length
          ∧ ∃ key text, deriveKey n password (saltOf raw) = .ok key ∧ Utf8.encode p = .ok text
            ∧ raw = saltOf raw ++ nonceOf raw ++ Gcm.encrypt key (nonceOf raw) text)
    ∧ (∀ envelope, (∀ p, opened n envelope password ≠ .ok p) →
        opened n envelope password = .error .undecryptable)
    ∧ (∀ salt nonce plaintext, salt.length = saltSize → nonce.length = nonceSize →
        plaintext.isScalar = true → (plaintext.flatMap Utf8.encodePoint).length ≤ maxTextSize →
        ∃ envelope, wrap n salt nonce plaintext password = .ok envelope
          ∧ opened n envelope password = .ok plaintext)
    ∧ ∀ envelope envelope' p raw raw', opened n envelope password = .ok p →
        opened n envelope' password = .ok p → Base64.decode? envelope = some raw →
        Base64.decode? envelope' = some raw' → saltOf raw = saltOf raw' →
        nonceOf raw = nonceOf raw' → raw = raw' := by
  have hfew : n < 0x10000000000000000 := by
    unfold maxRounds at hn'
    omega
  have hkey := exists_deriveKey hn hfew hpassword
  refine ⟨?_, ?_, ?_, ?_⟩
  · intro envelope p
    exact opened_eq_ok_iff
  · intro envelope h
    exact opened_of_not_ok hkey h
  · intro salt nonce plaintext hs hnonce hp _
    obtain ⟨envelope, hwrap⟩ := exists_wrap nonce (hkey salt) hp
    obtain ⟨raw, hraw, hseals, _⟩ := seals_of_wrap hs hnonce hwrap
    exact ⟨envelope, hwrap,
      opened_eq_ok_iff.mpr ⟨raw, hraw ▸ Base64.decode?_encode raw, hseals⟩⟩
  · intro envelope envelope' p raw raw' h h' hraw hraw' hsalt hnonce
    -- the octets behind an envelope are unique, so both seal the same text
    obtain ⟨_, hd, hseals⟩ := opened_eq_ok_iff.mp h
    obtain ⟨_, hd', hseals'⟩ := opened_eq_ok_iff.mp h'
    rw [hraw] at hd
    rw [hraw'] at hd'
    injection hd with hd
    injection hd' with hd'
    subst hd hd'
    exact hseals.raw_eq hseals' hsalt hnonce

/-- A text sealed in one round opens. -/
theorem opens_iff_sealed_one_round :
    ∃ envelope, wrap 1 (List.replicate 16 0) (List.replicate 12 0) "hello" "pw" = .ok envelope
      ∧ opened 1 envelope "pw" = .ok "hello" :=
  (opens_iff_sealed 1 "pw" (by decide) (by decide) (by decide)).2.2.1 _ _ _ (by decide) (by decide)
    (by decide) (by decide)

/-- Rounds beyond what a machine counts are a fault of their own: an envelope that is long enough
is then neither opened nor refused like the others. -/
theorem refused_otherwise_beyond_rounds :
    ¬ ∀ (n : Int) (envelope password : Text), 1 ≤ n → password.isScalar = true →
      (∃ p, opened n envelope password = .ok p)
        ∨ opened n envelope password = .error .undecryptable := by
  intro h
  rcases h 0x10000000000000000 (Base64.encode (List.replicate 44 0)) "pw" (by decide) (by decide)
    with ⟨p, hp⟩ | he
  · obtain ⟨raw, _, _, key, text, hkey, _⟩ := opened_eq_ok_iff.mp hp
    exact absurd (deriveKey_eq_ok_iff.mp hkey).1.2 (by decide)
  · have : opened 0x10000000000000000 (Base64.encode (List.replicate 44 0)) "pw"
        = .error (.noKey .tooManyRounds) := rfl
    rw [this] at he
    cases he

end Envelope

end SealedDrop
