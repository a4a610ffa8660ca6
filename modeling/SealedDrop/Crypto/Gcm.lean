/-
  SealedDrop.Crypto.Gcm
  ─────────────────────
  **GALOIS/COUNTER MODE WITHOUT ASSOCIATED DATA.**

  Sealing combines the text with a key stream and appends a tag over the
  result; opening recomputes the tag before it looks at the text.  The same
  function `applyStream` does both directions, so opening what was sealed is
  the cancellation of two exclusive ors and needs nothing about the block
  cipher.

  Main statements: `applyStream` undoes itself (`applyStream_applyStream`),
  and `decrypt?` undoes `encrypt` (`decrypt?_encrypt`).
-/
import SealedDrop.Crypto.Aes

namespace SealedDrop.Gcm

/-- The length of a tag. -/
def tagSize : Nat := 16

/-! ## §1. The key stream -/

/-- The counter block of a 12-octet nonce. -/
def counterBlock (nonce : Bytes) (i : Nat) : Bytes :=
  nonce ++ [UInt8.ofNat (i / 0x1000000), UInt8.ofNat (i / 0x10000), UInt8.ofNat (i / 0x100),
    UInt8.ofNat i]

/-- The text combined with the key stream, from block `i` on; `blocks` bounds their number. -/
def streamFrom (keys : List Aes.State) (nonce : Bytes) : Nat → Nat → Bytes → Bytes
  | 0, _, _ => []
  | blocks + 1, i, text =>
    List.zipWith (· ^^^ ·) (text.take 16) (Aes.encrypt keys (counterBlock nonce i))
      ++ streamFrom keys nonce blocks (i + 1) (text.drop 16)

/-- The text combined with the key stream. The first block of the stream is kept for the tag. -/
def applyStream (keys : List Aes.State) (nonce text : Bytes) : Bytes :=
  streamFrom keys nonce ((text.length + 15) / 16) 2 text

/-! ## §2. The tag -/

/-- A 128-bit number from octets, most significant first. -/
def toNumber (b : Bytes) : Nat := b.foldl (fun n x => n * 256 + x.toNat) 0

/-- The sixteen octets of a 128-bit number. -/
def ofNumber (n : Nat) : Bytes := (List.range 16).map fun i => UInt8.ofNat (n >>> (8 * (15 - i)))

/-- The product in the field of the tag. The factor `x` is read from its most significant bit,
`v` is halved with reduction at each step. -/
def multiply (x y : Nat) : Nat :=
  go 128 y 0
where
  go : Nat → Nat → Nat → Nat
    | 0, _, z => z
    | k + 1, v, z =>
      let z := if x.testBit k then z ^^^ v else z
      go k (if v % 2 = 1 then (v >>> 1) ^^^ 0xe1000000000000000000000000000000 else v >>> 1) z

/-- The running hash over a text in blocks of sixteen octets, the last one filled with zeros. -/
def hashFrom (h : Nat) : Nat → Nat → Bytes → Nat
  | 0, y, _ => y
  | blocks + 1, y, text =>
    let b := text.take 16
    let n := toNumber (b ++ List.replicate (16 - b.length) 0)
    hashFrom h blocks (multiply (y ^^^ n) h) (text.drop 16)

/-- The tag of a sealed text. -/
def tag (keys : List Aes.State) (nonce sealedText : Bytes) : Bytes :=
  let h := toNumber (Aes.encrypt keys (List.replicate 16 0))
  let y := hashFrom h ((sealedText.length + 15) / 16) 0 sealedText
  let s := multiply (y ^^^ (sealedText.length * 8)) h
  List.zipWith (· ^^^ ·) (ofNumber s) (Aes.encrypt keys (counterBlock nonce 1))

/-! ## §3. Sealing and opening -/

/-- The combined text followed by its tag. -/
def encrypt (key nonce text : Bytes) : Bytes :=
  let keys := Aes.expand key
  let body := applyStream keys nonce text
  body ++ tag keys nonce body

/-- The text, if the last sixteen octets are the tag of the rest. -/
def decrypt? (key nonce sealedText : Bytes) : Option Bytes :=
  let keys := Aes.expand key
  let cut := sealedText.length - tagSize
  let body := sealedText.take cut
  if tagSize ≤ sealedText.length ∧ sealedText.drop cut = tag keys nonce body then
    some (applyStream keys nonce body)
  else none

/-! ## §4. Laws -/

theorem length_tag (keys : List Aes.State) (nonce body : Bytes) :
    (tag keys nonce body).length = tagSize := by
  simp [tag, ofNumber, Aes.length_encrypt, tagSize]

theorem length_streamFrom (keys : List Aes.State) (nonce : Bytes) (blocks i : Nat) (text : Bytes)
    (h : text.length ≤ 16 * blocks) : (streamFrom keys nonce blocks i text).length = text.length := by
  induction blocks generalizing i text with
  | zero => simp only [streamFrom, List.length_nil]; omega
  | succ blocks ih =>
    rw [streamFrom, List.length_append,
      ih (i + 1) (text.drop 16) (by rw [List.length_drop]; omega)]
    simp only [List.length_zipWith, List.length_take, Aes.length_encrypt, List.length_drop]
    omega

theorem length_applyStream (keys : List Aes.State) (nonce text : Bytes) :
    (applyStream keys nonce text).length = text.length :=
  length_streamFrom keys nonce _ _ text (by omega)

theorem zipWith_xor_cancel (xs ks : Bytes) (h : xs.length ≤ ks.length) :
    List.zipWith (· ^^^ ·) (List.zipWith (· ^^^ ·) xs ks) ks = xs := by
  induction xs generalizing ks with
  | nil => simp
  | cons x xs ih =>
    cases ks with
    | nil => simp at h
    | cons k ks =>
      simp only [List.zipWith_cons_cons, List.cons.injEq]
      exact ⟨by rw [UInt8.xor_assoc, UInt8.xor_self, UInt8.xor_zero],
        ih ks (by simpa using h)⟩

theorem streamFrom_streamFrom (keys : List Aes.State) (nonce : Bytes) (blocks i : Nat)
    (text : Bytes) (h : text.length ≤ 16 * blocks) :
    streamFrom keys nonce blocks i (streamFrom keys nonce blocks i text) = text := by
  induction blocks generalizing i text with
  | zero =>
    have hnil : text = [] := List.eq_nil_of_length_eq_zero (by omega)
    rw [hnil]
    rfl
  | succ blocks ih =>
    have hk := Aes.length_encrypt keys (counterBlock nonce i)
    have hz : (List.zipWith (· ^^^ ·) (text.take 16)
        (Aes.encrypt keys (counterBlock nonce i))).length = (text.take 16).length := by
      simp only [List.length_zipWith, List.length_take, hk]
      omega
    have hrest : (text.drop 16).length ≤ 16 * blocks := by rw [List.length_drop]; omega
    rw [streamFrom, streamFrom]
    by_cases hl : 16 ≤ text.length
    · have h16 : (text.take 16).length = 16 := by rw [List.length_take]; omega
      rw [List.take_append_of_le_length (by omega), List.take_of_length_le (by omega),
        zipWith_xor_cancel _ _ (by omega), List.drop_append_of_le_length (by omega),
        List.drop_of_length_le (by omega), List.nil_append, ih _ _ hrest,
        List.take_append_drop]
    · have hnil : text.drop 16 = [] := List.drop_of_length_le (by omega)
      have hend : streamFrom keys nonce blocks (i + 1) (text.drop 16) = [] := by
        apply List.eq_nil_of_length_eq_zero
        rw [length_streamFrom _ _ _ _ _ hrest, hnil]
        rfl
      have ht : text.take 16 = text := List.take_of_length_le (by omega)
      rw [ht] at hz ⊢
      rw [hend, List.append_nil, List.take_of_length_le (by omega),
        zipWith_xor_cancel _ _ (by omega), List.drop_of_length_le (by omega)]
      have : streamFrom keys nonce blocks (i + 1) [] = [] := by rw [← hnil, hend, hnil]
      rw [this, List.append_nil]

theorem applyStream_applyStream (keys : List Aes.State) (nonce text : Bytes) :
    applyStream keys nonce (applyStream keys nonce text) = text := by
  unfold applyStream
  rw [length_streamFrom _ _ _ _ _ (by omega)]
  exact streamFrom_streamFrom _ _ _ _ _ (by omega)

theorem decrypt?_encrypt (key nonce text : Bytes) : decrypt? key nonce (encrypt key nonce text) = some text := by
  have hlen := length_tag (Aes.expand key) nonce (applyStream (Aes.expand key) nonce text)
  simp only [decrypt?, encrypt, List.length_append, hlen, Nat.add_sub_cancel]
  rw [List.take_left', List.drop_left' rfl]
  · simp [applyStream_applyStream]
  · rfl

end SealedDrop.Gcm
