/-
  SealedDrop.Crypto.Sha512
  ────────────────────────
  **SHA-512.**

  The hash behind signatures.  It has the shape of its smaller sibling, with
  64-bit words, eighty rounds and blocks of 128 octets.

  Main statement: a digest has 64 octets (`length_hash`).
-/
import SealedDrop.Crypto.Sha256

namespace SealedDrop.Sha512

/-! ## §1. The compression function -/

/-- The eight words handed from block to block. -/
structure Chaining where
  /-- First word. -/
  a : UInt64
  /-- Second word. -/
  b : UInt64
  /-- Third word. -/
  c : UInt64
  /-- Fourth word. -/
  d : UInt64
  /-- Fifth word. -/
  e : UInt64
  /-- Sixth word. -/
  f : UInt64
  /-- Seventh word. -/
  g : UInt64
  /-- Eighth word. -/
  h : UInt64
  deriving DecidableEq, Repr

namespace Chaining

/-- Word-wise sum. -/
def add (x y : Chaining) : Chaining :=
  ⟨x.a + y.a, x.b + y.b, x.c + y.c, x.d + y.d, x.e + y.e, x.f + y.f, x.g + y.g, x.h + y.h⟩

/-- The words in order. -/
def words (x : Chaining) : List UInt64 := [x.a, x.b, x.c, x.d, x.e, x.f, x.g, x.h]

end Chaining

/-- The start of every hash: the fractional parts of the square roots of the first eight primes. -/
def start : Chaining :=
  ⟨0x6a09e667f3bcc908, 0xbb67ae8584caa73b, 0x3c6ef372fe94f82b, 0xa54ff53a5f1d36f1,
   0x510e527fade682d1, 0x9b05688c2b3e6c1f, 0x1f83d9abfb41bd6b, 0x5be0cd19137e2179⟩

/-- The round constants: the fractional parts of the cube roots of the first 80 primes. -/
def roundConstants : List UInt64 :=
  [0x428a2f98d728ae22, 0x7137449123ef65cd, 0xb5c0fbcfec4d3b2f, 0xe9b5dba58189dbbc,
   0x3956c25bf348b538, 0x59f111f1b605d019, 0x923f82a4af194f9b, 0xab1c5ed5da6d8118,
   0xd807aa98a3030242, 0x12835b0145706fbe, 0x243185be4ee4b28c, 0x550c7dc3d5ffb4e2,
   0x72be5d74f27b896f, 0x80deb1fe3b1696b1, 0x9bdc06a725c71235, 0xc19bf174cf692694,
   0xe49b69c19ef14ad2, 0xefbe4786384f25e3, 0x0fc19dc68b8cd5b5, 0x240ca1cc77ac9c65,
   0x2de92c6f592b0275, 0x4a7484aa6ea6e483, 0x5cb0a9dcbd41fbd4, 0x76f988da831153b5,
   0x983e5152ee66dfab, 0xa831c66d2db43210, 0xb00327c898fb213f, 0xbf597fc7beef0ee4,
   0xc6e00bf33da88fc2, 0xd5a79147930aa725, 0x06ca6351e003826f, 0x142929670a0e6e70,
   0x27b70a8546d22ffc, 0x2e1b21385c26c926, 0x4d2c6dfc5ac42aed, 0x53380d139d95b3df,
   0x650a73548baf63de, 0x766a0abb3c77b2a8, 0x81c2c92e47edaee6, 0x92722c851482353b,
   0xa2bfe8a14cf10364, 0xa81a664bbc423001, 0xc24b8b70d0f89791, 0xc76c51a30654be30,
   0xd192e819d6ef5218, 0xd69906245565a910, 0xf40e35855771202a, 0x106aa07032bbd1b8,
   0x19a4c116b8d2d0c8, 0x1e376c085141ab53, 0x2748774cdf8eeb99, 0x34b0bcb5e19b48a8,
   0x391c0cb3c5c95a63, 0x4ed8aa4ae3418acb, 0x5b9cca4f7763e373, 0x682e6ff3d6b2b8a3,
   0x748f82ee5defb2fc, 0x78a5636f43172f60, 0x84c87814a1f0ab72, 0x8cc702081a6439ec,
   0x90befffa23631e28, 0xa4506cebde82bde9, 0xbef9a3f7b2c67915, 0xc67178f2e372532b,
   0xca273eceea26619c, 0xd186b8c721c0c207, 0xeada7dd6cde0eb1e, 0xf57d4f7fee6ed178,
   0x06f067aa72176fba, 0x0a637dc5a2c898a6, 0x113f9804bef90dae, 0x1b710b35131c471b,
   0x28db77f523047d84, 0x32caab7b40c72493, 0x3c9ebe0a15c9bebc, 0x431d67c49c100d4c,
   0x4cc5d4becb3e42b6, 0x597f299cfc657e2a, 0x5fcb6fab3ad6faec, 0x6c44198c4a475817]

/-- Rotation to the right. -/
@[inline] def rotr (x : UInt64) (n : UInt64) : UInt64 := (x >>> n) ||| (x <<< (64 - n))

/-- A message block: sixteen words. -/
structure Block where
  /-- The first eight words. -/
  low : Chaining
  /-- The last eight words. -/
  high : Chaining

/-- The rounds of one block: the first schedule word is used up by each round and the word sixteen
places further is computed from the window. -/
def rounds : List UInt64 →
    UInt64 → UInt64 → UInt64 → UInt64 → UInt64 → UInt64 → UInt64 → UInt64 →
    UInt64 → UInt64 → UInt64 → UInt64 → UInt64 → UInt64 → UInt64 → UInt64 → Chaining → Chaining
  | [], _, _, _, _, _, _, _, _, _, _, _, _, _, _, _, _, s => s
  | k :: ks, w0, w1, w2, w3, w4, w5, w6, w7, w8, w9, w10, w11, w12, w13, w14, w15,
      ⟨a, b, c, d, e, f, g, h⟩ =>
    let s1 := rotr e 14 ^^^ rotr e 18 ^^^ rotr e 41
    let ch := (e &&& f) ^^^ ((~~~e) &&& g)
    let t1 := h + s1 + ch + k + w0
    let s0 := rotr a 28 ^^^ rotr a 34 ^^^ rotr a 39
    let maj := (a &&& b) ^^^ (a &&& c) ^^^ (b &&& c)
    let g0 := rotr w1 1 ^^^ rotr w1 8 ^^^ (w1 >>> 7)
    let g1 := rotr w14 19 ^^^ rotr w14 61 ^^^ (w14 >>> 6)
    rounds ks w1 w2 w3 w4 w5 w6 w7 w8 w9 w10 w11 w12 w13 w14 w15 (w0 + g0 + w9 + g1)
      ⟨t1 + s0 + maj, a, b, c, d + t1, e, f, g⟩

/-- One block mixed into the chaining value. -/
def compress (s : Chaining) (m : Block) : Chaining :=
  s.add (rounds roundConstants
    m.low.a m.low.b m.low.c m.low.d m.low.e m.low.f m.low.g m.low.h
    m.high.a m.high.b m.high.c m.high.d m.high.e m.high.f m.high.g m.high.h s)

/-! ## §2. Padding and hashing -/

/-- Words of octets, most significant first; an incomplete word is dropped. -/
def wordsOf : Bytes → List UInt64
  | a :: b :: c :: d :: e :: f :: g :: h :: r =>
    ((Sha256.word a b c d).toUInt64 <<< 32 ||| (Sha256.word e f g h).toUInt64) :: wordsOf r
  | _ => []

/-- Blocks of words; an incomplete block is dropped. -/
def blocksOf : List UInt64 → List Block
  | a :: b :: c :: d :: e :: f :: g :: h :: i :: j :: k :: l :: m :: n :: o :: p :: r =>
    ⟨⟨a, b, c, d, e, f, g, h⟩, ⟨i, j, k, l, m, n, o, p⟩⟩ :: blocksOf r
  | _ => []

/-- What is appended to a message of this length: a one bit, zeros to a block boundary less sixteen
octets, and the length in bits. -/
def padding (length : Nat) : Bytes :=
  0x80 :: List.replicate ((239 - length % 128) % 128) 0 ++ Sha256.bigEndian 16 (length * 8)

/-- The octets of a word, most significant first. -/
def wordOctets (w : UInt64) : Bytes :=
  Sha256.wordOctets (w >>> 32).toUInt32 ++ Sha256.wordOctets w.toUInt32

/-- The digest of a message. -/
def hash (message : Bytes) : Bytes :=
  ((blocksOf (wordsOf (message ++ padding message.length))).foldl compress start).words.flatMap
    wordOctets

/-! ## §3. Laws -/

theorem length_hash (message : Bytes) : (hash message).length = 64 := rfl

end SealedDrop.Sha512
