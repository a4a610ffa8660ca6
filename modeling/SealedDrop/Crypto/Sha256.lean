/-
  SealedDrop.Crypto.Sha256
  ────────────────────────
  **SHA-256, ITS HMAC, AND PASSWORD STRETCHING.**

  The compression function keeps its sixteen schedule words and eight working
  words as separate 32-bit words, so that the hundreds of thousands of calls a
  stretched password needs run without allocation inside a block.  A
  `Chaining` value is what one block hands to the next; hashing is a fold of
  `compress` over padded blocks.

  `Hmac` keeps the chaining values after the two padded key blocks: a keyed
  hash of a 32-octet message is then two compressions, and `stretch` repeats
  exactly that.

  Main statement: a digest has 32 octets (`length_hash`), and so has a
  stretched key (`length_stretch`).
-/
import SealedDrop.Text.Utf8

namespace SealedDrop.Sha256

/-! ## §1. The compression function -/

/-- The eight words handed from block to block. -/
structure Chaining where
  /-- First word. -/
  a : UInt32
  /-- Second word. -/
  b : UInt32
  /-- Third word. -/
  c : UInt32
  /-- Fourth word. -/
  d : UInt32
  /-- Fifth word. -/
  e : UInt32
  /-- Sixth word. -/
  f : UInt32
  /-- Seventh word. -/
  g : UInt32
  /-- Eighth word. -/
  h : UInt32
  deriving DecidableEq, Repr

namespace Chaining

/-- Word-wise sum. -/
def add (x y : Chaining) : Chaining :=
  ⟨x.a + y.a, x.b + y.b, x.c + y.c, x.d + y.d, x.e + y.e, x.f + y.f, x.g + y.g, x.h + y.h⟩

/-- Word-wise exclusive or. -/
def xor (x y : Chaining) : Chaining :=
  ⟨x.a ^^^ y.a, x.b ^^^ y.b, x.c ^^^ y.c, x.d ^^^ y.d, x.e ^^^ y.e, x.f ^^^ y.f, x.g ^^^ y.g,
    x.h ^^^ y.h⟩

/-- The words in order. -/
def words (x : Chaining) : List UInt32 := [x.a, x.b, x.c, x.d, x.e, x.f, x.g, x.h]

end Chaining

/-- The start of every hash: the fractional parts of the square roots of the first eight primes. -/
def start : Chaining :=
  ⟨0x6a09e667, 0xbb67ae85, 0x3c6ef372, 0xa54ff53a, 0x510e527f, 0x9b05688c, 0x1f83d9ab, 0x5be0cd19⟩

/-- The round constants: the fractional parts of the cube roots of the first 64 primes. -/
def roundConstants : List UInt32 :=
  [0x428a2f98, 0x71374491, 0xb5c0fbcf, 0xe9b5dba5, 0x3956c25b, 0x59f111f1, 0x923f82a4, 0xab1c5ed5,
   0xd807aa98, 0x12835b01, 0x243185be, 0x550c7dc3, 0x72be5d74, 0x80deb1fe, 0x9bdc06a7, 0xc19bf174,
   0xe49b69c1, 0xefbe4786, 0x0fc19dc6, 0x240ca1cc, 0x2de92c6f, 0x4a7484aa, 0x5cb0a9dc, 0x76f988da,
   0x983e5152, 0xa831c66d, 0xb00327c8, 0xbf597fc7, 0xc6e00bf3, 0xd5a79147, 0x06ca6351, 0x14292967,
   0x27b70a85, 0x2e1b2138, 0x4d2c6dfc, 0x53380d13, 0x650a7354, 0x766a0abb, 0x81c2c92e, 0x92722c85,
   0xa2bfe8a1, 0xa81a664b, 0xc24b8b70, 0xc76c51a3, 0xd192e819, 0xd6990624, 0xf40e3585, 0x106aa070,
   0x19a4c116, 0x1e376c08, 0x2748774c, 0x34b0bcb5, 0x391c0cb3, 0x4ed8aa4a, 0x5b9cca4f, 0x682e6ff3,
   0x748f82ee, 0x78a5636f, 0x84c87814, 0x8cc70208, 0x90befffa, 0xa4506ceb, 0xbef9a3f7, 0xc67178f2]

/-- Rotation to the right. -/
@[inline] def rotr (x : UInt32) (n : UInt32) : UInt32 := (x >>> n) ||| (x <<< (32 - n))

/-- The rounds of one block: the first schedule word is used up by each round and the word sixteen
places further is computed from the window. -/
def rounds : List UInt32 →
    UInt32 → UInt32 → UInt32 → UInt32 → UInt32 → UInt32 → UInt32 → UInt32 →
    UInt32 → UInt32 → UInt32 → UInt32 → UInt32 → UInt32 → UInt32 → UInt32 →
    UInt32 → UInt32 → UInt32 → UInt32 → UInt32 → UInt32 → UInt32 → UInt32 → Chaining
  | [], _, _, _, _, _, _, _, _, _, _, _, _, _, _, _, _, a, b, c, d, e, f, g, h =>
    ⟨a, b, c, d, e, f, g, h⟩
  | k :: ks, w0, w1, w2, w3, w4, w5, w6, w7, w8, w9, w10, w11, w12, w13, w14, w15,
      a, b, c, d, e, f, g, h =>
    let s1 := rotr e 6 ^^^ rotr e 11 ^^^ rotr e 25
    let ch := (e &&& f) ^^^ ((~~~e) &&& g)
    let t1 := h + s1 + ch + k + w0
    let s0 := rotr a 2 ^^^ rotr a 13 ^^^ rotr a 22
    let maj := (a &&& b) ^^^ (a &&& c) ^^^ (b &&& c)
    let g0 := rotr w1 7 ^^^ rotr w1 18 ^^^ (w1 >>> 3)
    let g1 := rotr w14 17 ^^^ rotr w14 19 ^^^ (w14 >>> 10)
    rounds ks w1 w2 w3 w4 w5 w6 w7 w8 w9 w10 w11 w12 w13 w14 w15 (w0 + g0 + w9 + g1)
      (t1 + s0 + maj) a b c (d + t1) e f g

/-- A message block: sixteen words. -/
structure Block where
  /-- The first eight words. -/
  low : Chaining
  /-- The last eight words. -/
  high : Chaining

/-- One block mixed into the chaining value. -/
def compress (s : Chaining) (m : Block) : Chaining :=
  s.add (rounds roundConstants
    m.low.a m.low.b m.low.c m.low.d m.low.e m.low.f m.low.g m.low.h
    m.high.a m.high.b m.high.c m.high.d m.high.e m.high.f m.high.g m.high.h
    s.a s.b s.c s.d s.e s.f s.g s.h)

/-! ## §2. Padding and hashing -/

/-- A word from four octets, most significant first. -/
def word (a b c d : UInt8) : UInt32 :=
  (a.toUInt32 <<< 24) ||| (b.toUInt32 <<< 16) ||| (c.toUInt32 <<< 8) ||| d.toUInt32

/-- The octets of a word, most significant first. -/
def wordOctets (w : UInt32) : Bytes :=
  [(w >>> 24).toUInt8, (w >>> 16).toUInt8, (w >>> 8).toUInt8, w.toUInt8]

/-- Words of octets; an incomplete word is dropped. -/
def wordsOf : Bytes → List UInt32
  | a :: b :: c :: d :: r => word a b c d :: wordsOf r
  | _ => []

/-- Blocks of words; an incomplete block is dropped. -/
def blocksOf : List UInt32 → List Block
  | a :: b :: c :: d :: e :: f :: g :: h :: i :: j :: k :: l :: m :: n :: o :: p :: r =>
    ⟨⟨a, b, c, d, e, f, g, h⟩, ⟨i, j, k, l, m, n, o, p⟩⟩ :: blocksOf r
  | _ => []

/-- The octets of a number in a fixed width, most significant first. -/
def bigEndian (width n : Nat) : Bytes :=
  (List.range width).map fun i => UInt8.ofNat (n / 256 ^ (width - 1 - i))

/-- What is appended to a message of this length: a one bit, zeros to a block boundary less eight
octets, and the length in bits. -/
def padding (length : Nat) : Bytes :=
  0x80 :: List.replicate ((119 - length % 64) % 64) 0 ++ bigEndian 8 (length * 8)

/-- Absorbs the rest of a message after `done` octets. -/
def absorb (s : Chaining) (done : Nat) (message : Bytes) : Chaining :=
  (blocksOf (wordsOf (message ++ padding (done + message.length)))).foldl compress s

/-- The octets of a chaining value. -/
def octets (s : Chaining) : Bytes := s.words.flatMap wordOctets

/-- The digest of a message. -/
def hash (message : Bytes) : Bytes := octets (absorb start 0 message)

/-! ## §3. Keyed hashing -/

/-- A key prepared for hashing: the chaining values after its inner and outer padded blocks. -/
structure Hmac where
  /-- After the key block combined with `0x36`. -/
  inner : Chaining
  /-- After the key block combined with `0x5c`. -/
  outer : Chaining

namespace Hmac

/-- A key longer than a block is hashed first. -/
def ofKey (key : Bytes) : Hmac :=
  let key := if key.length ≤ 64 then key else hash key
  let block := key ++ List.replicate (64 - key.length) 0
  let after (mask : UInt8) : Chaining :=
    (blocksOf (wordsOf (block.map (· ^^^ mask)))).foldl compress start
  ⟨after 0x36, after 0x5c⟩

/-- The keyed hash of a message, as words. -/
def run (k : Hmac) (message : Bytes) : Chaining :=
  absorb k.outer 64 (octets (absorb k.inner 64 message))

/-- The padding of a 32-octet message after one key block: 96 octets in all. -/
def tail96 : Chaining := ⟨0x80000000, 0, 0, 0, 0, 0, 0, 768⟩

/-- The keyed hash of eight words. -/
def runWords (k : Hmac) (m : Chaining) : Chaining :=
  compress k.outer ⟨compress k.inner ⟨m, tail96⟩, tail96⟩

end Hmac

/-! ## §4. Password stretching -/

/-- `n` further keyed hashes of `u`, all combined into `acc`. -/
def iterate (k : Hmac) : Nat → Chaining → Chaining → Chaining
  | 0, _, acc => acc
  | n + 1, u, acc =>
    let u := k.runWords u
    iterate k n u (acc.xor u)

/-- A 32-octet key from a password: the first block of the iterated construction. -/
def stretch (password salt : Bytes) (iterations : Nat) : Bytes :=
  let k := Hmac.ofKey password
  let u := k.run (salt ++ bigEndian 4 1)
  octets (iterate k (iterations - 1) u u)

/-! ## §5. Laws -/

theorem length_octets (s : Chaining) : (octets s).length = 32 := rfl

theorem length_hash (message : Bytes) : (hash message).length = 32 := length_octets _

theorem length_stretch (password salt : Bytes) (n : Nat) :
    (stretch password salt n).length = 32 := length_octets _

end SealedDrop.Sha256
