/-
  SealedDrop.Crypto.Aes
  ─────────────────────
  **THE AES-256 BLOCK CIPHER, FORWARD DIRECTION.**

  Counter mode never runs the cipher backwards, so only encryption of one
  block is here: fourteen rounds over a state of sixteen octets in column
  order, with the key expanded to sixty words.

  Main statement: a block of sixteen octets encrypts to sixteen octets
  (`length_encrypt`).
-/
import SealedDrop.Text.Utf8

namespace SealedDrop.Aes

/-! ## §1. The substitution -/

/-- The substitution of an octet, in order of its value. -/
def sbox : Array UInt8 := #[
  0x63, 0x7c, 0x77, 0x7b, 0xf2, 0x6b, 0x6f, 0xc5, 0x30, 0x01, 0x67, 0x2b, 0xfe, 0xd7, 0xab, 0x76,
  0xca, 0x82, 0xc9, 0x7d, 0xfa, 0x59, 0x47, 0xf0, 0xad, 0xd4, 0xa2, 0xaf, 0x9c, 0xa4, 0x72, 0xc0,
  0xb7, 0xfd, 0x93, 0x26, 0x36, 0x3f, 0xf7, 0xcc, 0x34, 0xa5, 0xe5, 0xf1, 0x71, 0xd8, 0x31, 0x15,
  0x04, 0xc7, 0x23, 0xc3, 0x18, 0x96, 0x05, 0x9a, 0x07, 0x12, 0x80, 0xe2, 0xeb, 0x27, 0xb2, 0x75,
  0x09, 0x83, 0x2c, 0x1a, 0x1b, 0x6e, 0x5a, 0xa0, 0x52, 0x3b, 0xd6, 0xb3, 0x29, 0xe3, 0x2f, 0x84,
  0x53, 0xd1, 0x00, 0xed, 0x20, 0xfc, 0xb1, 0x5b, 0x6a, 0xcb, 0xbe, 0x39, 0x4a, 0x4c, 0x58, 0xcf,
  0xd0, 0xef, 0xaa, 0xfb, 0x43, 0x4d, 0x33, 0x85, 0x45, 0xf9, 0x02, 0x7f, 0x50, 0x3c, 0x9f, 0xa8,
  0x51, 0xa3, 0x40, 0x8f, 0x92, 0x9d, 0x38, 0xf5, 0xbc, 0xb6, 0xda, 0x21, 0x10, 0xff, 0xf3, 0xd2,
  0xcd, 0x0c, 0x13, 0xec, 0x5f, 0x97, 0x44, 0x17, 0xc4, 0xa7, 0x7e, 0x3d, 0x64, 0x5d, 0x19, 0x73,
  0x60, 0x81, 0x4f, 0xdc, 0x22, 0x2a, 0x90, 0x88, 0x46, 0xee, 0xb8, 0x14, 0xde, 0x5e, 0x0b, 0xdb,
  0xe0, 0x32, 0x3a, 0x0a, 0x49, 0x06, 0x24, 0x5c, 0xc2, 0xd3, 0xac, 0x62, 0x91, 0x95, 0xe4, 0x79,
  0xe7, 0xc8, 0x37, 0x6d, 0x8d, 0xd5, 0x4e, 0xa9, 0x6c, 0x56, 0xf4, 0xea, 0x65, 0x7a, 0xae, 0x08,
  0xba, 0x78, 0x25, 0x2e, 0x1c, 0xa6, 0xb4, 0xc6, 0xe8, 0xdd, 0x74, 0x1f, 0x4b, 0xbd, 0x8b, 0x8a,
  0x70, 0x3e, 0xb5, 0x66, 0x48, 0x03, 0xf6, 0x0e, 0x61, 0x35, 0x57, 0xb9, 0x86, 0xc1, 0x1d, 0x9e,
  0xe1, 0xf8, 0x98, 0x11, 0x69, 0xd9, 0x8e, 0x94, 0x9b, 0x1e, 0x87, 0xe9, 0xce, 0x55, 0x28, 0xdf,
  0x8c, 0xa1, 0x89, 0x0d, 0xbf, 0xe6, 0x42, 0x68, 0x41, 0x99, 0x2d, 0x0f, 0xb0, 0x54, 0xbb, 0x16]

/-- The substitution of an octet. -/
def substitute (b : UInt8) : UInt8 := sbox.getD b.toNat 0

/-- Doubling in the field of the cipher. -/
def double (b : UInt8) : UInt8 := (b <<< 1) ^^^ (if b &&& 0x80 = 0 then 0 else 0x1b)

/-! ## §2. The state -/

/-- A column of the state, or a word of the key schedule. -/
structure Column where
  /-- Row 0. -/
  r0 : UInt8
  /-- Row 1. -/
  r1 : UInt8
  /-- Row 2. -/
  r2 : UInt8
  /-- Row 3. -/
  r3 : UInt8
  deriving DecidableEq, Repr

namespace Column

/-- Exclusive or, row by row. -/
def xor (x y : Column) : Column := ⟨x.r0 ^^^ y.r0, x.r1 ^^^ y.r1, x.r2 ^^^ y.r2, x.r3 ^^^ y.r3⟩

/-- Every row substituted. -/
def sub (x : Column) : Column :=
  ⟨substitute x.r0, substitute x.r1, substitute x.r2, substitute x.r3⟩

/-- Rows moved up by one, the first to the end. -/
def rotate (x : Column) : Column := ⟨x.r1, x.r2, x.r3, x.r0⟩

/-- The rows of a column mixed with each other. -/
def mix (x : Column) : Column :=
  let all := x.r0 ^^^ x.r1 ^^^ x.r2 ^^^ x.r3
  ⟨x.r0 ^^^ all ^^^ double (x.r0 ^^^ x.r1), x.r1 ^^^ all ^^^ double (x.r1 ^^^ x.r2),
   x.r2 ^^^ all ^^^ double (x.r2 ^^^ x.r3), x.r3 ^^^ all ^^^ double (x.r3 ^^^ x.r0)⟩

/-- The octets of a column. -/
def octets (x : Column) : Bytes := [x.r0, x.r1, x.r2, x.r3]

end Column

/-- The cipher's state: four columns. -/
structure State where
  /-- Column 0. -/
  c0 : Column
  /-- Column 1. -/
  c1 : Column
  /-- Column 2. -/
  c2 : Column
  /-- Column 3. -/
  c3 : Column
  deriving DecidableEq, Repr

namespace State

/-- A round key combined into the state. -/
def xor (x y : State) : State := ⟨x.c0.xor y.c0, x.c1.xor y.c1, x.c2.xor y.c2, x.c3.xor y.c3⟩

/-- Every octet substituted. -/
def sub (x : State) : State := ⟨x.c0.sub, x.c1.sub, x.c2.sub, x.c3.sub⟩

/-- Row `i` rotated left by `i` columns. -/
def shiftRows (x : State) : State :=
  ⟨⟨x.c0.r0, x.c1.r1, x.c2.r2, x.c3.r3⟩, ⟨x.c1.r0, x.c2.r1, x.c3.r2, x.c0.r3⟩,
   ⟨x.c2.r0, x.c3.r1, x.c0.r2, x.c1.r3⟩, ⟨x.c3.r0, x.c0.r1, x.c1.r2, x.c2.r3⟩⟩

/-- Every column mixed. -/
def mix (x : State) : State := ⟨x.c0.mix, x.c1.mix, x.c2.mix, x.c3.mix⟩

/-- The octets of the state, column by column. -/
def octets (x : State) : Bytes := x.c0.octets ++ x.c1.octets ++ x.c2.octets ++ x.c3.octets

/-- A state from sixteen octets; missing ones count as zero. -/
def ofOctets (b : Bytes) : State :=
  let at' (i : Nat) : UInt8 := b.getD i 0
  ⟨⟨at' 0, at' 1, at' 2, at' 3⟩, ⟨at' 4, at' 5, at' 6, at' 7⟩,
   ⟨at' 8, at' 9, at' 10, at' 11⟩, ⟨at' 12, at' 13, at' 14, at' 15⟩⟩

end State

/-! ## §3. The key schedule -/

/-- Two round keys from the two before them. -/
def nextKeys (rcon : UInt8) (k : State × State) : State × State :=
  let t := k.2.c3.rotate.sub.xor ⟨rcon, 0, 0, 0⟩
  let w0 := k.1.c0.xor t
  let w1 := k.1.c1.xor w0
  let w2 := k.1.c2.xor w1
  let w3 := k.1.c3.xor w2
  let w4 := k.2.c0.xor w3.sub
  let w5 := k.2.c1.xor w4
  let w6 := k.2.c2.xor w5
  let w7 := k.2.c3.xor w6
  (⟨w0, w1, w2, w3⟩, ⟨w4, w5, w6, w7⟩)

/-- Round keys from a pair on, two for each round constant. -/
def schedule : List UInt8 → State × State → List State
  | [], k => [k.1]
  | rc :: rcs, k => k.1 :: k.2 :: schedule rcs (nextKeys rc k)

/-- The fifteen round keys of a 32-octet key. -/
def expand (key : Bytes) : List State :=
  schedule [0x01, 0x02, 0x04, 0x08, 0x10, 0x20, 0x40]
    (State.ofOctets (key.take 16), State.ofOctets (key.drop 16))

/-! ## §4. Encryption -/

/-- The rounds after the first key: the last one does not mix. -/
def runRounds : List State → State → State
  | [], s => s
  | [k], s => s.sub.shiftRows.xor k
  | k :: ks, s => runRounds ks (s.sub.shiftRows.mix.xor k)

/-- A block of sixteen octets under expanded keys. -/
def encrypt (keys : List State) (block : Bytes) : Bytes :=
  match keys with
  | [] => (State.ofOctets block).octets
  | k :: ks => (runRounds ks ((State.ofOctets block).xor k)).octets

/-! ## §5. Laws -/

theorem length_state_octets (s : State) : s.octets.length = 16 := rfl

theorem length_encrypt (keys : List State) (block : Bytes) : (encrypt keys block).length = 16 := by
  unfold encrypt
  split <;> exact length_state_octets _

end SealedDrop.Aes
