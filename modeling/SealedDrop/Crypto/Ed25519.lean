/-
  SealedDrop.Crypto.Ed25519
  ─────────────────────────
  **ED25519 SIGNATURES.**

  Arithmetic is on natural numbers modulo the field prime; points are kept in
  extended coordinates, where one addition formula serves all pairs.  A
  signature is checked without the cofactor: the point  S·B − k·A  is encoded
  and compared octet by octet with the first half of the signature, and `S`
  must be below the group order.

  Main statement: a signature has 64 octets and a public key 32
  (`length_sign`, `length_publicKey`).
-/
import SealedDrop.Crypto.Sha512

namespace SealedDrop.Ed25519

/-! ## §1. The field -/

/-- The prime 2^255 − 19. -/
def prime : Nat := 2 ^ 255 - 19

/-- The order of the base point. -/
def order : Nat := 2 ^ 252 + 27742317777372353535851937790883648493

/-- A power modulo the prime, for exponents below 2^256. -/
def power (x : Nat) (exponent : Nat) : Nat :=
  go 256 x exponent 1
where
  go : Nat → Nat → Nat → Nat → Nat
    | 0, _, _, acc => acc
    | bits + 1, x, e, acc =>
      if e = 0 then acc
      else go bits (x * x % prime) (e / 2) (if e % 2 = 1 then acc * x % prime else acc)

/-- The inverse modulo the prime; zero has none and gives zero. -/
def inverse (x : Nat) : Nat := power x (prime - 2)

/-- A difference modulo the prime. -/
def minus (x y : Nat) : Nat := (x + prime - y % prime) % prime

/-- The constant of the curve: −121665 / 121666. -/
def curveConstant : Nat :=
  37095705934669439343138083508754565189542113879843219016388785533085940283555

/-- A square root of −1. -/
def rootOfMinusOne : Nat :=
  19681161376707505956807079304988542015446066515923890162744021073123829784752

/-! ## §2. Points -/

/-- A point in extended coordinates: `x = X/Z`, `y = Y/Z`, `x·y = T/Z`. -/
structure Point where
  /-- The coordinate `X`. -/
  x : Nat
  /-- The coordinate `Y`. -/
  y : Nat
  /-- The coordinate `Z`. -/
  z : Nat
  /-- The coordinate `T`. -/
  t : Nat

namespace Point

/-- The neutral point. -/
def zero : Point := ⟨0, 1, 1, 0⟩

/-- The base point. -/
def base : Point :=
  let x := 15112221349535400772501151409588531511454012693041857206046113283949847762202
  let y := 46316835694926478169428394003475163141307993866256225615783033603165251855960
  ⟨x, y, 1, x * y % prime⟩

/-- The sum of two points. -/
def add (p q : Point) : Point :=
  let a := minus p.y p.x * minus q.y q.x % prime
  let b := (p.y + p.x) * (q.y + q.x) % prime
  let c := p.t * 2 * curveConstant % prime * q.t % prime
  let d := p.z * 2 * q.z % prime
  let e := minus b a
  let f := minus d c
  let g := (d + c) % prime
  let h := (b + a) % prime
  ⟨e * f % prime, g * h % prime, f * g % prime, e * h % prime⟩

/-- The opposite point. -/
def neg (p : Point) : Point := ⟨minus 0 p.x, p.y, p.z, minus 0 p.t⟩

/-- A multiple of a point, for factors below 2^256. -/
def multiple (n : Nat) (p : Point) : Point :=
  go 256 n p zero
where
  go : Nat → Nat → Point → Point → Point
    | 0, _, _, acc => acc
    | bits + 1, n, p, acc =>
      if n = 0 then acc else go bits (n / 2) (p.add p) (if n % 2 = 1 then acc.add p else acc)

end Point

/-! ## §3. Encoding -/

/-- A number from octets, least significant first. -/
def littleEndian (b : Bytes) : Nat := b.foldr (fun x n => x.toNat + 256 * n) 0

/-- The 32 octets of a number, least significant first. -/
def octets32 (n : Nat) : Bytes := (List.range 32).map fun i => UInt8.ofNat (n / 256 ^ i)

namespace Point

/-- A point as its `y` with the parity of `x` in the top bit. -/
def encode (p : Point) : Bytes :=
  let i := inverse p.z
  let x := p.x * i % prime
  let y := p.y * i % prime
  octets32 (y + (x % 2) * 2 ^ 255)

/-- The point with this encoding, if its `y` belongs to the curve. -/
def decode? (b : Bytes) : Option Point :=
  let n := littleEndian b
  let odd := n / 2 ^ 255 % 2
  let y := n % 2 ^ 255 % prime
  let u := minus (y * y) 1
  let v := (curveConstant * (y * y % prime) + 1) % prime
  let v3 := v * v % prime * v % prime
  let v7 := v3 * v3 % prime * v % prime
  let x := u * v3 % prime * power (u * v7 % prime) ((prime - 5) / 8) % prime
  let square := v * (x * x % prime) % prime
  let root : Option Nat :=
    if square = u then some x
    else if square = minus 0 u then some (x * rootOfMinusOne % prime)
    else none
  root.map fun x =>
    let x := if x % 2 = odd then x else minus 0 x
    ⟨x, y, 1, x * y % prime⟩

end Point

/-! ## §4. Signing and checking -/

/-- The secret scalar and the hashing prefix of a seed. -/
def expand (seed : Bytes) : Nat × Bytes :=
  let h := Sha512.hash seed
  let n := littleEndian (h.take 32)
  (n % 2 ^ 254 / 8 * 8 + 2 ^ 254, h.drop 32)

/-- The public key of a seed. -/
def publicKey (seed : Bytes) : Bytes := (Point.multiple (expand seed).1 Point.base).encode

/-- The challenge of a signature. -/
def challenge (r key message : Bytes) : Nat :=
  littleEndian (Sha512.hash (r ++ key ++ message)) % order

/-- The signature of a message. -/
def sign (seed message : Bytes) : Bytes :=
  let (a, lead) := expand seed
  let key := (Point.multiple a Point.base).encode
  let r := littleEndian (Sha512.hash (lead ++ message)) % order
  let rPoint := (Point.multiple r Point.base).encode
  let k := challenge rPoint key message
  rPoint ++ octets32 ((r + k * a) % order)

/-- Whether a signature belongs to a message and a public key of 32 octets. -/
def verify (key signature message : Bytes) : Bool :=
  let r := signature.take 32
  let s := littleEndian (signature.drop 32)
  if signature.length ≠ 64 ∨ order ≤ s then false
  else
    match Point.decode? key with
    | none => false
    | some a =>
      let k := challenge r key message
      ((Point.multiple s Point.base).add (Point.multiple k a.neg)).encode == r

/-! ## §5. Laws -/

theorem length_octets32 (n : Nat) : (octets32 n).length = 32 := by simp [octets32]

theorem length_publicKey (seed : Bytes) : (publicKey seed).length = 32 := length_octets32 _

theorem length_sign (seed message : Bytes) : (sign seed message).length = 64 := by
  simp [sign, Point.encode, length_octets32]

end SealedDrop.Ed25519
