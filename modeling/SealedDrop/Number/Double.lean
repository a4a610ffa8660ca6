/-
  SealedDrop.Number.Double
  ────────────────────────
  **BINARY64 NUMBERS AND THEIR DECIMAL TEXTS, EXACTLY.**

  A finite double is `mantissa · 2^exponent`.  Reading a decimal rounds its
  exact ratio to the nearest such number, ties to the even mantissa; writing
  picks the shortest decimal that reads back, and of two the nearer one.
  Both go through natural numbers only.

      Double.ofDecimal   — nearest double of  ± c · 10^k
      Double.parts?      — mantissa and exponent of a finite double
      Double.floorOfInt  — greatest double not above an integer
      Double.shortest    — the decimal that a number is shown as
      Double.toText      — that decimal laid out: positional from 1e-4 up to
                           1e16, with a signed two-digit exponent outside
      Double.fixed, scientific — a given number of places, half to even
-/
import SealedDrop.Text.Basic

namespace SealedDrop.Double

/-! ## §1. Reading -/

/-- `n / d` rounded to a natural number, a half to the even neighbour. -/
def roundDiv (n d : Nat) : Nat :=
  let q := n / d
  let r := n % d
  if 2 * r < d then q else if 2 * r = d then q + q % 2 else q + 1

/-- `n · 2^-q / d` rounded. -/
def roundScaled (n d : Nat) (q : Int) : Nat :=
  if 0 ≤ q then roundDiv n (d <<< q.toNat) else roundDiv (n <<< (-q).toNat) d

/-- The bits of the double nearest to `n / d`, sign bit excluded. -/
def nearestBits (n d : Nat) : UInt64 :=
  if n = 0 ∨ d = 0 then 0
  else
    let floorLog : Int :=
      let est : Int := (n.log2 : Int) - d.log2
      let below : Bool := if 0 ≤ est then n < d <<< est.toNat else n <<< (-est).toNat < d
      if below then est - 1 else est
    let q := max (floorLog - 52) (-1074)
    let t := roundScaled n d q
    let (t, q) := if t = 2 ^ 53 then (2 ^ 52, q + 1) else (t, q)
    if 971 < q then 0x7FF0000000000000
    else if t < 2 ^ 52 then UInt64.ofNat t
    else UInt64.ofNat ((q + 1075).toNat * 2 ^ 52 + (t - 2 ^ 52))

/-- The double nearest to `± c · 10^k`. -/
def ofDecimal (negative : Bool) (c : Nat) (k : Int) : Float :=
  let size : Int := (Nat.toDigits 10 c).length
  let bits :=
    if c = 0 ∨ size + k < -330 then 0
    else if 330 < size + k then 0x7FF0000000000000
    else if 0 ≤ k then nearestBits (c * 10 ^ k.toNat) 1
    else nearestBits c (10 ^ (-k).toNat)
  Float.ofBits (if negative then bits ||| 0x8000000000000000 else bits)

/-- The double nearest to an integer; out of range it is infinite. -/
def ofInt (n : Int) : Float := ofDecimal (n < 0) n.natAbs 0

/-! ## §2. Taking apart -/

/-- Whether the sign bit is set. -/
def isNegative (x : Float) : Bool := x.toBits &&& 0x8000000000000000 != 0

/-- Mantissa and exponent of a finite double's magnitude. -/
def parts? (x : Float) : Option (Nat × Int) :=
  let bits := x.toBits
  let biased := ((bits >>> 52) &&& 0x7FF).toNat
  let frac := (bits &&& 0xFFFFFFFFFFFFF).toNat
  if biased = 0x7FF then none
  else if biased = 0 then some (frac, -1074)
  else some (frac + 2 ^ 52, (biased : Int) - 1075)

/-- A finite double's magnitude as a ratio. -/
def ratio? (x : Float) : Option (Nat × Nat) :=
  (parts? x).map fun (m, q) => if 0 ≤ q then (m <<< q.toNat, 1) else (m, 1 <<< (-q).toNat)

/-- The value of a double that is a whole number. -/
def toInt? (x : Float) : Option Int := do
  let (n, d) ← ratio? x
  if n % d = 0 then
    let m : Int := (n / d : Nat)
    some (if isNegative x then -m else m)
  else none

/-- The greatest integer not above a finite double. -/
def floor? (x : Float) : Option Int := do
  let (n, d) ← ratio? x
  if isNegative x then some (-(((n + d - 1) / d : Nat) : Int)) else some ((n / d : Nat) : Int)

/-- The next double towards minus infinity from one that is neither that nor NaN. -/
def below (x : Float) : Float :=
  let bits := x.toBits
  if bits &&& 0x7FFFFFFFFFFFFFFF = 0 then Float.ofBits 0x8000000000000001
  else Float.ofBits (if isNegative x then bits + 1 else bits - 1)

/-- The greatest double not above an integer; a double exceeds one of them exactly when it exceeds
the other. -/
def floorOfInt (n : Int) : Float :=
  let x := ofInt n
  match toInt? x with
  | some m => if m ≤ n then x else below x
  | none => if isNegative x then x else below x

/-- The integer towards zero from a finite double. -/
def truncate? (x : Float) : Option Int := do
  let (n, d) ← ratio? x
  let m : Int := (n / d : Nat)
  some (if isNegative x then -m else m)

/-! ## §3. Choosing digits -/

/-- A positive decimal: digits without leading zero, and where the point stands counted from
before the first digit. -/
structure Digits where
  /-- The digits, as text. -/
  digits : Text
  /-- The position of the point. -/
  point : Int

/-- `10^k ≤ n / d`. -/
def atLeastPower (n d : Nat) (k : Int) : Bool :=
  if 0 ≤ k then d * 10 ^ k.toNat ≤ n else d ≤ n * 10 ^ (-k).toNat

/-- The exponent of the greatest power of ten not above a positive ratio. -/
def decimalExponent (n d : Nat) : Int :=
  let est : Int := ((n.log2 : Int) - d.log2) * 30103 / 100000
  if !atLeastPower n d est then est - 1
  else if atLeastPower n d (est + 1) then est + 1
  else est

/-- The quotient of `n / d` by `10^k`, as a ratio. -/
def overPower (n d : Nat) (k : Int) : Nat × Nat :=
  if 0 ≤ k then (n, d * 10 ^ k.toNat) else (n * 10 ^ (-k).toNat, d)

/-- Digits without trailing zeros, one at least. -/
def trimZeros (t : Text) : Text :=
  match Text.stripRight '0' t with
  | [] => t.take 1
  | s => s

/-- The shortest decimal of a positive ratio that `readsBack`, trying `left` more digit counts
after `count`. -/
def shortestFrom (n d : Nat) (exponent : Int) (readsBack : Nat → Int → Bool) : Nat → Nat → Digits
  | 0, count => finish (roundDiv (overPower n d (exponent - count + 1)).1
      (overPower n d (exponent - count + 1)).2) (exponent - count + 1)
  | left + 1, count =>
    let k := exponent - count + 1
    let (a, b) := overPower n d k
    let low := a / b
    let high := low + 1
    let lowOk := 0 < low && readsBack low k
    let highOk := readsBack high k
    if lowOk && highOk then
      let r := 2 * (a % b)
      finish (if r < b ∨ (r = b ∧ low % 2 = 0) then low else high) k
    else if lowOk then finish low k
    else if highOk then finish high k
    else shortestFrom n d exponent readsBack left (count + 1)
where
  finish (c : Nat) (k : Int) : Digits :=
    let ds := Text.ofNat c
    ⟨trimZeros ds, k + ds.length⟩

/-- The shortest decimal that reads back as this finite double other than zero. -/
def shortest (n d : Nat) (bits : UInt64) : Digits :=
  shortestFrom n d (decimalExponent n d) (fun c k =>
    bits == (if 0 ≤ k then nearestBits (c * 10 ^ k.toNat) 1 else nearestBits c (10 ^ (-k).toNat)))
    16 1

/-! ## §4. Layout -/

/-- An exponent with its sign and at least two digits. -/
def exponentText (e : Int) : Text :=
  (if e < 0 then "-" else "+") ++ Text.ofNatPadded 2 e.natAbs

/-- Digits with the point among them; a whole number keeps one zero after the point. -/
def positional (x : Digits) : Text :=
  if x.point ≤ 0 then "0." ++ List.replicate (-x.point).toNat (CodePoint.ofChar '0') ++ x.digits
  else
    let p := x.point.toNat
    if x.digits.length ≤ p then Text.padRight p '0' x.digits ++ ".0"
    else x.digits.take p ++ "." ++ x.digits.drop p

/-- Digits with the point after the first one, unless it is alone. -/
def pointAfterFirst : Text → Text
  | [] => []
  | [d] => [d]
  | d :: ds => d :: CodePoint.ofChar '.' :: ds

/-- Digits with one before the point, and an exponent. -/
def exponential (x : Digits) : Text :=
  pointAfterFirst x.digits ++ "e" ++ exponentText (x.point - 1)

/-- The text of a double. -/
def toText (x : Float) : Text :=
  let sign : Text := if isNegative x then "-" else []
  match ratio? x with
  | none => if x.isNaN then "nan" else sign ++ "inf"
  | some (0, _) => sign ++ "0.0"
  | some (n, d) =>
    let ds := shortest n d (x.toBits &&& 0x7FFFFFFFFFFFFFFF)
    sign ++ if -4 < ds.point ∧ ds.point ≤ 16 then positional ds else exponential ds

/-- A ratio with a fixed number of places. -/
def fixedRatio (n d places : Nat) : Text :=
  let c := roundDiv (n * 10 ^ places) d
  let ds := Text.ofNatPadded (places + 1) c
  let cut := ds.length - places
  if places = 0 then ds else ds.take cut ++ "." ++ ds.drop cut

/-- A ratio as its exponent of ten and `places + 1` significant digits. -/
def significant (n d places : Nat) : Text × Int :=
  if n = 0 then (List.replicate (places + 1) (CodePoint.ofChar '0'), 0)
  else
    let e := decimalExponent n d
    let (a, b) := overPower n d (e - places)
    let c := roundDiv a b
    if c = 10 ^ (places + 1) then (Text.ofNat (c / 10), e + 1) else (Text.ofNat c, e)

/-- A ratio with one digit before the point, some after it, and an exponent. -/
def scientificRatio (n d places : Nat) : Text :=
  let (ds, e) := significant n d places
  pointAfterFirst ds ++ "e" ++ exponentText e

/-- A ratio with a number of significant digits, positional while the exponent stays between -4
and that number, without trailing zeros unless `keep`. -/
def generalRatio (n d digits : Nat) (keep : Bool) : Text :=
  let p := max digits 1
  let (ds, e) := significant n d (p - 1)
  let tidy (t : Text) : Text :=
    if keep || !t.contains '.' then t else Text.stripRight '.' (Text.stripRight '0' t)
  if -4 ≤ e ∧ e < p then tidy (fixedRatio n d (((p : Int) - 1 - e).toNat))
  else
    tidy (pointAfterFirst ds) ++ "e" ++ exponentText e

end SealedDrop.Double
