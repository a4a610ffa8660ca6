/-
  SealedDrop.Text.Basic
  ─────────────────────
  **TEXT AS CODE POINTS.**

  Text that reaches a service from the network is a sequence of CODE POINTS,
  not of characters: a JSON escape can spell half of a surrogate pair, and
  such a half travels through parsing, comparison and logging until something
  has to encode it.  A `Char` cannot hold it, so `Text` is a list of numbers
  below `0x110000`, and ordinary strings embed into it.

  Contents:

      CodePoint        — a number below 0x110000, surrogates included
      Text             — a list of code points; string literals coerce
      Text.stripRight, afterLast, dropLiteral?  — the cuts used throughout
      Text.ofNat, ofInt, hex                    — numerals

  Main statements: the embedding of strings loses nothing
  (`Text.toString?_ofString`), and a stripped text does not end in what was
  stripped (`Text.stripRight_getLast?`).
-/
namespace SealedDrop

/-- A Unicode code point; unlike `Char`, surrogates are allowed. -/
abbrev CodePoint := Fin 0x110000

-- What a numeral or a power stands for must not depend on what else a module imports.
instance neZeroPoints : @NeZero Nat Zero.ofOfNat0 0x110000 := ⟨Nat.succ_ne_zero _⟩

@[default_instance 20000] instance powNat : Pow Nat Nat := instPowNat

namespace CodePoint

/-- The code point of a character. -/
def ofChar (c : Char) : CodePoint :=
  ⟨c.toNat, by
    have := c.valid
    simp only [Char.toNat, UInt32.isValidChar, Nat.isValidChar] at *
    omega⟩

instance : Coe Char CodePoint := ⟨ofChar⟩

/-- Half of a surrogate pair, which no strict encoding can hold. -/
def isSurrogate (c : CodePoint) : Bool := 0xD800 ≤ c.val && c.val ≤ 0xDFFF

/-- An ASCII code point. -/
def isAscii (c : CodePoint) : Bool := c.val < 0x80

/-- An ASCII decimal digit. -/
def isDigit (c : CodePoint) : Bool := 0x30 ≤ c.val && c.val ≤ 0x39

/-- An ASCII letter. -/
def isLetter (c : CodePoint) : Bool :=
  (0x41 ≤ c.val && c.val ≤ 0x5A) || (0x61 ≤ c.val && c.val ≤ 0x7A)

/-- The value of an ASCII decimal digit. -/
def digit? (c : CodePoint) : Option Nat :=
  if c.isDigit then some (c.val - 0x30) else none

/-- The value of an ASCII hexadecimal digit of either case. -/
def hexDigit? (c : CodePoint) : Option Nat :=
  if c.isDigit then some (c.val - 0x30)
  else if 0x61 ≤ c.val ∧ c.val ≤ 0x66 then some (c.val - 0x57)
  else if 0x41 ≤ c.val ∧ c.val ≤ 0x46 then some (c.val - 0x37)
  else none

/-- ASCII letters to lower case; everything else is kept. -/
def toLowerAscii (c : CodePoint) : CodePoint :=
  if h : 0x41 ≤ c.val ∧ c.val ≤ 0x5A then ⟨c.val + 0x20, by omega⟩ else c

/-- ASCII letters to upper case; everything else is kept. -/
def toUpperAscii (c : CodePoint) : CodePoint :=
  if h : 0x61 ≤ c.val ∧ c.val ≤ 0x7A then ⟨c.val - 0x20, by omega⟩ else c

/-- The character of a code point, when it is not a surrogate. -/
def toChar? (c : CodePoint) : Option Char :=
  if h : c.val < 0xD800 ∨ (0xDFFF < c.val ∧ c.val < 0x110000) then
    some (Char.ofNatAux c.val h)
  else none

/-- The code point with this number; numbers out of range give U+FFFD. -/
def ofNat (n : Nat) : CodePoint := if h : n < 0x110000 then ⟨n, h⟩ else 0xFFFD

end CodePoint

/-- A text: any sequence of code points. -/
abbrev Text := List CodePoint

namespace Text

/-- The code points of a string. -/
def ofString (s : String) : Text := s.toList.map CodePoint.ofChar

instance : Coe String Text := ⟨ofString⟩

/-- The string of a text, when it holds no surrogate. -/
def toString? (t : Text) : Option String :=
  (t.mapM CodePoint.toChar?).map String.ofList

/-! ## §1. Order, case and membership -/

/-- The order of texts by code point, shorter first among extensions. -/
def le : Text → Text → Bool
  | [], _ => true
  | _ :: _, [] => false
  | a :: s, b :: t => if a = b then le s t else decide (a < b)

/-- ASCII lower case of every code point. -/
def lowerAscii (t : Text) : Text := t.map CodePoint.toLowerAscii

/-- ASCII upper case of every code point. -/
def upperAscii (t : Text) : Text := t.map CodePoint.toUpperAscii

/-- No code point beyond ASCII. -/
def isAscii (t : Text) : Bool := t.all CodePoint.isAscii

/-- No half of a surrogate pair. -/
def isScalar (t : Text) : Bool := t.all fun c => !c.isSurrogate

/-! ## §2. Cutting -/

/-- The text without its trailing run of `c`. -/
def stripRight (c : CodePoint) (t : Text) : Text :=
  (t.reverse.dropWhile (· = c)).reverse

/-- The text without its leading and trailing runs of points in `p`. -/
def trim (p : CodePoint → Bool) (t : Text) : Text :=
  ((t.dropWhile p).reverse.dropWhile p).reverse

/-- What follows the last `c`, or the whole text when it holds none. -/
def afterLast (c : CodePoint) (t : Text) : Text :=
  (t.reverse.takeWhile (· ≠ c)).reverse

/-- The text without a literal at its start. -/
def dropLiteral? (lit : Text) : Text → Option Text :=
  go lit
where
  go : Text → Text → Option Text
    | [], t => some t
    | _ :: _, [] => none
    | a :: s, b :: t => if a = b then go s t else none

/-- Whether the text starts with the literal. -/
def startsWith (t lit : Text) : Bool := (dropLiteral? lit t).isSome

/-- Whether the text ends with the literal. -/
def endsWith (t lit : Text) : Bool := startsWith t.reverse lit.reverse

/-- The pieces between separators; a text without separator is one piece. -/
def splitOn (c : CodePoint) (t : Text) : List Text :=
  go t []
where
  go : Text → Text → List Text
    | [], acc => [acc.reverse]
    | a :: r, acc => if a = c then acc.reverse :: go r [] else go r (a :: acc)

/-- The parts before and after the first `c`, when there is one. -/
def cutAt? (c : CodePoint) (t : Text) : Option (Text × Text) :=
  match t.dropWhile (· ≠ c) with
  | [] => none
  | _ :: r => some (t.takeWhile (· ≠ c), r)

/-- Pieces joined by a separator. -/
def joinWith (sep : Text) : List Text → Text
  | [] => []
  | [t] => t
  | t :: ts => t ++ sep ++ joinWith sep ts

/-- Every `c` replaced by `d`. -/
def replacePoint (c d : CodePoint) (t : Text) : Text := t.map fun x => if x = c then d else x

/-- Every occurrence of one literal removed, scanning from the left. -/
def removeLiteral (lit : Text) (t : Text) : Text :=
  if lit.isEmpty then t else go t 0
where
  go : Text → Nat → Text
    | [], _ => []
    | _ :: r, k + 1 => go r k
    | c :: r, 0 =>
      if startsWith (c :: r) lit then go r (lit.length - 1) else c :: go r 0

/-! ## §3. Numerals -/

/-- A natural number in decimal. -/
def ofNat (n : Nat) : Text := (Nat.toDigits 10 n).map CodePoint.ofChar

/-- An integer in decimal, with a sign when negative. -/
def ofInt : Int → Text
  | .ofNat n => ofNat n
  | .negSucc n => CodePoint.ofChar '-' :: ofNat (n + 1)

/-- Padding on the left to a width. -/
def padLeft (width : Nat) (c : CodePoint) (t : Text) : Text :=
  List.replicate (width - t.length) c ++ t

/-- Padding on the right to a width. -/
def padRight (width : Nat) (c : CodePoint) (t : Text) : Text :=
  t ++ List.replicate (width - t.length) c

/-- A natural number in decimal, padded with zeros to a width. -/
def ofNatPadded (width n : Nat) : Text := padLeft width '0' (ofNat n)

/-- A lower-case hexadecimal digit. -/
def hexDigit (n : Nat) : CodePoint :=
  CodePoint.ofNat (if n < 10 then 0x30 + n else 0x57 + n)

/-- A natural number in lower-case hexadecimal, padded with zeros to a width. -/
def hex (width n : Nat) : Text :=
  padLeft width '0' ((Nat.toDigits 16 n).map CodePoint.ofChar)

/-- A natural number in octal. -/
def octal (n : Nat) : Text := (Nat.toDigits 8 n).map CodePoint.ofChar

/-- The value of a run of decimal digits. -/
def digitsValue (ds : List Nat) : Nat := ds.foldl (fun n d => n * 10 + d) 0

/-- The value of a nonempty text of ASCII decimal digits. -/
def toNat? (t : Text) : Option Nat :=
  if t.isEmpty then none else (t.mapM CodePoint.digit?).map digitsValue

/-! ## §4. Small laws -/

theorem toChar?_ofChar (c : Char) : (CodePoint.ofChar c).toChar? = some c := by
  have hv : c.toNat < 0xD800 ∨ (0xDFFF < c.toNat ∧ c.toNat < 0x110000) := c.valid
  unfold CodePoint.toChar? CodePoint.ofChar
  exact dif_pos hv

theorem mapM_toChar?_ofChar (cs : List Char) :
    (cs.map CodePoint.ofChar).mapM CodePoint.toChar? = some cs := by
  induction cs with
  | nil => rfl
  | cons c cs ih => simp [List.mapM_cons, toChar?_ofChar, ih]

theorem toString?_ofString (s : String) : toString? (ofString s) = some s := by
  rw [toString?, ofString, mapM_toChar?_ofChar]
  simp

theorem stripRight_getLast? (c : CodePoint) (t : Text) :
    (stripRight c t).getLast? ≠ some c := by
  unfold stripRight
  rw [List.getLast?_reverse]
  intro h
  have := List.head?_dropWhile_not (fun x => decide (x = c)) t.reverse
  simp [h] at this

end Text

end SealedDrop
