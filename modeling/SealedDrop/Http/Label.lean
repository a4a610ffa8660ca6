/-
  SealedDrop.Http.Label
  ─────────────────────
  **LABELS OF A HOST.**

  A host by name is made of labels with points between them.  A label in ASCII
  is taken as it is.  A label in another script must be one that a registry
  could have given out: it is in composed form, written with the signs of names
  alone, read in one direction, and not too long when it is written in ASCII.
-/
import SealedDrop.Text.Composition
import SealedDrop.Text.Direction
import SealedDrop.Text.Joining
import SealedDrop.Text.Punycode
import SealedDrop.Text.Word

namespace SealedDrop.Http.Label

/-! ## §1. Signs -/

/-- Whether a number lies in one of some ranges. -/
def isIn (ranges : List (Nat × Nat)) (c : CodePoint) : Bool :=
  ranges.any fun (first, last) => first ≤ c.val && c.val ≤ last

/-- Greek letters. -/
def isGreek (c : CodePoint) : Bool := isIn [(0x370, 0x3E1), (0x3F0, 0x3FF), (0x1F00, 0x1FFF)] c

/-- Hebrew letters and points. -/
def isHebrew (c : CodePoint) : Bool := isIn [(0x591, 0x5F4), (0xFB1D, 0xFB4F)] c

/-- Signs of Japanese. -/
def isJapanese (c : CodePoint) : Bool :=
  isIn [(0x3005, 0x3007), (0x3021, 0x3029), (0x3041, 0x3096), (0x309D, 0x309F), (0x30A1, 0x30FA),
    (0x30FD, 0x30FF), (0x31F0, 0x31FF), (0x3400, 0x4DBF), (0x4E00, 0x9FFF), (0x1B000, 0x1B167),
    (0x20000, 0x3134A)] c

/-- Arabic digits. -/
def isArabicDigit (c : CodePoint) : Bool := isIn [(0x660, 0x669)] c

/-- Arabic digits of the eastern kind. -/
def isEasternDigit (c : CodePoint) : Bool := isIn [(0x6F0, 0x6F9)] c

/-- Three letters that are other letters as soon as they are in lower case. -/
def isUnitLetter (c : CodePoint) : Bool := c.val = 0x2126 || c.val = 0x212A || c.val = 0x212B

/-- Whether a sign may stand between others of a label. -/
def isAllowedAmong (before after whole : Text) (c : CodePoint) : Bool :=
  let follows (p : CodePoint → Bool) : Bool := before.head?.any p
  let precedes (p : CodePoint → Bool) : Bool := after.head?.any p
  let isJoiner (d : CodePoint) : Bool := Text.classOf d = Text.joinerClass
  let joins (t : Text) (p : CodePoint → Bool) : Bool := (t.dropWhile Text.isThroughJoin).head?.any p
  let isEl (c : CodePoint) : Bool := c.toLowerAscii = CodePoint.ofChar 'l'
  if c.isAscii then c.isLetter || c.isDigit || c = CodePoint.ofChar '-'
  else if c.val = 0xB7 then follows isEl && precedes isEl
  else if c.val = 0x375 then precedes isGreek
  else if c.val = 0x5F3 || c.val = 0x5F4 then follows isHebrew
  else if c.val = 0x30FB then whole.any isJapanese
  else if c.val = 0x200C then
    follows isJoiner || (joins before Text.joinsAfter && joins after Text.joinsBefore)
  else if c.val = 0x200D then follows isJoiner
  else if isArabicDigit c then !whole.any isEasternDigit
  else if isEasternDigit c then !whole.any isArabicDigit
  else Text.isWordPoint c || isUnitLetter c

/-- Whether all signs of a label may stand where they do; those before are in reverse. -/
def areAllowed (whole : Text) : Text → Text → Bool
  | _, [] => true
  | before, c :: r => isAllowedAmong before r whole c && areAllowed whole (c :: before) r

/-! ## §2. Directions -/

/-- Whether a label that holds signs read from right to left is read from right to left as a
whole. -/
def isReadLeftward (t : Text) : Bool :=
  let ds := t.map Text.directionOf
  let ending := (ds.reverse.dropWhile (· = .attached)).head?
  ds.head? = some .leftward && !ds.contains .rightward
    && ending.any (fun d => d = .leftward || d = .digit || d = .arabicDigit)
    && !(ds.contains .digit && ds.contains .arabicDigit)

/-- Whether a label is read in one direction. -/
def hasOneDirection (t : Text) : Bool :=
  let ds := t.map Text.directionOf
  (!ds.contains .leftward && !ds.contains .arabicDigit) || isReadLeftward t

/-! ## §3. Labels -/

/-- The longest label in ASCII. -/
def maxLength : Nat := 63

/-- A label in ASCII, behind the mark of foreign scripts. -/
def ascii (t : Text) : Text := "xn--" ++ Punycode.encode t

/-- Whether the hyphens of a label stand between other signs, and none of them where the mark of
foreign scripts has its own. -/
def hasInnerHyphens (t : Text) : Bool :=
  !Text.startsWith t "-" && !Text.endsWith t "-" && !Text.startsWith (t.drop 2) "--"

/-- Whether a label in another script is one. -/
def isForeign (t : Text) : Bool :=
  let t := Text.lowerAscii t
  Text.composed t = t && hasInnerHyphens t && !t.head?.any Text.isMark && areAllowed t [] t
    && hasOneDirection t && (ascii t).length ≤ maxLength

/-- Whether a text is a label. -/
def isValid (t : Text) : Bool := t.isAscii || isForeign t

/-- A whole host in ASCII, if all of its labels are held to the rules of other scripts; the last of
them may be empty. -/
def asciiHost? (host : Text) : Option Text :=
  (go (Text.splitOn '.' (Text.lowerAscii host))).map (Text.joinWith ".")
where
  go : List Text → Option (List Text)
    | [] => some []
    | l :: r =>
      if l.isEmpty then (if r.isEmpty then some [[]] else none)
      else if isForeign l then (go r).map ((if l.isAscii then l else ascii l) :: ·)
      else none

end SealedDrop.Http.Label
