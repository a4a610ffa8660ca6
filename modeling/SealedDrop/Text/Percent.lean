/-
  SealedDrop.Text.Percent
  ───────────────────────
  **TEXTS WITH PERCENT ESCAPES.**

  Inside an address an octet that may not stand for itself is written as a
  percent sign and two hexadecimal digits.  Which signs may stand for
  themselves depends on the part of the address; the escape does not.

      Percent.encode keep  — escapes the UTF-8 octets of every other sign
      Percent.decode       — the text that the escapes stand for, read
                             leniently: what is no UTF-8 becomes U+FFFD

  Main statement: a text of kept signs is its own escaped form
  (`Percent.encode_of_all`).
-/
import SealedDrop.Text.Utf8

namespace SealedDrop.Percent

/-! ## §1. Writing -/

/-- Signs that need no escape anywhere in an address. -/
def isUnreserved (c : CodePoint) : Bool :=
  c.isLetter || c.isDigit || List.contains (Text.ofString "._-~") c

/-- An octet as an escape with upper-case digits. -/
def ofOctet (b : UInt8) : Text :=
  CodePoint.ofChar '%' :: (Text.hex 2 b.toNat).map CodePoint.toUpperAscii

/-- A text in which every sign but those to keep is escaped. -/
def encode (keep : CodePoint → Bool) (t : Text) : Text :=
  t.flatMap fun (c : CodePoint) => if keep c then [c] else (Utf8.encodePoint c).flatMap ofOctet

/-! ## §2. Reading -/

/-- The octet that two hexadecimal digits at the head stand for. -/
def octet? : Text → Option UInt8
  | a :: b :: _ =>
    match a.hexDigit?, b.hexDigit? with
    | some x, some y => some (UInt8.ofNat (x * 16 + y))
    | _, _ => none
  | _ => none

/-- The octets of a text in which escapes stand for octets; a percent sign without two digits
after it stands for itself. -/
def octets (t : Text) : Bytes :=
  go t 0
where
  /-- `skip` code points still belong to the last escape. -/
  go : Text → Nat → Bytes
    | [], _ => []
    | _ :: r, skip + 1 => go r skip
    | c :: r, 0 =>
      if c = '%' then
        match octet? r with
        | some b => b :: go r 2
        | none => 0x25 :: go r 0
      else Utf8.encodePoint c ++ go r 0

/-- The text that a text with escapes stands for. -/
def decode (t : Text) : Text := Utf8.decodeLossy (octets t)

/-- Whether a text starts with two hexadecimal digits. -/
def startsWithOctet (t : Text) : Bool := (octet? t).isSome

/-- Whether every percent sign starts an escape. -/
def isEscaped : Text → Bool
  | [] => true
  | c :: r => (c ≠ CodePoint.ofChar '%' || startsWithOctet r) && isEscaped r

/-! ## §3. Small laws -/

theorem encode_of_all {keep : CodePoint → Bool} {t : Text} (h : t.all keep = true) :
    encode keep t = t := by
  induction t with
  | nil => rfl
  | cons c r ih =>
    rw [List.all_cons, Bool.and_eq_true] at h
    have hr := ih h.2
    unfold encode at hr ⊢
    rw [List.flatMap_cons, hr, if_pos h.1]
    rfl

end SealedDrop.Percent
