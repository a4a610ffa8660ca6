/-
  SealedDrop.Proofs.Server.Account
  ────────────────────────────────
  **HOW THE ACCOUNTS TAKE A NAME.**

  `register` is given a name and the text of a key.  It looks at the text first and
  at the name afterwards, and each look can turn the registration down for a
  reason of its own.  All the ways in which it can end are listed once, in
  `Registering`; whoever asks what a registration does asks that list.

      IsKey        — a text is strict base64 of a key
      Registrable  — a name and a text that can be registered
      Registering  — how a registration ends

  Main results:
    • `registering_register` — a registration ends in one of these ways,
    • `register_eq_ok_iff` — it adds an account iff name and text allow it.
-/
import SealedDrop.Proofs.Codec.Base64
import SealedDrop.Proofs.Text.Utf8
import SealedDrop.Server.Account

namespace SealedDrop.Server

/-! ## §1. Names and keys -/

/-- A text is strict base64 of a key. -/
structure IsKey (publicKey : Text) (key : Bytes) : Prop where
  spells : Base64.Spells publicKey key
  sized : key.length = Signature.keySize

/-- A name and the text of a key can be registered, and the text stands for this key. -/
structure Registrable (as : Accounts) (username publicKey : Text) (key : Bytes) : Prop where
  /-- The text is base64 of the key. -/
  ascii : publicKey.isAscii = true
  /-- It stands for the key. -/
  decoded : Base64.decode? publicKey = some key
  /-- The key has the length of a key. -/
  sized : key.length = Signature.keySize
  /-- The name can be written. -/
  scalar : username.isScalar = true
  /-- The name is free. -/
  free : as.find? username = none

/-! ## §2. Registrations -/

section Registrations

variable {as : Accounts} {username publicKey : Text}

/-- How a registration of a name with the text of a key ends. -/
inductive Registering (as : Accounts) (username publicKey : Text) :
    Except RegistrationFault (Nat × Accounts) → Prop where
  | foreignKey (foreign : publicKey.isAscii = false) :
      Registering as username publicKey (.error .foreignKey)
  | badKey (ascii : publicKey.isAscii = true) (unfit : ¬ ∃ key, IsKey publicKey key) :
      Registering as username publicKey (.error .badKey)
  | unencodable {key : Bytes} (isKey : IsKey publicKey key) (surrogate : username.isScalar = false)
      (fault : Unencodable) : Registering as username publicKey (.error (.unencodable fault))
  | nameTaken {key : Bytes} (isKey : IsKey publicKey key) (scalar : username.isScalar = true)
      (taken : as.find? username ≠ none) : Registering as username publicKey (.error .nameTaken)
  | added {key : Bytes} (isKey : IsKey publicKey key) (scalar : username.isScalar = true)
      (free : as.find? username = none) :
      Registering as username publicKey (.ok (as.length + 1, as.add username key))

/-- **The accounts take a name in one of these ways.** -/
theorem registering_register (as : Accounts) (username publicKey : Text) :
    Registering as username publicKey (register as username publicKey) := by
  unfold register
  -- in the order of the program: the text of the key, its octets, its size, then the row
  cases hascii : publicKey.isAscii with
  | false => exact .foreignKey hascii
  | true =>
    rw [if_neg (by simp)]
    cases hdecoded : Base64.decode? publicKey with
    | none =>
      refine .badKey hascii ?_
      rintro ⟨key, hkey⟩
      exact Base64.decode?_eq_none_iff.mp hdecoded ⟨key, hkey.spells⟩
    | some key =>
      have hspells := Base64.decode?_eq_some_iff.mp hdecoded
      dsimp only
      by_cases hsized : key.length = Signature.keySize
      · rw [if_neg (not_not_intro hsized)]
        have hkey : IsKey publicKey key := ⟨hspells, hsized⟩
        cases hname : Utf8.firstSurrogates username with
        | some fault =>
          refine .unencodable hkey ?_ fault
          rw [← Bool.not_eq_true, ← Utf8.firstSurrogates_eq_none_iff, hname]
          simp
        | none =>
          have hscalar := Utf8.firstSurrogates_eq_none_iff.mp hname
          dsimp only
          cases hfind : as.find? username with
          | some a => exact .nameTaken hkey hscalar (by simp [hfind])
          | none => exact .added hkey hscalar hfind
      · rw [if_pos hsized]
        refine .badKey hascii ?_
        rintro ⟨key', hkey⟩
        obtain rfl := hspells.unique hkey.spells
        exact hsized hkey.sized

/-- **A registration adds one account, with the next number, iff name and key allow it.** -/
theorem register_eq_ok_iff {as' : Accounts} {id : Nat} :
    register as username publicKey = .ok (id, as') ↔
      ∃ key, Registrable as username publicKey key ∧ id = as.length + 1
        ∧ as' = as.add username key := by
  constructor
  · intro h
    have hregistering := registering_register as username publicKey
    rw [h] at hregistering
    cases hregistering with
    | added isKey scalar free =>
      exact ⟨_, ⟨isKey.spells.isAscii, Base64.decode?_eq_some_iff.mpr isKey.spells, isKey.sized,
        scalar, free⟩, rfl, rfl⟩
  · rintro ⟨key, h, rfl, rfl⟩
    unfold register
    rw [h.ascii, h.decoded, Utf8.firstSurrogates_eq_none_iff.mpr h.scalar, h.free]
    exact if_neg (not_not_intro h.sized)

end Registrations

end SealedDrop.Server
