/-
  SealedDrop.Server.Account
  ─────────────────────────
  **WHO MAY SIGN.**

  An account ties a name to a public key.  Accounts are numbered from one in
  order of registration, a name is taken for ever once it is registered, and
  nothing changes an account.
-/
import SealedDrop.Codec
import SealedDrop.Signature

namespace SealedDrop.Server

/-- A registered signer. -/
structure Account where
  /-- Its number. -/
  id : Nat
  /-- Its name. -/
  username : Text
  /-- Its public key. -/
  publicKey : Bytes
  deriving DecidableEq, Repr

/-- All accounts, in order of registration. -/
abbrev Accounts := List Account

namespace Accounts

/-- The account of a name. -/
def find? (as : Accounts) (username : Text) : Option Account :=
  List.find? (fun a => a.username = username) as

/-- The accounts with one more. -/
def add (as : Accounts) (username : Text) (key : Bytes) : Accounts :=
  as ++ [⟨as.length + 1, username, key⟩]

end Accounts

/-- Why a registration is refused. -/
inductive RegistrationFault where
  /-- The key is no base64 of the right length. -/
  | badKey
  /-- The key is not even ASCII. -/
  | foreignKey
  /-- The name is taken. -/
  | nameTaken
  /-- The name has no UTF-8 form. -/
  | unencodable (fault : Unencodable)
  deriving DecidableEq, Repr

/-- The accounts after a registration, and the number of the new one. -/
def register (as : Accounts) (username publicKey : Text) :
    Except RegistrationFault (Nat × Accounts) :=
  if !publicKey.isAscii then .error .foreignKey
  else
    match Base64.decode? publicKey with
    | none => .error .badKey
    | some key =>
      if key.length ≠ Signature.keySize then .error .badKey
      else
        match Utf8.firstSurrogates username with
        | some e => .error (.unencodable e)
        | none =>
          if (as.find? username).isSome then .error .nameTaken
          else .ok (as.length + 1, as.add username key)

end SealedDrop.Server
