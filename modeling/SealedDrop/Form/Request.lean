/-
  SealedDrop.Form.Request
  ───────────────────────
  **THE DOCUMENTS THAT CLIENTS AND SERVER EXCHANGE.**

  A client signs the compact JSON of an inner request and sends it inside a
  `SignedPayload`.  The inner requests of the secrets endpoints are closed
  forms: a key that the form does not have is an error, which keeps a payload
  signed for one endpoint from being read by another.
-/
import SealedDrop.Form.Reading

namespace SealedDrop.Form

/-- Builds an object from names and values. -/
def objectOf (ms : List (Text × Json)) : Json := .object ms

/-! ## §1. Requests -/

/-- A new account: a name and a public key in base64. -/
structure Registration where
  /-- The name. -/
  username : Text
  /-- The public key, in base64. -/
  publicKey : Text
  deriving DecidableEq, Repr

instance : Document Registration where
  title := "RegisterAccount"
  closed := none
  fields o := Checked.both ((field text o "username").map Registration.mk) (field text o "public_key")
  write r := objectOf [("username", .text r.username), ("public_key", .text r.publicKey)]

/-- A new secret: its owner, envelope, deadline, and whether one read uses it up. -/
structure Creation where
  /-- The owner. -/
  username : Text
  /-- The envelope. -/
  data : Text
  /-- The deadline. -/
  expiresAt : Stamp
  /-- Whether one read uses it up. -/
  singleUse : Bool
  deriving DecidableEq, Repr

instance : Document Creation where
  title := "CreateSharedSecretRequest"
  closed := some ["username", "data", "expires_at", "single_use"]
  fields o :=
    Checked.both (Checked.both (Checked.both ((field text o "username").map Creation.mk)
      (field text o "data")) (field stamp o "expires_at")) (fieldOr false bool o "single_use")
  write r := objectOf
    [("username", .text r.username), ("data", .text r.data),
     ("expires_at", .text r.expiresAt.wireText), ("single_use", .bool r.singleUse)]

/-- A request for the secrets of an owner. -/
structure Listing where
  /-- The owner. -/
  username : Text
  deriving DecidableEq, Repr

instance : Document Listing where
  title := "ListSharedSecretsRequest"
  closed := some ["username"]
  fields o := (field text o "username").map Listing.mk
  write r := objectOf [("username", .text r.username)]

/-- A request to expire a secret. -/
structure Expiration where
  /-- The owner. -/
  username : Text
  /-- The secret. -/
  id : Text
  deriving DecidableEq, Repr

instance : Document Expiration where
  title := "ExpireSharedSecretRequest"
  closed := some ["username", "id"]
  fields o := Checked.both ((field text o "username").map Expiration.mk) (field text o "id")
  write r := objectOf [("username", .text r.username), ("id", .text r.id)]

/-- A signed request: the text that was signed, its signature in base64, and who signed. -/
structure SignedPayload where
  /-- The signed text. -/
  payload : Text
  /-- The signature, in base64. -/
  signature : Text
  /-- Who signed. -/
  username : Text
  deriving DecidableEq, Repr

instance : Document SignedPayload where
  title := "SignedPayload"
  closed := none
  fields o :=
    Checked.both (Checked.both ((field text o "payload").map SignedPayload.mk)
      (field text o "signature")) (field text o "username")
  write r := objectOf
    [("payload", .text r.payload), ("signature", .text r.signature), ("username", .text r.username)]

/-! ## §2. Answers -/

/-- The answer to a creation. -/
structure Created where
  /-- The id of the new secret. -/
  id : Text
  deriving DecidableEq, Repr

instance : Document Created where
  title := "CreateSharedSecretResponse"
  closed := some ["id"]
  fields o := (field text o "id").map Created.mk
  write r := objectOf [("id", .text r.id)]

/-- The answer to an expiration. -/
structure Expired where
  /-- Whether it was carried out. -/
  success : Bool
  deriving DecidableEq, Repr

instance : Document Expired where
  title := "ExpireSharedSecretResponse"
  closed := some ["success"]
  fields o := (field bool o "success").map Expired.mk
  write r := objectOf [("success", .bool r.success)]

/-! ## §3. Views -/

/-- What every view of a secret shows. -/
structure ViewHead where
  /-- The secret. -/
  id : Text
  /-- Its owner. -/
  owner : Text
  /-- When it was created. -/
  createdAt : Stamp
  /-- Its deadline. -/
  expiresAt : Stamp
  /-- Whether one read uses it up. -/
  singleUse : Bool
  deriving DecidableEq, Repr

/-- The common fields of a view. -/
def viewHead (o : Members) : Checked ViewHead :=
  Checked.both (Checked.both (Checked.both (Checked.both
    ((field text o "id").map ViewHead.mk) (field text o "owner_id"))
    (field stamp o "created_at")) (field stamp o "expires_at")) (field bool o "single_use")

/-- The object of a view. -/
def ViewHead.object (v : ViewHead) (expired : Bool) (data : Json) : Json :=
  objectOf
    [("id", .text v.id), ("owner_id", .text v.owner), ("created_at", .text v.createdAt.wireText),
     ("expires_at", .text v.expiresAt.wireText), ("single_use", .bool v.singleUse),
     ("expired", .bool expired), ("data", data)]

/-- The view of a secret that can be read. -/
structure LiveView where
  /-- The common part. -/
  head : ViewHead
  /-- The envelope. -/
  data : Text
  deriving DecidableEq, Repr

instance : Document LiveView where
  title := "LiveSharedSecret"
  closed := none
  fields o :=
    Checked.both (Checked.both ((viewHead o).map fun h (_ : Unit) d => LiveView.mk h d)
      (fieldOr () (literal false) o "expired")) (field text o "data")
  write v := v.head.object false (.text v.data)

/-- The view of a secret that is gone. -/
structure ExpiredView where
  /-- The common part. -/
  head : ViewHead
  deriving DecidableEq, Repr

instance : Document ExpiredView where
  title := "ExpiredSharedSecret"
  closed := none
  fields o :=
    Checked.both (Checked.both ((viewHead o).map fun h (_ _ : Unit) => ExpiredView.mk h)
      (fieldOr () (literal true) o "expired")) (fieldOr () null o "data")
  write v := v.head.object true .null

/-- The view for anonymous readers, which does not name the owner. -/
structure PublicView where
  /-- The secret. -/
  id : Text
  /-- When it was created. -/
  createdAt : Stamp
  /-- Its deadline. -/
  expiresAt : Stamp
  /-- Whether one read uses it up. -/
  singleUse : Bool
  /-- The envelope. -/
  data : Text
  deriving DecidableEq, Repr

instance : Document PublicView where
  title := "PublicSharedSecret"
  closed := none
  fields o :=
    Checked.both (Checked.both (Checked.both (Checked.both (Checked.both
      ((field text o "id").map fun i c e s (_ : Unit) d => PublicView.mk i c e s d)
      (field stamp o "created_at")) (field stamp o "expires_at")) (field bool o "single_use"))
      (fieldOr () (literal false) o "expired")) (field text o "data")
  write v := objectOf
    [("id", .text v.id), ("created_at", .text v.createdAt.wireText),
     ("expires_at", .text v.expiresAt.wireText), ("single_use", .bool v.singleUse),
     ("expired", .bool false), ("data", .text v.data)]

end SealedDrop.Form
