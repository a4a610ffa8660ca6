/-
  SealedDrop.Link
  ───────────────
  **LINKS HANDED TO RECIPIENTS.**

  A link is the public address of the service, a fixed path and the id of the
  secret.  Slashes at the end of the address or of the link do not matter, and
  whoever has only the id may use it in place of the link.
-/
import SealedDrop.Text.Basic

namespace SealedDrop.Link

/-- The slash. -/
def slash : CodePoint := 0x2F

/-- The link of a secret. -/
def ofId (publicUrl id : Text) : Text :=
  Text.stripRight slash publicUrl ++ "/secret-sharing/" ++ id

/-- The id in a link, or in a bare id. -/
def toId (linkOrId : Text) : Text := Text.afterLast slash (Text.stripRight slash linkOrId)

end SealedDrop.Link
