/-
  SealedDrop.Server.Banner
  ────────────────────────
  **WHAT THE SERVER SAYS WHEN IT STARTS.**
-/
import SealedDrop.Journal.Entry

namespace SealedDrop.Server

/-- The lines of the configured title, and that the server starts. -/
def banner (title : Text) : List Journal.Entry :=
  (Text.splitOn '\n' title).map Journal.Entry.info ++ [.info "Starting secret sharing server"]

end SealedDrop.Server
