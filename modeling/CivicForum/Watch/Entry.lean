import CivicForum.Json.Value
import CivicForum.Time.Timestamp

/-! # Entries of the watchlist

* `Watch.Entry`: a keyword or pattern that raises a flag on content it matches.
-/

set_option autoImplicit false

namespace CivicForum.Watch

/-- An entry of the watchlist. -/
structure Entry where
  id : Int
  keyword : String
  /-- The keyword is a pattern rather than plain text. -/
  isPattern : Bool
  flagReason : String
  isActive : Bool
  /-- How many flags the entry has raised. -/
  matchCount : Int
  createdAt : Instant
  deriving Repr, DecidableEq

/-- The row as JSON. -/
def Entry.toJson (e : Entry) : Json :=
  .record
    [("id", .int e.id), ("keyword", .text e.keyword), ("is_regex", .truth e.isPattern),
     ("auto_flag_reason", .text e.flagReason), ("is_active", .truth e.isActive),
     ("match_count", .int e.matchCount), ("created_at", .text (Timestamp.write e.createdAt))]

end CivicForum.Watch
