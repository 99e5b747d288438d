import CivicForum.Json.Format
import CivicForum.Time.Timestamp

/-! # Members of the forum

* `Member`: the columns of a user that moderation reads and writes.
* `Member.registeredAt?`: the instant of registration.
* `Member.Counter`: the three counters that reputation events raise.
-/

set_option autoImplicit false

namespace CivicForum

/-- A user of the forum. -/
structure Member where
  id : Int
  username : String
  isAdmin : Bool
  /-- Comments need approval whatever the score says. -/
  approvalOverride : Bool
  trustScore : Int
  approvedComments : Int
  upheldFlags : Int
  validatedReports : Int
  /-- The time of registration as it was stored. -/
  createdAt : String
  deriving Repr, DecidableEq

namespace Member

/-- The instant of registration, if the stored text can be read. -/
def registeredAt? (m : Member) : Option Instant := Timestamp.read? m.createdAt

/-- A counter that a reputation event raises. -/
inductive Counter where
  | approvedComments
  | upheldFlags
  | validatedReports
  deriving Repr, DecidableEq

/-- The column that holds a counter. -/
def Counter.column : Counter → String
  | .approvedComments => "approved_comments_count"
  | .upheldFlags => "valid_flags_received"
  | .validatedReports => "flags_submitted_validated"

def counter (m : Member) : Counter → Int
  | .approvedComments => m.approvedComments
  | .upheldFlags => m.upheldFlags
  | .validatedReports => m.validatedReports

/-- One more event of this kind. -/
def bump (m : Member) : Counter → Member
  | .approvedComments => { m with approvedComments := m.approvedComments + 1 }
  | .upheldFlags => { m with upheldFlags := m.upheldFlags + 1 }
  | .validatedReports => { m with validatedReports := m.validatedReports + 1 }

/-! ## JSON -/

/-- The JSON form of a user, all columns present. -/
def format : Json.Format :=
  .record
    [{ name := "id", format := .int }, { name := "username", format := .text },
     { name := "is_global_admin", format := .truth },
     { name := "requires_comment_approval", format := .truth },
     { name := "trust_score", format := .int },
     { name := "approved_comments_count", format := .int },
     { name := "valid_flags_received", format := .int },
     { name := "flags_submitted_validated", format := .int },
     { name := "created_at", format := .text }]

/-- The user that a value in the canonical form means. -/
def ofJson? (v : Json) : Option Member := do
  return {
    id := ← (← v.field? "id").int?
    username := ← (← v.field? "username").text?
    isAdmin := ← (← v.field? "is_global_admin").truth?
    approvalOverride := ← (← v.field? "requires_comment_approval").truth?
    trustScore := ← (← v.field? "trust_score").int?
    approvedComments := ← (← v.field? "approved_comments_count").int?
    upheldFlags := ← (← v.field? "valid_flags_received").int?
    validatedReports := ← (← v.field? "flags_submitted_validated").int?
    createdAt := ← (← v.field? "created_at").text? }

/-- The row as JSON. -/
def toJson (m : Member) : Json :=
  .record
    [("id", .int m.id), ("username", .text m.username), ("is_global_admin", .truth m.isAdmin),
     ("requires_comment_approval", .truth m.approvalOverride), ("trust_score", .int m.trustScore),
     ("approved_comments_count", .int m.approvedComments),
     ("valid_flags_received", .int m.upheldFlags),
     ("flags_submitted_validated", .int m.validatedReports), ("created_at", .text m.createdAt)]

end Member

end CivicForum
