import CivicForum.Named
import CivicForum.Time.Timestamp

/-! # Appeals

* `Appeal`: the single appeal against a penalty.
* `Appeal.Status`: pending, and the two outcomes.
* `Appeal.Decision`: what a reviewer decides.
-/

set_option autoImplicit false

namespace CivicForum

inductive Appeal.Status where
  | pending
  | approved
  | rejected
  deriving Repr, DecidableEq, Inhabited

instance Appeal.Status.named : Named Appeal.Status where
  all := [.pending, .approved, .rejected]
  wire
    | .pending => "pending"
    | .approved => "approved"
    | .rejected => "rejected"
  title
    | .pending => "Pending"
    | .approved => "Approved"
    | .rejected => "Rejected"

/-- What a reviewer decides on a pending appeal. -/
inductive Appeal.Decision where
  | approve
  | reject
  deriving Repr, DecidableEq, Inhabited

instance Appeal.Decision.named : Named Appeal.Decision where
  all := [.approve, .reject]
  wire
    | .approve => "approve"
    | .reject => "reject"
  title
    | .approve => "Approve"
    | .reject => "Reject"

/-- The appeal of a user against a penalty. Reviewer, time of review and notes come with the
review. -/
structure Appeal where
  id : Int
  penaltyId : Int
  userId : Int
  reason : String
  status : Appeal.Status
  createdAt : Instant
  reviewedBy : Option Int
  reviewedAt : Option Instant
  reviewNotes : Option String
  deriving Repr, DecidableEq

/-- The row as JSON. -/
def Appeal.toJson (a : Appeal) : Json :=
  .record
    [("id", .int a.id), ("penalty_id", .int a.penaltyId), ("user_id", .int a.userId),
     ("reason", .text a.reason), ("status", Named.toJson a.status),
     ("created_at", .text (Timestamp.write a.createdAt)),
     ("reviewed_by", .ofOption .int a.reviewedBy),
     ("reviewed_at", .ofOption (fun t => .text (Timestamp.write t)) a.reviewedAt),
     ("review_notes", .ofOption .text a.reviewNotes)]

end CivicForum
