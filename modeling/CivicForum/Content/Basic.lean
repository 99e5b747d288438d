import CivicForum.Named
import CivicForum.Time.Timestamp

/-! # Content and flags on it

* `Content.Kind`: ideas and comments.
* `Idea`, `Comment`: what users write, as far as bulk removal touches it.
* `Flag`: a report that some content breaks the rules.
-/

set_option autoImplicit false

namespace CivicForum

inductive Content.Kind where
  | idea
  | comment
  deriving Repr, DecidableEq, Inhabited

instance Content.Kind.named : Named Content.Kind where
  all := [.idea, .comment]
  wire
    | .idea => "idea"
    | .comment => "comment"
  title
    | .idea => "Idea"
    | .comment => "Comment"

/-! ## Ideas and comments -/


/-- An idea of a user; `status` is the text that the rest of the platform keeps. -/
structure Idea where
  id : Int
  userId : Int
  status : String
  isDeleted : Bool
  deletedAt : Option Instant
  deletionReason : Option String
  deriving Repr, DecidableEq

/-- A comment of a user. -/
structure Comment where
  id : Int
  userId : Int
  isApproved : Bool
  isDeleted : Bool
  deletedAt : Option Instant
  deletionReason : Option String
  deriving Repr, DecidableEq

/-- The idea awaits approval and has not been removed. -/
def Idea.isPending (i : Idea) : Bool := i.status = "pending" && !i.isDeleted

/-- The comment awaits approval and has not been removed. -/
def Comment.isPending (c : Comment) : Bool := !c.isApproved && !c.isDeleted

/-! ## Flags -/

inductive Flag.Status where
  | pending
  | upheld
  | dismissed
  deriving Repr, DecidableEq, Inhabited

instance Flag.Status.named : Named Flag.Status where
  all := [.pending, .upheld, .dismissed]
  wire
    | .pending => "pending"
    | .upheld => "upheld"
    | .dismissed => "dismissed"
  title
    | .pending => "Pending"
    | .upheld => "Upheld"
    | .dismissed => "Dismissed"

/-- A report on a piece of content. -/
structure Flag where
  id : Int
  contentKind : Content.Kind
  contentId : Int
  reporterId : Int
  reason : String
  details : Option String
  status : Flag.Status
  createdAt : Instant
  deriving Repr, DecidableEq

/-- The row as JSON. -/
def Flag.toJson (f : Flag) : Json :=
  .record
    [("id", .int f.id), ("content_type", Named.toJson f.contentKind),
     ("content_id", .int f.contentId), ("reporter_id", .int f.reporterId),
     ("reason", .text f.reason), ("details", .ofOption .text f.details),
     ("status", Named.toJson f.status), ("created_at", .text (Timestamp.write f.createdAt))]

end CivicForum
