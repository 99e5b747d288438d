import CivicForum.Appeal.Basic
import CivicForum.Content.Basic
import CivicForum.Member.Basic
import CivicForum.Penalty.Basic
import CivicForum.Store.Table
import CivicForum.Watch.Entry

/-! # The store

* `Store`: the tables of the forum.
* `Store.user?`, `Store.activePenalty?`, `Store.penaltiesOf`, …: what the services look up.
* `Store.toJson`: everything in it as JSON.
-/

set_option autoImplicit false

namespace CivicForum

instance : Keyed Member := ⟨Member.id⟩
instance : Keyed Penalty := ⟨Penalty.id⟩
instance : Keyed Appeal := ⟨Appeal.id⟩
instance : Keyed Watch.Entry := ⟨Watch.Entry.id⟩
instance : Keyed Flag := ⟨Flag.id⟩
instance : Keyed Idea := ⟨Idea.id⟩
instance : Keyed Comment := ⟨Comment.id⟩

/-- The tables of the forum. -/
structure Store where
  users : Table Member := {}
  penalties : Table Penalty := {}
  appeals : Table Appeal := {}
  keywords : Table Watch.Entry := {}
  flags : Table Flag := {}
  ideas : Table Idea := {}
  comments : Table Comment := {}
  /-- The storage itself refuses a second active penalty of a user. -/
  oneActiveIndex : Bool := true
  deriving Repr, DecidableEq

namespace Store

/-! ## Look-up -/

def user? (s : Store) (id : Int) : Option Member := s.users.find? id

def penalty? (s : Store) (id : Int) : Option Penalty := s.penalties.find? id

def appeal? (s : Store) (id : Int) : Option Appeal := s.appeals.find? id

/-- The appeal with this identifier, as long as it is pending. -/
def pendingAppeal? (s : Store) (id : Int) : Option Appeal :=
  (s.appeal? id).filter fun a => a.status = .pending

/-- The user's active penalty, whether or not its end has passed. -/
def activePenalty? (s : Store) (userId : Int) : Option Penalty :=
  s.penalties.rows.find? fun p => p.userId = userId ∧ p.status = .active

/-- The user's penalties, newest first. -/
def penaltiesOf (s : Store) (userId : Int) : List Penalty :=
  (s.penalties.rows.filter fun p => p.userId = userId).reverse

/-- The active penalties whose end has come, of all users. -/
def duePenalties (s : Store) (now : Instant) : List Penalty :=
  s.penalties.rows.filter fun p => p.status = .active && p.hasElapsed now

/-- There is an appeal against the penalty. -/
def hasAppeal (s : Store) (penaltyId : Int) : Bool :=
  s.appeals.rows.any fun a => a.penaltyId = penaltyId

/-- The pending appeals, oldest first. -/
def pendingAppeals (s : Store) : List Appeal :=
  s.appeals.rows.filter fun a => a.status = .pending

/-- The user's appeals, newest first. -/
def appealsOf (s : Store) (userId : Int) : List Appeal :=
  (s.appeals.rows.filter fun a => a.userId = userId).reverse

/-- The entries of the watchlist that are switched on. -/
def activeKeywords (s : Store) : List Watch.Entry := s.keywords.rows.filter (·.isActive)

/-- The pending flags on a piece of content. -/
def pendingFlags (s : Store) (kind : Content.Kind) (contentId : Int) : List Flag :=
  s.flags.rows.filter fun f =>
    f.contentKind = kind ∧ f.contentId = contentId ∧ f.status = .pending

/-! ## JSON -/

/-- A removable piece of content as JSON. -/
def removalJson (id userId : Int) (isDeleted : Bool) (at? : Option Instant)
    (reason : Option String) : Json :=
  .record
    [("id", .int id), ("user_id", .int userId), ("is_deleted", .truth isDeleted),
     ("deleted_at", .ofOption (fun t => .text (Timestamp.write t)) at?),
     ("deletion_reason", .ofOption .text reason)]

/-- Every table as JSON, rows in the order of their identifiers. -/
def toJson (s : Store) : Json :=
  .record
    [("users", .list ((s.users.rows.mergeSort fun a b => a.id ≤ b.id).map Member.toJson)),
     ("penalties", .list (s.penalties.rows.map Penalty.toJson)),
     ("appeals", .list (s.appeals.rows.map Appeal.toJson)),
     ("keywords", .list (s.keywords.rows.map Watch.Entry.toJson)),
     ("flags", .list (s.flags.rows.map Flag.toJson)),
     ("ideas", .list (s.ideas.rows.map fun i =>
       removalJson i.id i.userId i.isDeleted i.deletedAt i.deletionReason)),
     ("comments", .list (s.comments.rows.map fun c =>
       removalJson c.id c.userId c.isDeleted c.deletedAt c.deletionReason))]

end Store

end CivicForum
