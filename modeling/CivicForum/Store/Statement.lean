import CivicForum.Store.Work

/-! # Statements

Each statement reads and writes one table, checks the constraints of the table at its end, and is
the only thing that writes.

* `Statement.lockUser`, `setTrustScore`, `raiseCounter`, `insertUser`, `ensureUser`: users.
* `Statement.insertPenalty`, `setPenaltyStatus`, `markRevoked`: penalties.
* `Statement.insertAppeal`, `resolveAppeal`: appeals.
* `Statement.removeIdeas`, `removeComments`, `insertIdea`, `insertComment`: content.
* `Statement.insertFlag`, `setFlagStatus`: flags.
* `Statement.insertKeyword`, `setKeywordActive`, `recordMatch`: the watchlist.
-/

set_option autoImplicit false

namespace CivicForum.Statement

open Work

/-! ## Constraints -/

/-- The identifier that a new row of a table gets. -/
def freshId {α : Type} [Keyed α] (t : Table α) : Work Int :=
  if t.nextId ≤ Text.wordMax then pure t.nextId else fault .full

/-- A reference to a user must lead to one. -/
def requireUser (s : Store) (id : Int) : Work Unit :=
  if s.users.contains id then pure () else fault .foreignKey

/-- A second active penalty of a user is refused when the storage enforces that. -/
def requireOneActive (s : Store) (userId : Int) (apartFrom : Option Int) : Work Unit :=
  if s.oneActiveIndex && s.penalties.rows.any (fun p =>
      p.userId = userId && p.status = .active && apartFrom ≠ some p.id) then
    fault (.duplicate "penalty.user_id")
  else pure ()

/-! ## Users -/

/-- Writes the user's row unchanged, and says whether there is one. -/
def lockUser (id : Int) : Work Bool := do
  let s ← current
  put s
  return s.users.contains id

def setTrustScore (id score : Int) : Work Unit := do
  let s ← current
  put { s with users := s.users.update id fun m => { m with trustScore := score } }

/-- One more event of this kind for the user; says whether there is such a user. -/
def raiseCounter (id : Int) (c : Member.Counter) : Work Bool := do
  let s ← current
  match s.user? id with
  | none => return false
  | some m =>
    if m.counter c < Text.wordMax then
      put { s with users := s.users.update id fun m => m.bump c }
      return true
    else fault (.overflow c.column)

/-- What the rest of the platform gives for a new user. The identifier and the time of registration
may be left open. -/
structure NewUser where
  id : Option Int := none
  username : String
  isAdmin : Bool := false
  approvalOverride : Bool := false
  trustScore : Int := 50
  approvedComments : Int := 0
  upheldFlags : Int := 0
  validatedReports : Int := 0
  createdAt : Option String := none
  deriving Repr, DecidableEq

/-- The identifier that a new user gets; one that is given is taken once. -/
def newUserId (s : Store) (u : NewUser) : Work Int :=
  match u.id with
  | some id => if s.users.contains id then fault (.duplicateKey "users.id") else pure id
  | none => freshId s.users

/-- Names of users are taken once. -/
def requireNewName (s : Store) (username : String) : Work Unit :=
  if s.users.rows.any fun m => m.username = username then fault (.duplicate "users.username")
  else pure ()

/-- Adds a user, who registers now unless another time is given. -/
def insertUser (u : NewUser) (now : Instant) : Work Member := do
  let s ← current
  let id ← newUserId s u
  requireNewName s u.username
  let m : Member := {
    id := id
    username := u.username
    isAdmin := u.isAdmin
    approvalOverride := u.approvalOverride
    trustScore := u.trustScore
    approvedComments := u.approvedComments
    upheldFlags := u.upheldFlags
    validatedReports := u.validatedReports
    createdAt := u.createdAt.getD (Timestamp.writeWithOffset now) }
  put { s with users := s.users.insert m }
  return m

/-- Adds a user unless the identifier or the name is taken. The identifier counts as given out even
then. -/
def ensureUser (id : Int) (username createdAt : String) : Work Unit := do
  let s ← current
  if s.users.rows.any fun m => m.id = id || m.username = username then
    put { s with users := s.users.reserve id }
  else
    let m : Member := {
      id := id
      username := username
      isAdmin := false
      approvalOverride := false
      trustScore := 50
      approvedComments := 0
      upheldFlags := 0
      validatedReports := 0
      createdAt := createdAt }
    put { s with users := s.users.insert m }

/-! ## Penalties -/

/-- Adds an active penalty. -/
def insertPenalty (r : Penalty.Request) (now : Instant) : Work Penalty := do
  let s ← current
  let id ← freshId s.penalties
  requireOneActive s r.userId none
  requireUser s r.userId
  requireUser s r.issuedBy
  let p : Penalty := {
    id := id
    userId := r.userId
    kind := r.kind
    status := .active
    reason := r.reason
    issuedBy := r.issuedBy
    issuedAt := now
    expiresAt := r.kind.length?.map now.plus
    relatedFlagIds := r.relatedFlagIds
    revokedBy := none
    revokedAt := none
    revokeReason := none }
  put { s with penalties := s.penalties.insert p }
  return p

def setPenaltyStatus (id : Int) (status : Penalty.Status) : Work Penalty := do
  let s ← current
  match s.penalty? id with
  | none => fault .rowNotFound
  | some p =>
    if status = .active then requireOneActive s p.userId (some id)
    put { s with penalties := s.penalties.update id fun p => { p with status := status } }
    return { p with status := status }

/-- Marks a penalty as revoked, whatever its status. -/
def markRevoked (id revokedBy : Int) (revokedAt : Instant) (reason : String) : Work Penalty := do
  let s ← current
  match s.penalty? id with
  | none => fault .rowNotFound
  | some p =>
    requireUser s revokedBy
    let revoke (p : Penalty) : Penalty :=
      { p with
        status := .revoked
        revokedBy := some revokedBy
        revokedAt := some revokedAt
        revokeReason := some reason }
    put { s with penalties := s.penalties.update id revoke }
    return revoke p

/-! ## Appeals -/

/-- Adds a pending appeal; a penalty has at most one. -/
def insertAppeal (penaltyId userId : Int) (reason : String) (now : Instant) : Work Appeal := do
  let s ← current
  let id ← freshId s.appeals
  if s.hasAppeal penaltyId then fault (.duplicate "appeal.penalty_id")
  if !s.penalties.contains penaltyId then fault .foreignKey
  requireUser s userId
  let a : Appeal := {
    id := id
    penaltyId := penaltyId
    userId := userId
    reason := reason
    status := .pending
    createdAt := now
    reviewedBy := none
    reviewedAt := none
    reviewNotes := none }
  put { s with appeals := s.appeals.insert a }
  return a

/-- Ends a pending appeal. -/
def resolveAppeal (id : Int) (status : Appeal.Status) (reviewedBy : Int) (reviewedAt : Instant)
    (notes : String) : Work Appeal := do
  let s ← current
  match s.appeal? id with
  | none => fault .rowNotFound
  | some a =>
    requireUser s reviewedBy
    let resolve (a : Appeal) : Appeal :=
      { a with
        status := status
        reviewedBy := some reviewedBy
        reviewedAt := some reviewedAt
        reviewNotes := some notes }
    put { s with appeals := s.appeals.update id resolve }
    return resolve a

/-! ## Content -/

/-- The idea as removed. -/
def removeIdea (reason : String) (now : Instant) (i : Idea) : Idea :=
  { i with isDeleted := true, deletedAt := some now, deletionReason := some reason }

/-- The comment as removed. -/
def removeComment (reason : String) (now : Instant) (c : Comment) : Comment :=
  { c with isDeleted := true, deletedAt := some now, deletionReason := some reason }

/-- Removes the user's ideas that await approval. -/
def removeIdeas (userId : Int) (reason : String) (now : Instant) : Work Unit := do
  let s ← current
  put { s with ideas := s.ideas.mapRows fun i =>
    if i.userId = userId && i.isPending then removeIdea reason now i else i }

/-- Removes the user's comments that await approval. -/
def removeComments (userId : Int) (reason : String) (now : Instant) : Work Unit := do
  let s ← current
  put { s with comments := s.comments.mapRows fun c =>
    if c.userId = userId && c.isPending then removeComment reason now c else c }

def insertIdea (userId : Int) (status : String) : Work Idea := do
  let s ← current
  let id ← freshId s.ideas
  requireUser s userId
  let i : Idea := ⟨id, userId, status, false, none, none⟩
  put { s with ideas := s.ideas.insert i }
  return i

def insertComment (userId : Int) (isApproved : Bool) : Work Comment := do
  let s ← current
  let id ← freshId s.comments
  requireUser s userId
  let c : Comment := ⟨id, userId, isApproved, false, none, none⟩
  put { s with comments := s.comments.insert c }
  return c

/-! ## Flags -/

/-- What a report says. -/
structure NewFlag where
  contentKind : Content.Kind
  contentId : Int
  reporterId : Int
  reason : String
  details : Option String := none
  status : Flag.Status := .pending
  deriving Repr, DecidableEq

def insertFlag (f : NewFlag) (now : Instant) : Work Flag := do
  let s ← current
  let id ← freshId s.flags
  requireUser s f.reporterId
  let f : Flag := ⟨id, f.contentKind, f.contentId, f.reporterId, f.reason, f.details, f.status, now⟩
  put { s with flags := s.flags.insert f }
  return f

/-- Sets the status of a flag, and says how many rows that touched. -/
def setFlagStatus (id : Int) (status : Flag.Status) : Work Nat := do
  let s ← current
  put { s with flags := s.flags.update id fun f => { f with status := status } }
  return if s.flags.contains id then 1 else 0

/-! ## Watchlist -/

def insertKeyword (keyword : String) (isPattern : Bool) (flagReason : String) (now : Instant) :
    Work Watch.Entry := do
  let s ← current
  let id ← freshId s.keywords
  let e : Watch.Entry := ⟨id, keyword, isPattern, flagReason, true, 0, now⟩
  put { s with keywords := s.keywords.insert e }
  return e

def setKeywordActive (id : Int) (isActive : Bool) : Work (Option Watch.Entry) := do
  let s ← current
  put { s with keywords := s.keywords.update id fun e => { e with isActive := isActive } }
  return (s.keywords.find? id).map fun e => { e with isActive := isActive }

/-- Counts one more flag for an entry. -/
def recordMatch (id : Int) : Work Unit := do
  let s ← current
  put { s with keywords := s.keywords.update id fun e => { e with matchCount := e.matchCount + 1 } }

end CivicForum.Statement
