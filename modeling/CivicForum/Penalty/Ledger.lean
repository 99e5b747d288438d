import CivicForum.Member.Reputation
import CivicForum.Penalty.Escalation

/-! # The penalty ledger

A user has at most one active penalty.

* `Ledger.issue`: a new penalty; it takes the place of an active one that is less severe.
* `Ledger.revoke`: an active penalty is taken back.
* `Ledger.sweep`: active penalties whose end has come expire.
* `Ledger.reinstate`: a suspended penalty is put back in force.
* `Store.penaltyInForce?`, `Store.ban?`, `Store.nextKind`: what the ledger answers.
-/

set_option autoImplicit false

namespace CivicForum

/-! ## Questions -/

/-- The user's active penalty whose end has not come. -/
def Store.penaltyInForce? (s : Store) (userId : Int) (now : Instant) : Option Penalty :=
  (s.activePenalty? userId).filter fun p => p.isInForce now

/-- The user's ban; a warning bars nobody. -/
def Store.ban? (s : Store) (userId : Int) (now : Instant) : Option Penalty :=
  (s.penaltyInForce? userId now).filter fun p => p.kind.isBan

/-- The penalty that a new offence of the user should get. -/
def Store.nextKind (s : Store) (userId : Int) (now : Instant) : Penalty.Kind :=
  Penalty.nextKind (s.penaltiesOf userId) now

/-- Whether the penalty can be appealed. -/
def Store.canAppeal (s : Store) (p : Penalty) (now : Instant) : Bool :=
  p.canBeAppealed (s.hasAppeal p.id) now

namespace Ledger

open Work Statement

/-- The penalty, which must exist. -/
def requirePenalty (s : Store) (id : Int) : Except Refusal Penalty :=
  match s.penalty? id with
  | some p => .ok p
  | none => .error (.notFound "penalty")

/-! ## Issuing -/

/-- Expires the user's active penalty when its end has come, so that it bars no new one. -/
def expireElapsed (userId : Int) (now : Instant) : Work Unit := do
  match (← current).activePenalty? userId with
  | some p => if p.hasElapsed now then discard (setPenaltyStatus p.id .expired)
  | none => pure ()

/-- Expires the user's active penalty in favour of a new one, which must be more severe. -/
def supersede (userId : Int) (kind : Penalty.Kind) : Work Unit := do
  match (← current).activePenalty? userId with
  | some p =>
    if kind.severity ≤ p.kind.severity then throw (.alreadyPenalized p.kind)
    discard (setPenaltyStatus p.id .expired)
  | none => pure ()

/-- Makes way for a new penalty of a user, who must exist. -/
def makeWay (r : Penalty.Request) (now : Instant) : Work Unit := do
  if !(← lockUser r.userId) then throw (.notFound "user")
  expireElapsed r.userId now
  supersede r.userId r.kind

/-- Adds the penalty; should the storage find another active one, the request is refused as if the
ledger had found it. -/
def enter (r : Penalty.Request) (now : Instant) : Work Penalty :=
  tryCatch (insertPenalty r now) fun e =>
    match e with
    | .database (.duplicate _) => throw (.alreadyPenalized r.kind)
    | e => throw e

/-- Removes what the user has waiting for approval, if the request asks for that. -/
def removeContent (r : Penalty.Request) (now : Instant) : Work Unit := do
  if r.removeContent && r.kind ≠ .warning then
    let reason := "user banned: " ++ r.reason
    removeIdeas r.userId reason now
    removeComments r.userId reason now

/-- Issues a penalty. -/
def issue (r : Penalty.Request) (now : Instant) : Work Penalty := do
  makeWay r now
  let p ← enter r now
  removeContent r now
  discard (Reputation.recalculate r.userId now)
  return p

/-! ## Revoking -/

/-- Revokes a penalty, whatever its status, and recalculates the score of its user. -/
def revokePenalty (p : Penalty) (revokedBy : Int) (reason : String) (now : Instant) :
    Work Penalty := do
  let revoked ← markRevoked p.id revokedBy now reason
  discard (Reputation.recalculate p.userId now)
  return revoked

/-- Revokes an active penalty. -/
def revoke (id revokedBy : Int) (reason : String) (now : Instant) : Work Penalty := do
  let p ← requirePenalty (← current) id
  if p.status ≠ .active then
    throw (.cannotRevoke ("only active penalties can be revoked; penalty " ++ Refusal.number id ++
      " is " ++ Named.title p.status))
  revokePenalty p revokedBy reason now

/-! ## Expiry -/

/-- Expires the penalties in a list, one after the other. -/
def expireAll : List Penalty → Work Unit
  | [] => pure ()
  | p :: rest => do
    discard (setPenaltyStatus p.id .expired)
    expireAll rest

/-- Expires the active penalties whose end has come, and says how many there were. Scores are left
alone. -/
def sweep (now : Instant) : Work Nat := do
  let due := (← current).duePenalties now
  expireAll due
  return due.length

/-! ## Reinstating -/

/-- Puts a suspended penalty back in force. If the user has another active penalty by now, the more
severe of the two stays active, and the other one expires. -/
def reinstate (p : Penalty) : Work Penalty := do
  match (← current).activePenalty? p.userId with
  | some other =>
    if p.kind.severity ≤ other.kind.severity then setPenaltyStatus p.id .expired
    else
      discard (setPenaltyStatus other.id .expired)
      setPenaltyStatus p.id .active
  | none => setPenaltyStatus p.id .active

end Ledger

end CivicForum
