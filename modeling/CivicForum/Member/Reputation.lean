import CivicForum.Member.Score
import CivicForum.Member.Standing
import CivicForum.Store.Statement

/-! # Reputation

The trust score is stored, and computed anew whenever one of its inputs changes.

* `Store.scoreInputs`: what the score of a user depends on at an instant.
* `Reputation.recalculate`: computes and stores the score of a user.
* `Reputation.record`: counts a reputation event and recalculates.
-/

set_option autoImplicit false

namespace CivicForum

/-- What the score of a user who registered at an instant depends on. -/
def Store.scoreInputs (s : Store) (m : Member) (registered now : Instant) : Score.Inputs where
  days := (now.since registered).wholeDays
  approvedComments := m.approvedComments
  validatedReports := m.validatedReports
  upheldFlags := m.upheldFlags
  hasActivePenalty := (s.activePenalty? m.id).any fun p => p.isInForce now

namespace Reputation

open Work

/-- The user, who must exist. -/
def requireMember (s : Store) (userId : Int) : Except Refusal Member :=
  match s.user? userId with
  | some m => .ok m
  | none => .error (.notFound "user")

/-- The score that the inputs of a user give at an instant. -/
def scoreOf (s : Store) (userId : Int) (now : Instant) : Except Refusal Int := do
  let m ← requireMember s userId
  match m.registeredAt? with
  | some registered => .ok (Score.ofInputs (s.scoreInputs m registered now))
  | none => .error (.invalidTimestamp userId m.createdAt)

/-- Computes the score of a user and stores it. -/
def recalculate (userId : Int) (now : Instant) : Work Int := do
  let score ← scoreOf (← current) userId now
  Statement.setTrustScore userId score
  return score

/-- Counts an event for a user and recalculates the score. -/
def record (c : Member.Counter) (userId : Int) (now : Instant) : Work Int := do
  if !(← Statement.raiseCounter userId c) then throw (.notFound "user")
  recalculate userId now

end Reputation

end CivicForum
