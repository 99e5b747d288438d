import CivicForum.Penalty.Basic

/-! # Escalation

* `Penalty.countsFor`: a penalty that decides, at a level of the ladder, what a repeat offender
  gets.
* `Penalty.nextKind`: the penalty for a new offence, one step above the most severe level that a
  recent penalty reached.
-/

set_option autoImplicit false

namespace CivicForum.Penalty

/-- The penalty is of this kind, was not overturned, and was issued within the lookback of the
kind. -/
def countsFor (p : Penalty) (level : Kind) (now : Instant) : Bool :=
  p.kind = level && p.status ≠ .revoked && now.minus level.lookback ≤ p.issuedAt

/-- The levels that lead to escalation, most severe first. Nothing lies above a permanent ban, so
that level leads nowhere. -/
def levels : List Kind := Kind.all.reverse.drop 1

/-- The penalty for a new offence of a user with this history. The first level with a penalty
inside its own lookback decides, and the result is one step above it. -/
def nextKind (history : List Penalty) (now : Instant) : Kind :=
  match levels.find? fun level => history.any fun p => p.countsFor level now with
  | some level => level.escalate
  | none => .warning

end CivicForum.Penalty
