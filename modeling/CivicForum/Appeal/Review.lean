import CivicForum.Penalty.Ledger

/-! # Filing and deciding appeals

* `Appeals.submit`: a user contests a penalty; it is suspended until the appeal is decided.
* `Appeals.review`: a reviewer approves or rejects a pending appeal.
* `Appeal.Decision.ofText`: the decision that a text names.
-/

set_option autoImplicit false

namespace CivicForum

/-- The decision that a text names. -/
def Appeal.Decision.ofText (s : String) : Except Refusal Appeal.Decision :=
  match Named.ofWire? s with
  | some d => .ok d
  | none =>
    .error (.invalidAction ("unknown review action " ++ Text.quote s ++
      "; expected \"approve\" or \"reject\""))

namespace Appeals

open Work Statement

def alreadyFiled : Refusal :=
  .alreadyExists "an appeal has already been submitted for this penalty"

def notEligible : Refusal :=
  .cannotAppeal ("this penalty cannot be appealed: warnings and penalties that are no longer in " ++
    "force are not eligible")

/-- The penalty, which must exist and belong to the user. -/
def requireOwn (s : Store) (penaltyId userId : Int) : Except Refusal Penalty :=
  match (s.penalty? penaltyId).filter fun p => p.userId = userId with
  | some p => .ok p
  | none => .error (.notFound "penalty")

/-- Adds the appeal; should the storage find another one, the request is refused as if the service
had found it. -/
def enter (penaltyId userId : Int) (reason : String) (now : Instant) : Work Appeal :=
  tryCatch (insertAppeal penaltyId userId reason now) fun e =>
    match e with
    | .database (.duplicate _) => throw alreadyFiled
    | e => throw e

/-- Contests a penalty. One that belongs to somebody else counts as missing. -/
def submit (penaltyId userId : Int) (reason : String) (now : Instant) : Work Appeal := do
  let s ← current
  let p ← requireOwn s penaltyId userId
  if s.hasAppeal penaltyId then throw alreadyFiled
  if !p.canBeAppealed false now then throw notEligible
  let a ← enter penaltyId userId reason now
  discard (setPenaltyStatus penaltyId .appealed)
  return a

/-- The pending appeal, which must exist; one that was decided counts as missing. -/
def requirePending (s : Store) (id : Int) : Except Refusal Appeal :=
  match s.pendingAppeal? id with
  | some a => .ok a
  | none => .error (.notFound "appeal")

/-- What a decision does to the penalty, and the status that the appeal gets. -/
def decide (p : Penalty) (reviewerId : Int) (d : Appeal.Decision) (notes : String)
    (now : Instant) : Work Appeal.Status :=
  match d with
  | .approve => do
    discard (Ledger.revokePenalty p reviewerId ("Appeal approved: " ++ notes) now)
    return .approved
  | .reject => do
    discard (Ledger.reinstate p)
    return .rejected

/-- Decides a pending appeal. -/
def review (id reviewerId : Int) (d : Appeal.Decision) (notes : String) (now : Instant) :
    Work Appeal := do
  let s ← current
  let a ← requirePending s id
  let p ← Ledger.requirePenalty s a.penaltyId
  let status ← decide p reviewerId d notes now
  resolveAppeal id status reviewerId now notes

end Appeals

end CivicForum
