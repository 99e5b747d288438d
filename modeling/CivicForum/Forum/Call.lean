import CivicForum.Appeal.Review
import CivicForum.Content.Weighting
import CivicForum.Watch.Scan

/-! # Calls of the moderation services

* `Call`: everything that the services can be asked.
* `Answer`: what they answer.
* `Call.work`: the unit of work that answers a call.
* `Call.run`: the answer to a call, and the store afterwards.
-/

set_option autoImplicit false

namespace CivicForum

/-- A call of a moderation service. -/
inductive Call where
  | recalculate (userId : Int)
  | record (c : Member.Counter) (userId : Int)
  | profile (userId : Int)
  | level (score : Int)
  | requiresApproval (userId : Int)
  | admission (userId : Int)
  | issue (r : Penalty.Request)
  | nextPenalty (userId : Int)
  | activePenalty (userId : Int)
  | ban (userId : Int)
  | penaltiesOf (userId : Int)
  | penalty (id : Int)
  | revoke (id revokedBy : Int) (reason : String)
  | sweep
  | canAppeal (penaltyId : Int)
  | submitAppeal (penaltyId userId : Int) (reason : String)
  /-- The decision is given as text, which is read first. -/
  | reviewAppeal (id reviewerId : Int) (decision notes : String)
  | appeal (id : Int)
  | pendingAppeals
  | appealsOf (userId : Int)
  | weightFor (reporterId : Int)
  | weightedFlags (kind : Content.Kind) (contentId : Int)
  | addKeyword (keyword : String) (isPattern : Bool) (flagReason : String)
  | setKeywordActive (id : Int) (isActive : Bool)
  | keywords
  | scan (content : String) (kind : Content.Kind) (contentId : Int)
  deriving Repr, DecidableEq

/-- What a moderation service answers. -/
inductive Answer where
  | score (n : Int)
  | profile (p : Profile)
  | level (l : Level)
  | truth (b : Bool)
  | admission (a : Admission)
  | kind (k : Penalty.Kind)
  | penalty (p : Penalty)
  | maybePenalty (p : Option Penalty)
  | penalties (ps : List Penalty)
  | count (n : Nat)
  | appeal (a : Appeal)
  | appeals (as : List Appeal)
  | weight (w : Weight)
  | keyword (e : Watch.Entry)
  | keywords (es : List Watch.Entry)
  | flags (fs : List Flag)
  deriving Repr, DecidableEq

namespace Answer

/-- The answer as JSON. -/
def toJson : Answer → Json
  | .score n => .int n
  | .profile p => p.toJson
  | .level l => Named.toJson l
  | .truth b => .truth b
  | .admission a => Named.toJson a
  | .kind k => Named.toJson k
  | .penalty p => p.toJson
  | .maybePenalty p => .ofOption Penalty.toJson p
  | .penalties ps => .list (ps.map Penalty.toJson)
  | .count n => .int n
  | .appeal a => a.toJson
  | .appeals as => .list (as.map Appeal.toJson)
  | .weight w => w.toJson
  | .keyword e => e.toJson
  | .keywords es => .list (es.map Watch.Entry.toJson)
  | .flags fs => .list (fs.map Flag.toJson)

end Answer

namespace Call

open Work

/-- The unit of work that answers a call at an instant. `systemId` is the user on whose behalf the
watchlist raises flags. -/
def work (c : Call) (systemId : Int) (now : Instant) : Work Answer :=
  match c with
  | .recalculate userId => do return .score (← Reputation.recalculate userId now)
  | .record c userId => do return .score (← Reputation.record c userId now)
  | .profile userId => do return .profile (← Reputation.requireMember (← current) userId).profile
  | .level score => return .level (.ofScore score)
  | .requiresApproval userId => do
    return .truth (← Reputation.requireMember (← current) userId).requiresApproval
  | .admission userId => do
    let m ← Reputation.requireMember (← current) userId
    return .admission (.ofRequirement m.requiresApproval)
  | .issue r => do return .penalty (← Ledger.issue r now)
  | .nextPenalty userId => do return .kind ((← current).nextKind userId now)
  | .activePenalty userId => do return .maybePenalty ((← current).penaltyInForce? userId now)
  | .ban userId => do return .maybePenalty ((← current).ban? userId now)
  | .penaltiesOf userId => do return .penalties ((← current).penaltiesOf userId)
  | .penalty id => do return .penalty (← Ledger.requirePenalty (← current) id)
  | .revoke id revokedBy reason => do return .penalty (← Ledger.revoke id revokedBy reason now)
  | .sweep => do return .count (← Ledger.sweep now)
  | .canAppeal penaltyId => do
    let s ← current
    let p ← Ledger.requirePenalty s penaltyId
    return .truth (s.canAppeal p now)
  | .submitAppeal penaltyId userId reason => do
    return .appeal (← Appeals.submit penaltyId userId reason now)
  | .reviewAppeal id reviewerId decision notes => do
    let d ← Appeal.Decision.ofText decision
    return .appeal (← Appeals.review id reviewerId d notes now)
  | .appeal id => do
    match (← current).appeal? id with
    | some a => return .appeal a
    | none => throw (.notFound "appeal")
  | .pendingAppeals => do return .appeals (← current).pendingAppeals
  | .appealsOf userId => do return .appeals ((← current).appealsOf userId)
  | .weightFor reporterId => do return .weight (← (← current).weightFor systemId reporterId)
  | .weightedFlags kind contentId => do
    return .weight ((← current).weightedFlags systemId kind contentId)
  | .addKeyword keyword isPattern flagReason => do
    return .keyword (← Watch.addKeyword keyword isPattern flagReason now)
  | .setKeywordActive id isActive => do return .keyword (← Watch.setActive id isActive)
  | .keywords => do return .keywords (← current).keywords.rows
  | .scan content kind contentId => do
    return .flags (← Watch.scan systemId content kind contentId now)

/-- The answer to a call at an instant, and the store afterwards. -/
def run (c : Call) (systemId : Int) (now : Instant) (s : Store) : Except Refusal Answer × Store :=
  (c.work systemId now).commit s

end Call

end CivicForum
