import CivicForum.Member.Reputation

/-! # Weighted flags

* `Store.weightFor`: how many flags one report of a user counts for.
* `Store.weightedFlags`: the weight of the pending flags on a piece of content.
-/

set_option autoImplicit false

namespace CivicForum.Store

/-- How many flags a report of the user counts for; reports of the system count for one. -/
def weightFor (s : Store) (systemId reporterId : Int) : Except Refusal Weight := do
  if reporterId = systemId then return .one
  let m ← Reputation.requireMember s reporterId
  return (Level.ofScore m.trustScore).weight

/-- Reporter and reporter's score of every pending flag on a piece of content. -/
def pendingReporters (s : Store) (kind : Content.Kind) (contentId : Int) : List (Int × Int) :=
  (s.pendingFlags kind contentId).filterMap fun f =>
    (s.user? f.reporterId).map fun m => (f.reporterId, m.trustScore)

/-- The sum of the reporters' weights over the pending flags on a piece of content. -/
def weightedFlags (s : Store) (systemId : Int) (kind : Content.Kind) (contentId : Int) : Weight :=
  .sum ((s.pendingReporters kind contentId).map fun (reporterId, score) =>
    if reporterId = systemId then .one else (Level.ofScore score).weight)

end CivicForum.Store
