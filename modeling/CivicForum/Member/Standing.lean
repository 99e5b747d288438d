import CivicForum.Member.Basic
import CivicForum.Named

/-! # What a score stands for

* `Level`: the named bands of the trust score.
* `Weight`: how many flags one report counts for, in quarters.
* `Member.requiresApproval`, `Admission`: whether new content is published at once.
* `Profile`: the summary of a user's score.
-/

set_option autoImplicit false

namespace CivicForum

/-! ## Bands of the score -/

/-- A band of the trust score. -/
inductive Level where
  | low
  | belowAverage
  | average
  | good
  | excellent
  deriving Repr, DecidableEq

instance Level.named : Named Level where
  all := [.low, .belowAverage, .average, .good, .excellent]
  wire
    | .low => "low"
    | .belowAverage => "below_average"
    | .average => "average"
    | .good => "good"
    | .excellent => "excellent"
  title
    | .low => "Low"
    | .belowAverage => "BelowAverage"
    | .average => "Average"
    | .good => "Good"
    | .excellent => "Excellent"

/-- The band of a score; each band includes its upper bound. -/
def Level.ofScore (score : Int) : Level :=
  if score ≤ 20 then .low
  else if score ≤ 40 then .belowAverage
  else if score ≤ 60 then .average
  else if score ≤ 80 then .good
  else .excellent

/-! ## Weights -/

/-- A number of flags, in quarters of a flag. -/
structure Weight where
  quarters : Nat
  deriving Repr, DecidableEq

namespace Weight

/-- One flag. -/
def one : Weight := ⟨4⟩

def sum (ws : List Weight) : Weight := ⟨ws.foldr (fun w total => w.quarters + total) 0⟩

/-- The decimal digits of a weight, at least one after the point. -/
def write (w : Weight) : List Char :=
  Text.writeNat (w.quarters / 4) ++
    match w.quarters % 4 with
    | 0 => ['.', '0']
    | 1 => ['.', '2', '5']
    | 2 => ['.', '5']
    | _ => ['.', '7', '5']

def toJson (w : Weight) : Json := .decimal (String.ofList w.write)

end Weight

/-- How many flags a report from a user of this band counts for. -/
def Level.weight : Level → Weight
  | .low => ⟨2⟩
  | .belowAverage => ⟨3⟩
  | .average => ⟨4⟩
  | .good => ⟨5⟩
  | .excellent => ⟨6⟩

/-! ## Approval -/

namespace Member

/-- Scores up to this one always need approval. -/
def approvalScore : Int := 40

/-- Users with fewer approved comments always need approval. -/
def approvalComments : Int := 5

/-- Whether new comments of the user must be approved first. Administrators are exempt, then the
override decides, and only then score and history. -/
def requiresApproval (m : Member) : Bool :=
  if m.isAdmin then false
  else if m.approvalOverride then true
  else m.trustScore ≤ approvalScore || m.approvedComments < approvalComments

end Member

/-- What happens to a new idea or comment. -/
inductive Admission where
  | publish
  | holdForApproval
  deriving Repr, DecidableEq

instance Admission.named : Named Admission where
  all := [.publish, .holdForApproval]
  wire
    | .publish => "publish"
    | .holdForApproval => "hold_for_approval"
  title
    | .publish => "Publish"
    | .holdForApproval => "HoldForApproval"

def Admission.ofRequirement (required : Bool) : Admission :=
  if required then .holdForApproval else .publish

/-! ## Profiles -/

/-- The stored score of a user and what it stands for. -/
structure Profile where
  userId : Int
  score : Int
  level : Level
  weight : Weight
  requiresApproval : Bool
  deriving Repr, DecidableEq

/-- The profile of a user. -/
def Member.profile (m : Member) : Profile where
  userId := m.id
  score := m.trustScore
  level := .ofScore m.trustScore
  weight := (Level.ofScore m.trustScore).weight
  requiresApproval := m.requiresApproval

def Profile.toJson (p : Profile) : Json :=
  .record
    [("user_id", .int p.userId), ("score", .int p.score), ("level", Named.toJson p.level),
     ("flag_weight", p.weight.toJson), ("requires_comment_approval", .truth p.requiresApproval)]

end CivicForum
