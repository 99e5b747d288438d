import CivicForum.Text.Number

/-! # The trust score

* `Score.Inputs`: everything the score depends on.
* `Score.ofInputs`: the score, from 0 to 100. Products and the last difference stop at the ends of
  the signed 64-bit range.
-/

set_option autoImplicit false

namespace CivicForum.Score

/-- Everything the score depends on. -/
structure Inputs where
  /-- Whole days since registration. -/
  days : Int
  approvedComments : Int
  validatedReports : Int
  upheldFlags : Int
  hasActivePenalty : Bool
  deriving Repr, DecidableEq

/-- The nearest signed 64-bit number. -/
def saturate (n : Int) : Int := max Text.wordMin (min Text.wordMax n)

def lowest : Int := 0
def highest : Int := 100

/-- The score before any bonus. -/
def base : Int := 50

/-- One point for every six days, at most twenty. -/
def ageBonus (days : Int) : Int := min (max days 0 / 6) 20

/-- One point for every second approved comment, at most fifteen. -/
def commentsBonus (comments : Int) : Int := min (max comments 0 / 2) 15

/-- Two points for every validated report, at most ten. -/
def reporterBonus (reports : Int) : Int := min (saturate (max reports 0 * 2)) 10

/-- Ten points off for every upheld flag, without a cap. -/
def flagsMalus (flags : Int) : Int := saturate (max flags 0 * 10)

/-- Twenty points off while a penalty is active. -/
def penaltyMalus (active : Bool) : Int := if active then 20 else 0

/-- The trust score. -/
def ofInputs (i : Inputs) : Int :=
  let merit := base + ageBonus i.days + commentsBonus i.approvedComments +
    reporterBonus i.validatedReports - penaltyMalus i.hasActivePenalty
  max lowest (min highest (saturate (merit - flagsMalus i.upheldFlags)))

end CivicForum.Score
