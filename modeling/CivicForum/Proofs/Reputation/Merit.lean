import CivicForum.Member.Standing
import CivicForum.Proofs.Reputation.Formula

/-! # More merit never hurts

* `Score.Inputs.AtMost`: somebody else has at least the same merit.
* `Score.ofInputs_le`: then the score of the other one is at least as high, part by part.
* `Level.rank`: the bands from the lowest to the highest; a report weighs two quarters more than the
  rank of its reporter.
* `Member.requiresApproval_eq_false`: who may publish at once.
* `Score.more_merit_never_hurts`: neither the score nor anything it decides gets worse.
-/

set_option autoImplicit false

namespace CivicForum

/-- The second user has been there for at least as long, with as many approved comments and
validated reports, no more upheld flags, and a penalty only if the first one has a penalty, too. -/
structure Score.Inputs.AtMost (i j : Inputs) : Prop where
  days : i.days ≤ j.days
  approvedComments : i.approvedComments ≤ j.approvedComments
  validatedReports : i.validatedReports ≤ j.validatedReports
  upheldFlags : j.upheldFlags ≤ i.upheldFlags
  penalty : j.hasActivePenalty = true → i.hasActivePenalty = true

/-- The position of a band; a higher one is better. -/
def Level.rank : Level → Nat
  | .low => 0
  | .belowAverage => 1
  | .average => 2
  | .good => 3
  | .excellent => 4

/-! ## Scores -/

namespace Score

variable {m n : Int}

theorem ageBonus_le (h : max m 0 ≤ max n 0) : ageBonus m ≤ ageBonus n := by
  unfold ageBonus
  omega

theorem commentsBonus_le (h : m ≤ n) : commentsBonus m ≤ commentsBonus n := by
  unfold commentsBonus
  omega

theorem saturate_le (h : m ≤ n) : saturate m ≤ saturate n := by
  unfold saturate
  omega

theorem reporterBonus_le (h : m ≤ n) : reporterBonus m ≤ reporterBonus n := by
  have hproduct : saturate (max m 0 * 2) ≤ saturate (max n 0 * 2) := saturate_le (by omega)
  unfold reporterBonus
  omega

theorem flagsMalus_le (h : m ≤ n) : flagsMalus m ≤ flagsMalus n := saturate_le (by omega)

theorem penaltyMalus_le {p q : Bool} (h : p = true → q = true) :
    penaltyMalus p ≤ penaltyMalus q := by
  cases p with
  | false => exact (penaltyMalus_bounds q).1
  | true => exact Int.le_of_eq (congrArg penaltyMalus (h rfl).symm)

theorem ofInputs_le {i j : Inputs} (h : i.AtMost j) : ofInputs i ≤ ofInputs j := by
  have hage : ageBonus i.days ≤ ageBonus j.days := ageBonus_le (by have := h.days; omega)
  have hcomments := commentsBonus_le h.approvedComments
  have hreports := reporterBonus_le h.validatedReports
  have hflags := flagsMalus_le h.upheldFlags
  have hpenalty := penaltyMalus_le h.penalty
  rw [ofInputs_eq, ofInputs_eq]
  omega

end Score

/-! ## What a score stands for -/

namespace Level

theorem rank_le_four (l : Level) : l.rank ≤ 4 := by cases l <;> decide

/-- Every band weighs a quarter more than the one below it. -/
theorem quarters_weight (l : Level) : l.weight.quarters = l.rank + 2 := by cases l <;> rfl

/-- Above the first band, every band is twenty points wide. -/
theorem le_rank_ofScore {k : Nat} (hk : 0 < k) (hmax : k ≤ 4) (score : Int) :
    k ≤ (ofScore score).rank ↔ 20 * (k : Int) < score := by
  unfold ofScore
  split_ifs <;> simp only [rank] <;> omega

theorem rank_ofScore_le {m n : Int} (h : m ≤ n) : (ofScore m).rank ≤ (ofScore n).rank := by
  rcases Nat.eq_zero_or_pos (ofScore m).rank with hzero | hpos
  · rw [hzero]
    exact Nat.zero_le _
  · have hreached := (le_rank_ofScore hpos (rank_le_four _) m).mp (Nat.le_refl _)
    exact (le_rank_ofScore hpos (rank_le_four _) n).mpr (Int.lt_of_lt_of_le hreached h)

end Level

theorem Member.requiresApproval_eq_false {m : Member} : m.requiresApproval = false ↔
    m.isAdmin = true ∨ m.approvalOverride = false ∧ approvalScore < m.trustScore ∧
      approvalComments ≤ m.approvedComments := by
  unfold requiresApproval
  split
  · next hadmin => simp [hadmin]
  split
  · next hadmin hoverride => simp [hadmin, hoverride]
  · next hadmin hoverride => simp [hadmin, hoverride]

/-! ## Two users -/

namespace Score

/-- Of two users, the one with at least the merit of the other has at least the same score, is in
the same band or a higher one, and reports with at least the same weight. With the same switches,
the one may publish at once if the other may. -/
theorem more_merit_never_hurts (i j : Inputs) (h : i.AtMost j) :
    ofInputs i ≤ ofInputs j ∧
    (Level.ofScore (ofInputs i)).rank ≤ (Level.ofScore (ofInputs j)).rank ∧
    (Level.ofScore (ofInputs i)).weight.quarters ≤ (Level.ofScore (ofInputs j)).weight.quarters ∧
    ∀ m n : Member, m.trustScore = ofInputs i → n.trustScore = ofInputs j →
      m.approvedComments = i.approvedComments → n.approvedComments = j.approvedComments →
      m.isAdmin = n.isAdmin → m.approvalOverride = n.approvalOverride →
      m.requiresApproval = false → n.requiresApproval = false := by
  have hscore : ofInputs i ≤ ofInputs j := ofInputs_le h
  have hrank := Level.rank_ofScore_le hscore
  refine ⟨hscore, hrank, ?_, ?_⟩
  · rw [Level.quarters_weight, Level.quarters_weight]
    exact Nat.add_le_add_right hrank 2
  intro m n hm hn hmcomments hncomments hadmin hoverride happroved
  rw [Member.requiresApproval_eq_false] at happroved ⊢
  rw [hm, hmcomments, hadmin, hoverride] at happroved
  rw [hn, hncomments]
  refine happroved.imp_right fun ⟨hfree, hhigh, hmany⟩ => ⟨hfree, ?_, ?_⟩
  · exact Int.lt_of_lt_of_le hhigh hscore
  · exact Int.le_trans hmany h.approvedComments

/-- A penalty and a flag that are taken away, with the numbers at the end of their range. -/
theorem absolved_publishes :
    let i : Inputs := ⟨60, 30, Text.wordMax, 1, true⟩
    let j : Inputs := ⟨Text.wordMax, Text.wordMax, Text.wordMax, Text.wordMin, false⟩
    let m : Member := ⟨2, "ann", false, false, 55, 30, 1, Text.wordMax, ""⟩
    let n : Member := ⟨3, "ben", false, false, 95, Text.wordMax, Text.wordMin, Text.wordMax, ""⟩
    i.AtMost j ∧ ofInputs i = 55 ∧ ofInputs j = 95 ∧ ofInputs i ≤ ofInputs j ∧
    (Level.ofScore (ofInputs i)).rank ≤ (Level.ofScore (ofInputs j)).rank ∧
    m.requiresApproval = false ∧ n.requiresApproval = false := by
  intro i j m n
  have h : i.AtMost j := ⟨by decide, by decide, by decide, by decide, by decide⟩
  have hi : ofInputs i = 55 := by decide
  have hj : ofInputs j = 95 := by decide
  obtain ⟨hscore, hrank, -, hpublish⟩ := more_merit_never_hurts i j h
  have hm : m.requiresApproval = false := by decide
  exact ⟨h, hi, hj, hscore, hrank, hm, hpublish m n hi.symm hj.symm rfl rfl rfl rfl hm⟩

end Score

end CivicForum
