import CivicForum.Member.Score
import CivicForum.Proofs.Text.Decimal

/-! # The formula of the score

* `Score.ageBonus_bounds`, …: what each part of a score can amount to.
* `Score.ofInputs_eq`: a score is cut at zero only.
* `Score.ofWords?`: the score computed operation by operation, as long as every result is a signed
  64-bit number.
* `Score.exact_on_words`: the score is the one that the formula gives over all integers, and no
  operation leaves the 64-bit range on the way to it.
-/

set_option autoImplicit false

namespace CivicForum.Score

open Text

/-! ## The parts of a score -/

theorem ageBonus_bounds (days : Int) : 0 ≤ ageBonus days ∧ ageBonus days ≤ 20 := by
  unfold ageBonus
  omega

theorem commentsBonus_bounds (comments : Int) :
    0 ≤ commentsBonus comments ∧ commentsBonus comments ≤ 15 := by
  unfold commentsBonus
  omega

theorem reporterBonus_bounds (reports : Int) :
    0 ≤ reporterBonus reports ∧ reporterBonus reports ≤ 10 := by
  unfold reporterBonus saturate wordMin wordMax
  omega

theorem flagsMalus_bounds (flags : Int) :
    0 ≤ flagsMalus flags ∧ flagsMalus flags ≤ wordMax := by
  unfold flagsMalus saturate wordMin wordMax
  omega

theorem penaltyMalus_bounds (active : Bool) :
    0 ≤ penaltyMalus active ∧ penaltyMalus active ≤ 20 := by
  cases active <;> decide

/-- The score before the malus for flags. -/
theorem merit_bounds (i : Inputs) :
    30 ≤ base + ageBonus i.days + commentsBonus i.approvedComments +
      reporterBonus i.validatedReports - penaltyMalus i.hasActivePenalty ∧
    base + ageBonus i.days + commentsBonus i.approvedComments +
      reporterBonus i.validatedReports - penaltyMalus i.hasActivePenalty ≤ 95 := by
  have hage := ageBonus_bounds i.days
  have hcomments := commentsBonus_bounds i.approvedComments
  have hreports := reporterBonus_bounds i.validatedReports
  have hpenalty := penaltyMalus_bounds i.hasActivePenalty
  unfold base
  omega

/-- No score is high enough to be cut, nor low enough to leave the 64-bit range. -/
theorem ofInputs_eq (i : Inputs) : ofInputs i = max 0 (base + ageBonus i.days +
    commentsBonus i.approvedComments + reporterBonus i.validatedReports -
    penaltyMalus i.hasActivePenalty - flagsMalus i.upheldFlags) := by
  have hmerit := merit_bounds i
  have hflags := flagsMalus_bounds i.upheldFlags
  unfold ofInputs saturate lowest highest
  unfold wordMax at *
  unfold wordMin
  dsimp only
  omega

/-! ## Saturation -/

theorem isWord_saturate (n : Int) : isWord (saturate n) = true := by
  refine isWord_eq_true.mpr ⟨Int.le_max_left _ _, ?_⟩
  exact Int.max_le.mpr ⟨by decide, Int.min_le_left _ _⟩

/-- Where the product saturates, the bonus has long reached its cap. -/
theorem reporterBonus_eq (reports : Int) :
    reporterBonus reports = min 10 (2 * max reports 0) := by
  unfold reporterBonus saturate wordMin wordMax
  omega

/-- Where the malus saturates, it is larger than any merit, and so is the exact product. -/
theorem max_sub_flagsMalus {merit : Int} (h : merit ≤ 95) (flags : Int) :
    max 0 (merit - flagsMalus flags) = max 0 (merit - 10 * max flags 0) := by
  unfold flagsMalus saturate wordMin wordMax
  omega

/-! ## Operation by operation -/

/-- The result of an operation, if it is a signed 64-bit number. -/
def word? (n : Int) : Option Int := if isWord n then some n else none

/-- One point for every `step` of an amount, at most `cap`. -/
def quotient? (amount step cap : Int) : Option Int := do
  let counted ← word? (max amount 0)
  let points ← word? (counted / step)
  word? (min points cap)

/-- So many points for each of an amount; the product saturates. -/
def product? (amount points : Int) : Option Int := do
  let counted ← word? (max amount 0)
  word? (saturate (counted * points))

/-- The score, and nothing as soon as the result of an operation is no 64-bit number. Products and
the last difference saturate, and sums must not overflow. -/
def ofWords? (i : Inputs) : Option Int := do
  let age ← quotient? i.days 6 20
  let comments ← quotient? i.approvedComments 2 15
  let reports ← word? (min (← product? i.validatedReports 2) 10)
  let flags ← product? i.upheldFlags 10
  let penalty ← word? (if i.hasActivePenalty then -20 else 0)
  let withAge ← word? (base + age)
  let withComments ← word? (withAge + comments)
  let withReports ← word? (withComments + reports)
  let merit ← word? (withReports + penalty)
  let difference ← word? (saturate (merit - flags))
  word? (max lowest (min highest difference))

/-- All four numbers are signed 64-bit ones. -/
structure Inputs.AreWords (i : Inputs) : Prop where
  days : isWord i.days = true
  approvedComments : isWord i.approvedComments = true
  validatedReports : isWord i.validatedReports = true
  upheldFlags : isWord i.upheldFlags = true

/-! ## No operation leaves the range -/

section Words

variable {n amount step cap points : Int} {α : Type}

theorem word?_eq_some (h : isWord n = true) : word? n = some n := if_pos h

theorem word?_bind (h : isWord n = true) (f : Int → Option α) : (word? n).bind f = f n := by
  rw [word?_eq_some h, Option.bind_some]

theorem isWord_of_small (hmin : -1000 ≤ n) (hmax : n ≤ 1000) : isWord n = true :=
  isWord_eq_true.mpr ⟨Int.le_trans (by decide) hmin, Int.le_trans hmax (by decide)⟩

theorem isWord_counted (h : isWord n = true) : isWord (max n 0) = true := by
  obtain ⟨hmin, hmax⟩ := isWord_eq_true.mp h
  refine isWord_eq_true.mpr ⟨Int.le_trans hmin (Int.le_max_left _ _), ?_⟩
  exact Int.max_le.mpr ⟨hmax, by decide⟩

/-- A quotient of a number that is not negative lies between it and zero. -/
theorem quotient?_eq_some (h : isWord amount = true) (hstep : 0 ≤ step) (hcap : 0 ≤ cap) :
    quotient? amount step cap = some (min (max amount 0 / step) cap) := by
  have hcounted := isWord_counted h
  have hnonneg : 0 ≤ max amount 0 / step := Int.ediv_nonneg (Int.le_max_right _ _) hstep
  have hle : max amount 0 / step ≤ wordMax :=
    Int.le_trans (Int.ediv_le_self _ (Int.le_max_right _ _)) (isWord_eq_true.mp hcounted).2
  have hpoints : isWord (max amount 0 / step) = true :=
    isWord_eq_true.mpr ⟨Int.le_trans (by decide) hnonneg, hle⟩
  have hcapped : isWord (min (max amount 0 / step) cap) = true :=
    isWord_eq_true.mpr ⟨Int.le_trans (by decide) (Int.le_min.mpr ⟨hnonneg, hcap⟩),
      Int.le_trans (Int.min_le_left _ _) hle⟩
  unfold quotient?
  simp only [Option.bind_eq_bind]
  rw [word?_bind hcounted, word?_bind hpoints, word?_eq_some hcapped]

theorem product?_eq_some (h : isWord amount = true) :
    product? amount points = some (saturate (max amount 0 * points)) := by
  unfold product?
  rw [Option.bind_eq_bind, word?_bind (isWord_counted h), word?_eq_some (isWord_saturate _)]

end Words

/-- The sums before the last difference lie between 30 and 95. -/
theorem ofWords?_eq_some {i : Inputs} (h : i.AreWords) : ofWords? i = some (ofInputs i) := by
  have hdays : quotient? i.days 6 20 = some (ageBonus i.days) :=
    quotient?_eq_some h.days (by decide) (by decide)
  have hcomments : quotient? i.approvedComments 2 15 = some (commentsBonus i.approvedComments) :=
    quotient?_eq_some h.approvedComments (by decide) (by decide)
  have hproduct : product? i.validatedReports 2 =
      some (saturate (max i.validatedReports 0 * 2)) := product?_eq_some h.validatedReports
  have hflags : product? i.upheldFlags 10 = some (flagsMalus i.upheldFlags) :=
    product?_eq_some h.upheldFlags
  have hpenalty : (if i.hasActivePenalty then -20 else 0) = -penaltyMalus i.hasActivePenalty := by
    cases i.hasActivePenalty <;> rfl
  have hreporter : min (saturate (max i.validatedReports 0 * 2)) 10 =
      reporterBonus i.validatedReports := rfl
  unfold ofWords?
  rw [hdays, hcomments, hproduct, hflags, hpenalty]
  simp only [Option.bind_eq_bind, Option.bind_some, hreporter]
  have hage := ageBonus_bounds i.days
  have hhistory := commentsBonus_bounds i.approvedComments
  have hreports := reporterBonus_bounds i.validatedReports
  have hmalus := penaltyMalus_bounds i.hasActivePenalty
  have hbase : base = 50 := rfl
  rw [word?_bind (isWord_of_small (by omega) (by omega)),
    word?_bind (isWord_of_small (by omega) (by omega)),
    word?_bind (isWord_of_small (by omega) (by omega)),
    word?_bind (isWord_of_small (by omega) (by omega)),
    word?_bind (isWord_of_small (by omega) (by omega)),
    word?_bind (isWord_of_small (by omega) (by omega)), word?_bind (isWord_saturate _),
    ← Int.sub_eq_add_neg]
  refine word?_eq_some (isWord_of_small ?_ ?_)
  · exact Int.le_trans (by decide) (Int.le_max_left _ _)
  · exact Int.max_le.mpr ⟨by decide, Int.le_trans (Int.min_le_left _ _) (by decide)⟩

/-! ## The formula -/

/-- The score is what the formula gives over all integers, cut to the range from 0 to 100: nothing
of it depends on products and differences that saturate. For 64-bit numbers, every operation on the
way to it has a 64-bit result. -/
theorem exact_on_words (i : Inputs) :
    ofInputs i = max 0 (min 100 (50 + min 20 (max i.days 0 / 6) +
      min 15 (max i.approvedComments 0 / 2) + min 10 (2 * max i.validatedReports 0) -
      10 * max i.upheldFlags 0 - if i.hasActivePenalty then 20 else 0)) ∧
    (i.AreWords → ofWords? i = some (ofInputs i)) := by
  refine ⟨?_, ofWords?_eq_some⟩
  have hage : min 20 (max i.days 0 / 6) = ageBonus i.days := Int.min_comm _ _
  have hcomments : min 15 (max i.approvedComments 0 / 2) = commentsBonus i.approvedComments :=
    Int.min_comm _ _
  have hpenalty : (if i.hasActivePenalty then 20 else 0) = penaltyMalus i.hasActivePenalty := rfl
  obtain ⟨-, hmerit⟩ := merit_bounds i
  rw [ofInputs_eq, max_sub_flagsMalus hmerit, hage, hcomments, hpenalty, ← reporterBonus_eq]
  unfold base at *
  omega

/-- At the ends of the range, one product saturates and is capped, the other one leaves nothing. -/
theorem exact_at_ends :
    let praised : Inputs := ⟨wordMin, wordMax, wordMax, wordMin, true⟩
    let flagged : Inputs := ⟨wordMax, wordMax, wordMax, wordMax, false⟩
    ofWords? praised = some 55 ∧ ofWords? flagged = some 0 := by
  intro praised flagged
  have hpraised : ofInputs praised = 55 := by decide
  have hflagged : ofInputs flagged = 0 := by decide
  refine ⟨?_, ?_⟩
  · rw [(exact_on_words praised).2 ⟨by decide, by decide, by decide, by decide⟩, hpraised]
  · rw [(exact_on_words flagged).2 ⟨by decide, by decide, by decide, by decide⟩, hflagged]

end CivicForum.Score
