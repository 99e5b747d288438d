import CivicForum.Proofs.Appeal.Rejection
import CivicForum.Proofs.Reputation.Merit
import CivicForum.Proofs.Reputation.Run

/-! # The score that a rejection leaves

A rejection does not compute the score anew, since the penalty it puts back was in force when it was
issued. The stored score is the one of the last action that did compute it, and by then the penalty
may have been suspended.

* `Score.ofInputs_le_iff`: when one score is at most another one with the same counters.
* `Session.lastScoring`: the forum right after the user's score was last computed anew.
* `Session.rejection_carries_penalty_iff`: when the stored score is at most the one that counts the
  penalty.
-/

set_option autoImplicit false

namespace CivicForum

/-! ## Comparing scores -/

namespace Score

/-- Of two scores with the same counters, the first is at most the second when it is zero, or when
age and penalty do not make it higher. -/
theorem ofInputs_le_iff {i j : Inputs} (hcomments : i.approvedComments = j.approvedComments)
    (hreports : i.validatedReports = j.validatedReports)
    (hflags : i.upheldFlags = j.upheldFlags) :
    ofInputs i ≤ ofInputs j ↔ ofInputs i = 0 ∨
      ageBonus i.days + penaltyMalus j.hasActivePenalty ≤
        ageBonus j.days + penaltyMalus i.hasActivePenalty := by
  rw [ofInputs_eq, ofInputs_eq, hcomments, hreports, hflags]
  omega

end Score

/-- Of the same counters, more days give a higher score, and a penalty gives a lower one. -/
theorem Member.scoreAt_le_iff {m : Member} {registered t u : Instant} {p q : Bool} :
    m.scoreAt registered t p ≤ m.scoreAt registered u q ↔ m.scoreAt registered t p = 0 ∨
      Score.ageBonus (t.since registered).wholeDays + Score.penaltyMalus q ≤
        Score.ageBonus (u.since registered).wholeDays + Score.penaltyMalus p :=
  Score.ofInputs_le_iff rfl rfl rfl

theorem Store.FreshScore.le_scoreAt_iff {s : Store} {userId : Int} {now later : Instant}
    {m : Member} {registered : Instant} (h : s.FreshScore userId now m registered) :
    m.trustScore ≤ m.scoreAt registered later true ↔ m.trustScore = 0 ∨
      Score.ageBonus (now.since registered).wholeDays + Score.penaltyMalus true ≤
        Score.ageBonus (later.since registered).wholeDays +
          Score.penaltyMalus (s.isPenalized userId now) := by
  rw [h.score]
  exact Member.scoreAt_le_iff

theorem Store.FreshScore.le_scoreAt {s : Store} {userId : Int} {now later : Instant}
    {m : Member} {registered : Instant} (h : s.FreshScore userId now m registered)
    (hpenalized : s.isPenalized userId now = true) (hlater : now ≤ later)
    (hnow : now.inLeapSecond = false) (hregistered : registered.inLeapSecond = false) :
    m.trustScore ≤ m.scoreAt registered later true := by
  refine h.le_scoreAt_iff.mpr (.inr ?_)
  rw [hpenalized]
  have hage := Score.ageBonus_le (Instant.wholeDays_since_le hlater hnow hregistered)
  omega

/-! ## The last computation -/

namespace Session

variable {f g : Session} {userId : Int} {m : Member} {as : List Action}

/-- The forum right after the last action that computed the user's score anew. -/
def lastScoring (f : Session) (userId : Int) : List Action → Option Session
  | [] => none
  | a :: as =>
    match (f.step a).2.lastScoring userId as with
    | some g => some g
    | none => if f.rescored? a = some userId then some (f.step a).2 else none

theorem lastScoring_cons_eq_none {a : Action} : f.lastScoring userId (a :: as) = none ↔
    (f.step a).2.lastScoring userId as = none ∧ f.rescored? a ≠ some userId := by
  rw [lastScoring]
  cases (f.step a).2.lastScoring userId as <;> simp

/-- Until a score is computed anew, the user's row stays as it is. -/
theorem user?_after (h : f.store.docket.Sound) (hm : f.store.user? userId = some m)
    (hnone : f.lastScoring userId as = none) : (f.after as).store.user? userId = some m := by
  induction as generalizing f with
  | nil => exact hm
  | cons a as ih =>
    obtain ⟨hrest, hne⟩ := lastScoring_cons_eq_none.mp hnone
    exact ih (h.move (moved_step h a).docket) (user?_step h hm hne) hrest

/-- Until a score is computed anew, the user gets no first penalty. -/
theorem offender_after (h : f.store.docket.Sound) (hnone : f.lastScoring userId as = none)
    {p : Penalty} (hp : p ∈ (f.after as).store.penalties.rows) (huser : p.userId = userId) :
    ∃ q ∈ f.store.penalties.rows, q.userId = userId := by
  induction as generalizing f with
  | nil => exact ⟨p, hp, huser⟩
  | cons a as ih =>
    obtain ⟨hrest, hne⟩ := lastScoring_cons_eq_none.mp hnone
    obtain ⟨q, hq, hqu⟩ := ih (h.move (moved_step h a).docket) hrest hp
    rcases offender_step h a q hq with hscored | ⟨r, hr, hrq⟩
    · exact absurd (hqu ▸ hscored) hne
    · exact ⟨r, hr, hrq.userId.symm.trans hqu⟩

/-- What the last computation stored is what is stored still. -/
theorem freshScore_lastScoring (h : f.store.docket.Sound)
    (hg : f.lastScoring userId as = some g) :
    ∃ m registered, g.store.FreshScore userId g.now m registered ∧
      (f.after as).store.user? userId = some m ∧
      (f.forward as = true → g.now ≤ (f.after as).now) := by
  induction as generalizing f with
  | nil => cases hg
  | cons a as ih =>
    have hnext := h.move (moved_step h a).docket
    rw [lastScoring] at hg
    rcases hrest : (f.step a).2.lastScoring userId as with - | g'
    · rw [hrest] at hg
      dsimp only at hg
      split at hg
      · next ha =>
        obtain rfl := Option.some.inj hg
        obtain ⟨m, registered, hfresh, -⟩ := freshScore_step h ha
        have hm := user?_after hnext hfresh.member hrest
        refine ⟨m, registered, hfresh, hm, fun hforward => ?_⟩
        simp only [forward, Bool.and_eq_true] at hforward
        exact now_le_after hforward.2
      · cases hg
    · rw [hrest] at hg
      obtain ⟨m, registered, hfresh, hm, hlater⟩ := ih hnext (hrest.trans hg)
      refine ⟨m, registered, hfresh, hm, fun hforward => hlater ?_⟩
      simp only [forward, Bool.and_eq_true] at hforward
      exact hforward.2

end Session

/-! ## Rejections -/

/-- A rejection leaves the users as they are. -/
theorem Appeals.users_of_reject {s t : Store} {now : Instant} (h : s.docket.Sound)
    {id reviewerId : Int} {notes : String} {b : Appeal}
    (hreview : (review id reviewerId .reject notes now).commit s = (.ok b, t)) :
    ∃ a p, s.pendingAppeal? id = some a ∧ s.penalty? a.penaltyId = some p ∧
      p ∈ s.penalties.rows ∧ t.users = s.users := by
  obtain ⟨a, p, ha, hap, status, u, hsettled, -, rfl⟩ := (yields_review h).of_commit_ok hreview
  refine ⟨a, p, ha, ?_, hap.penalty, hsettled.scored.kept rfl⟩
  rw [hap.id]
  exact h.exclusive.ids.find?_key hap.penalty

namespace Session

/-- A rejection that succeeds leaves the score that the last computation stored, which may have found
the penalty suspended. The score is at most the one that counts the penalty exactly when it is zero,
or when the age bonus has since made up for what the last computation did not take off. So the
penalty is counted whenever the last computation found some penalty in force, unless a leap second
makes the user younger. -/
theorem rejection_carries_penalty_iff (systemId : Option Int) (start : Instant) (index : Bool)
    (as : List Action) :
    let opening := fresh systemId start index
    let f := opening.after as
    ∀ id reviewerId notes b t,
      (Appeals.review id reviewerId .reject notes f.now).commit f.store = (.ok b, t) →
      ∃ a p m registered g, f.store.pendingAppeal? id = some a ∧
        f.store.penalty? a.penaltyId = some p ∧ t.user? p.userId = some m ∧
        opening.lastScoring p.userId as = some g ∧
        g.store.FreshScore p.userId g.now m registered ∧
        (m.trustScore ≤ m.scoreAt registered f.now true ↔ m.trustScore = 0 ∨
          Score.ageBonus (g.now.since registered).wholeDays + Score.penaltyMalus true ≤
            Score.ageBonus (f.now.since registered).wholeDays +
              Score.penaltyMalus (g.store.isPenalized p.userId g.now)) ∧
        (opening.forward as = true → g.now.inLeapSecond = false →
          registered.inLeapSecond = false → g.store.isPenalized p.userId g.now = true →
          m.trustScore ≤ m.scoreAt registered f.now true) := by
  intro opening f id reviewerId notes b t hreview
  have hopening : opening.store.docket.Sound := sound_fresh systemId start index
  have h : f.store.docket.Sound := sound_after hopening as
  obtain ⟨a, p, ha, hp, hmem, husers⟩ := Appeals.users_of_reject h hreview
  rcases hlast : opening.lastScoring p.userId as with - | g
  · obtain ⟨q, hq, -⟩ := offender_after hopening hlast hmem rfl
    rw [penalties_fresh] at hq
    cases hq
  · obtain ⟨m, registered, hfresh, hm, hlater⟩ := freshScore_lastScoring hopening hlast
    refine ⟨a, p, m, registered, g, ha, hp, ?_, hlast, hfresh, hfresh.le_scoreAt_iff, ?_⟩
    · unfold Store.user?
      rw [husers]
      exact hm
    · exact fun hforward hnow hregistered hpenalized =>
        hfresh.le_scoreAt hpenalized (hlater hforward) hnow hregistered

/-- A ban for a week is appealed, and then some things happen. -/
def suspendedBan (later : List Action) : List Action :=
  [.write (.createUser { username := "offender" }),
    .call (.issue ⟨2, .weekBan, "spam", 1, [], false⟩), .call (.submitAppeal 1 2 "sorry")] ++ later

/-- When nothing happens before the rejection, the score still counts the ban. -/
theorem penalty_counted_after_rejection :
    let f := (fresh (some 1) ⟨1748779200, 0⟩ true).after (suspendedBan [])
    ∃ b t m registered, (Appeals.review 1 1 .reject "no" f.now).commit f.store = (.ok b, t) ∧
      t.user? 2 = some m ∧ m.registeredAt? = some registered ∧
      m.trustScore ≤ m.scoreAt registered f.now true := by
  intro f
  have hok : ((Appeals.review 1 1 .reject "no" f.now).commit f.store).1.toOption.isSome := by
    decide +kernel
  have hrow : ((f.store.pendingAppeal? 1).bind fun a => f.store.penalty? a.penaltyId).map
      Penalty.userId = some 2 := by decide +kernel
  have hforward : (fresh (some 1) ⟨1748779200, 0⟩ true).forward (suspendedBan []) = true := by
    decide +kernel
  have hscoring : ((fresh (some 1) ⟨1748779200, 0⟩ true).lastScoring 2 (suspendedBan [])).all
      fun g => g.now.inLeapSecond = false ∧ g.store.isPenalized 2 g.now = true ∧
        ((g.store.user? 2).bind Member.registeredAt?).all fun t => t.inLeapSecond = false := by
    decide +kernel
  rcases hreview : (Appeals.review 1 1 .reject "no" f.now).commit f.store with ⟨e | b, t⟩
  · rw [hreview] at hok
    cases hok
  · obtain ⟨a, p, m, registered, g, ha, hp, hm, hg, hfresh, -, hcounted⟩ :=
      rejection_carries_penalty_iff (some 1) ⟨1748779200, 0⟩ true (suspendedBan []) 1 1 "no" b t
        hreview
    rw [ha, Option.bind_some, hp, Option.map_some, Option.some_inj] at hrow
    rw [hrow] at hm hg hfresh hcounted
    rw [hg, Option.all_some, hfresh.member, Option.bind_some, hfresh.readable, Option.all_some]
      at hscoring
    obtain ⟨hnow, hpenalized, hregistered⟩ := of_decide_eq_true hscoring
    refine ⟨b, t, m, registered, rfl, hm, hfresh.readable, ?_⟩
    exact hcounted hforward hnow (of_decide_eq_true hregistered) hpenalized

/-- An approved comment computes the score anew while the ban is suspended. The rejection puts the ban
back in force, and leaves the score without it. -/
theorem penalty_ignored_after_rejection :
    let opening := fresh (some 1) ⟨1748779200, 0⟩ true
    let as := suspendedBan [.call (.record .approvedComments 2)]
    let review : Action := .call (.reviewAppeal 1 1 "reject" "no")
    let g := opening.after (as ++ [review])
    opening.forward (as ++ [review]) ∧ g.store.appeals.rows.map Appeal.status = [.rejected] ∧
      (g.store.penaltyInForce? 2 g.now).map Penalty.id = some 1 ∧
      ((g.store.user? 2).bind fun m => m.registeredAt?.map fun registered =>
        (m.trustScore, m.scoreAt registered g.now true)) = some (50, 30) := by
  decide +kernel

end Session

end CivicForum
