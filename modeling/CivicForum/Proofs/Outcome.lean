import CivicForum.Proofs.Reputation.Score

/-! # What comes of a call

* `Call.effect?`: the effect of each call that writes users, penalties or appeals.
* `Call.run_of_effect?`: from sound tables, a call comes to that.
-/

set_option autoImplicit false

namespace CivicForum

open Work

namespace Call

/-- The effect of a call that writes users, penalties or appeals. -/
def effect? (c : Call) (s : Store) (now : Instant) : Option (Effect Answer) :=
  match c with
  | .recalculate userId => some ((Reputation.recalculateEffect s userId now).answering .score)
  | .record c userId => some ((Reputation.recordEffect s c userId now).answering .score)
  | .issue r => some ((Ledger.issueEffect s r now).answering .penalty)
  | .revoke id revokedBy reason =>
    some ((Ledger.revokeEffect s id revokedBy reason now).answering .penalty)
  | .sweep => some (.ok (.count (s.duePenalties now).length, s.swept now))
  | .submitAppeal penaltyId userId reason =>
    some ((Appeals.submitEffect s penaltyId userId reason now).answering .appeal)
  | .reviewAppeal id reviewerId decision notes =>
    match Appeal.Decision.ofText decision with
    | .error e => some (.error e)
    | .ok d => some ((Appeals.reviewEffect s id reviewerId d notes now).answering .appeal)
  | _ => none

variable {s : Store} {now : Instant} {c : Call} {x : Effect Answer}

section Review

variable {id reviewerId : Int} {decision notes : String}

theorem effect?_of_unread {e : Refusal} (hd : Appeal.Decision.ofText decision = .error e) :
    (reviewAppeal id reviewerId decision notes).effect? s now = some (.error e) := by
  rw [effect?, hd]

theorem effect?_of_read {d : Appeal.Decision} (hd : Appeal.Decision.ofText decision = .ok d) :
    (reviewAppeal id reviewerId decision notes).effect? s now =
      some ((Appeals.reviewEffect s id reviewerId d notes now).answering .appeal) := by
  rw [effect?, hd]

end Review

theorem hasEffect_of_effect? (h : s.docket.Sound) (hx : c.effect? s now = some x)
    (systemId : Int) : HasEffect Store.Exclusive s (c.work systemId now) x := by
  have hs : s.Exclusive := h.exclusive
  cases c with
  | recalculate userId =>
    obtain rfl := Option.some.inj hx
    exact (Reputation.hasEffect_recalculate hs).answer _
  | record c userId =>
    obtain rfl := Option.some.inj hx
    exact (Reputation.hasEffect_record hs c userId now).answer _
  | issue r =>
    obtain rfl := Option.some.inj hx
    exact (Ledger.hasEffect_issue hs r now).answer _
  | revoke id revokedBy reason =>
    obtain rfl := Option.some.inj hx
    exact (Ledger.hasEffect_revoke hs id revokedBy reason now).answer _
  | sweep =>
    obtain rfl := Option.some.inj hx
    refine .bind ((Ledger.yields_sweep hs).imp ?_)
    rintro n t ⟨rfl, rfl⟩
    exact .pure rfl
  | submitAppeal penaltyId userId reason =>
    obtain rfl := Option.some.inj hx
    exact (Appeals.hasEffect_submit hs penaltyId userId reason now).answer _
  | reviewAppeal id reviewerId decision notes =>
    rcases hd : Appeal.Decision.ofText decision with e | d
    · rw [effect?_of_unread hd] at hx
      obtain rfl := Option.some.inj hx
      exact .lift_error hd
    · rw [effect?_of_read hd] at hx
      obtain rfl := Option.some.inj hx
      exact .lift hd ((Appeals.hasEffect_review h id reviewerId d notes now).answer _)
  | _ => cases hx

theorem run_of_effect? (h : s.docket.Sound) (hx : c.effect? s now = some x) (systemId : Int) :
    c.run systemId now s = x.on s :=
  (hasEffect_of_effect? h hx systemId).commit_eq

theorem effect?_reviewAppeal (id reviewerId : Int) (d : Appeal.Decision) (notes : String) :
    (reviewAppeal id reviewerId (Named.wire d) notes).effect? s now =
      some ((Appeals.reviewEffect s id reviewerId d notes now).answering .appeal) := by
  refine effect?_of_read ?_
  cases d <;> rfl

/-- A review that is answered has carried out the decision that its text names. -/
theorem of_run_reviewAppeal (h : s.docket.Sound) {systemId id reviewerId : Int}
    {decision notes : String} {ans : Answer} {t : Store}
    (hrun : (reviewAppeal id reviewerId decision notes).run systemId now s = (.ok ans, t)) :
    ∃ d b, Appeal.Decision.ofText decision = .ok d ∧ ans = .appeal b ∧
      Appeals.reviewEffect s id reviewerId d notes now = .ok (b, t) := by
  rcases hd : Appeal.Decision.ofText decision with e | d
  · rw [run_of_effect? h (effect?_of_unread hd)] at hrun
    cases hrun
  · rw [run_of_effect? h (effect?_of_read hd)] at hrun
    obtain ⟨b, hb, rfl⟩ := Effect.answering_eq_ok.mp (Effect.eq_ok_of_on hrun)
    exact ⟨d, b, rfl, rfl, hb⟩

end Call

end CivicForum
