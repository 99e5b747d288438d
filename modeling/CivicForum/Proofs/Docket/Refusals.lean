import CivicForum.Proofs.Outcome
import CivicForum.Proofs.Reputation.Run

/-! # Why penalties and appeals are refused

* `Store.Scorable`: every penalty is of a user whose score can be computed.
* `Ledger.revokeAnswer`, `Appeals.reviewAnswer`, `Appeals.submitAnswer`: what is answered, with every
  reason for which a request is refused.
* `Session.scorable_run`: scores can be computed where they have to be, whatever happens.
* `Session.every_pending_appeal_can_be_decided`: there are no other refusals.
-/

set_option autoImplicit false

namespace CivicForum

open Work

variable {s : Store} {now : Instant} {p : Penalty}

/-! ## Users with penalties -/

/-- Every penalty is of a user who exists and whose time of registration can be read. -/
def Store.Scorable (s : Store) : Prop :=
  ∀ p ∈ s.penalties.rows, ∃ m registered,
    s.user? p.userId = some m ∧ m.registeredAt? = some registered

namespace Session

variable {f : Session}

/-- Whoever gets a penalty is scored in the same unit of work, and registrations never change. -/
theorem scorable_step (h : f.store.docket.Sound) (hs : f.store.Scorable) (a : Action) :
    (f.step a).2.store.Scorable := by
  intro p hp
  by_cases ha : f.rescored? a = some p.userId
  · obtain ⟨m, registered, hfresh, -⟩ := freshScore_step h ha
    exact ⟨m, registered, hfresh.member, hfresh.readable⟩
  · rcases offender_step h a p hp with hnew | ⟨q, hq, hterms⟩
    · exact absurd hnew ha
    · obtain ⟨m, registered, hm, hregistered⟩ := hs q hq
      rw [← hterms.userId] at hm
      exact ⟨m, registered, user?_step h hm ha, hregistered⟩

theorem scorable_after (h : f.store.docket.Sound) (hs : f.store.Scorable) (as : List Action) :
    (f.after as).store.Scorable := by
  induction as generalizing f with
  | nil => exact hs
  | cons a as ih => exact ih (h.move (moved_step h a).docket) (scorable_step h hs a)

theorem scorable_run (systemId : Option Int) (start : Instant) (index : Bool) (as : List Action) :
    ((fresh systemId start index).after as).store.Scorable := by
  refine scorable_after (sound_fresh systemId start index) ?_ as
  intro p hp
  rw [penalties_fresh] at hp
  cases hp

end Session

/-! ## Revoking -/

namespace Ledger

/-- What is answered to a request to revoke a penalty. -/
def revokeAnswer (s : Store) (id revokedBy : Int) (reason : String) (now : Instant) :
    Except Refusal Penalty :=
  match s.penalty? id with
  | none => .error (.notFound "penalty")
  | some p =>
    if p.status ≠ .active then .error (notRevocable p)
    else if s.users.contains revokedBy then .ok (p.asRevoked revokedBy now reason)
    else .error (.database .foreignKey)

/-- The score of a user with a penalty can be computed, so only the revoker can be missing. -/
theorem revokePenaltyEffect_of_scorable (hs : s.Scorable) (hp : p ∈ s.penalties.rows)
    {revokedBy : Int} {reason : String} (hrevoker : s.users.contains revokedBy = true) :
    ∃ score, revokePenaltyEffect s p revokedBy reason now =
      .ok (p.asRevoked revokedBy now reason,
        (s.revoked p.id revokedBy now reason).setScore p.userId score) := by
  obtain ⟨m, registered, hm, hregistered⟩ := hs p hp
  have hm : (s.revoked p.id revokedBy now reason).user? p.userId = some m := hm
  exact ⟨_, revokePenaltyEffect_eq_ok.mpr ⟨hrevoker, rfl, _,
    Reputation.scoreOf_eq_ok.mpr ⟨m, registered, hm, hregistered, rfl⟩, rfl⟩⟩

theorem on_revokeEffect (hs : s.Scorable) (id revokedBy : Int) (reason : String) :
    ((revokeEffect s id revokedBy reason now).on s).1 =
      revokeAnswer s id revokedBy reason now := by
  unfold revokeEffect revokeAnswer
  rcases hp : s.penalty? id with - | p
  · rfl
  dsimp only
  split
  · rfl
  split
  · next hrevoker =>
    obtain ⟨score, heffect⟩ := revokePenaltyEffect_of_scorable hs
      (Table.mem_of_find?_eq_some hp).1 hrevoker
    rw [heffect]
    rfl
  · next hrevoker =>
    rw [Effect.on_eq_error, revokePenaltyEffect_eq_error]
    exact .inl ⟨eq_false_of_ne_true hrevoker, rfl⟩

end Ledger

/-! ## Deciding -/

def Appeal.Decision.outcome : Appeal.Decision → Appeal.Status
  | .approve => .approved
  | .reject => .rejected

namespace Appeals

/-- What is answered to a review. -/
def reviewAnswer (s : Store) (id reviewerId : Int) (d : Appeal.Decision) (notes : String)
    (now : Instant) : Except Refusal Appeal :=
  match s.pendingAppeal? id with
  | none => .error (.notFound "appeal")
  | some a =>
    if s.users.contains reviewerId then .ok (a.asReviewed d.outcome reviewerId now notes)
    else .error (.database .foreignKey)

theorem decideEffect_of_scorable (hs : s.Scorable) (hp : p ∈ s.penalties.rows) (reviewerId : Int)
    (d : Appeal.Decision) (notes : String) (now : Instant) :
    (∃ t, decideEffect s p reviewerId notes now d = .ok (d.outcome, t) ∧
        t.users.contains reviewerId = s.users.contains reviewerId) ∨
      s.users.contains reviewerId = false ∧
        decideEffect s p reviewerId notes now d = .error (.database .foreignKey) := by
  cases d with
  | approve =>
    rw [decideEffect]
    rcases hreviewer : s.users.contains reviewerId with - | -
    · refine .inr ⟨rfl, ?_⟩
      rw [Effect.answering_eq_error, Ledger.revokePenaltyEffect_eq_error]
      exact .inl ⟨hreviewer, rfl⟩
    · obtain ⟨score, heffect⟩ := Ledger.revokePenaltyEffect_of_scorable hs hp hreviewer
      rw [heffect]
      refine .inl ⟨_, rfl, ?_⟩
      rw [← hreviewer]
      exact Table.contains_update fun _ => rfl
  | reject =>
    refine .inl ⟨s.reinstated p, rfl, ?_⟩
    rw [Ledger.reinstated_users]

theorem on_reviewEffect (h : s.docket.Sound) (hs : s.Scorable) (id reviewerId : Int)
    (d : Appeal.Decision) (notes : String) :
    ((reviewEffect s id reviewerId d notes now).on s).1 =
      reviewAnswer s id reviewerId d notes now := by
  unfold reviewEffect reviewAnswer
  rcases ha : s.pendingAppeal? id with - | a
  · rfl
  obtain ⟨-, p, hap, hfind⟩ := contests_of_pendingAppeal? h ha
  dsimp only
  rw [hfind]
  dsimp only
  obtain ⟨t, hdecide, husers⟩ | ⟨hnone, hdecide⟩ :=
    decideEffect_of_scorable hs hap.penalty reviewerId d notes now
  · rw [hdecide]
    dsimp only
    rw [husers]
    rcases s.users.contains reviewerId <;> rfl
  · rw [hdecide, hnone]
    rfl

/-! ## Filing -/

/-- What is answered to an appeal. -/
def submitAnswer (s : Store) (penaltyId userId : Int) (reason : String) (now : Instant) :
    Except Refusal Appeal :=
  match (s.penalty? penaltyId).filter fun p => p.userId = userId with
  | none => .error (.notFound "penalty")
  | some p =>
    if s.hasAppeal penaltyId then .error alreadyFiled
    else if !p.canBeAppealed false now then .error notEligible
    else if Text.wordMax < s.appeals.nextId then .error (.database .full)
    else .ok (.filed s.appeals.nextId penaltyId userId reason now)

theorem on_submitEffect (hs : s.Scorable) (penaltyId userId : Int) (reason : String) :
    ((submitEffect s penaltyId userId reason now).on s).1 =
      submitAnswer s penaltyId userId reason now := by
  unfold submitEffect submitAnswer
  generalize hown : (s.penalty? penaltyId).filter (fun p => p.userId = userId) = own
  rcases own with - | p
  · rfl
  obtain ⟨hp, rfl⟩ := own_eq_some.mp hown
  obtain ⟨m, -, hm, -⟩ := hs p (Table.mem_of_find?_eq_some hp).1
  have hfiler : s.users.contains p.userId = true := Table.contains_of_find?_eq_some hm
  dsimp only
  split
  · rfl
  split
  · rfl
  split
  · rfl
  · rw [if_neg (by rw [hfiler]; nofun)]
    rfl

end Appeals

/-! ## Whole runs -/

namespace Session

/-- Whatever has happened: a review is refused only when the appeal is not pending or the reviewer is
missing; a penalty is not revoked only when it is missing or not active or the revoker is missing; an
appeal is refused only when the user has no such penalty, when it was appealed before, or when it
cannot be appealed, as long as there are identifiers left, of which every action takes at most one;
and a sweep is never refused. -/
theorem every_pending_appeal_can_be_decided (systemId : Option Int) (start : Instant)
    (index : Bool) (as : List Action) :
    let f := (fresh systemId start index).after as
    (∀ id reviewerId d notes,
      ((Call.reviewAppeal id reviewerId (Named.wire d) notes).run f.systemId f.now f.store).1 =
        (Appeals.reviewAnswer f.store id reviewerId d notes f.now).map .appeal) ∧
    (∀ id revokedBy reason,
      ((Call.revoke id revokedBy reason).run f.systemId f.now f.store).1 =
        (Ledger.revokeAnswer f.store id revokedBy reason f.now).map .penalty) ∧
    (∀ penaltyId userId reason,
      ((Call.submitAppeal penaltyId userId reason).run f.systemId f.now f.store).1 =
        (Appeals.submitAnswer f.store penaltyId userId reason f.now).map .appeal) ∧
    f.store.appeals.lastId ≤ as.length ∧
    ∃ n, (Call.sweep.run f.systemId f.now f.store).1 = .ok (.count n) := by
  intro f
  have h : f.store.docket.Sound := sound_run systemId start index as
  have hs : f.store.Scorable := scorable_run systemId start index as
  refine ⟨fun id reviewerId d notes => ?_, fun id revokedBy reason => ?_,
    fun penaltyId userId reason => ?_, ?_, ?_⟩
  · rw [Call.run_of_effect? h (Call.effect?_reviewAppeal id reviewerId d notes),
      Effect.on_answering, Appeals.on_reviewEffect h hs]
  · rw [Call.run_of_effect? h rfl, Effect.on_answering, Ledger.on_revokeEffect hs]
  · rw [Call.run_of_effect? h rfl, Effect.on_answering, Appeals.on_submitEffect hs]
  · have hfresh : (fresh systemId start index).store.appeals.lastId = 0 :=
      congrArg (fun d => d.appeals.lastId) (docket_fresh systemId start index)
    have hlast := lastAppealId_after_le (sound_fresh systemId start index) as
    rw [hfresh, Int.zero_add] at hlast
    exact hlast
  · rw [Call.run_of_effect? h rfl]
    exact ⟨_, rfl⟩

end Session

end CivicForum
