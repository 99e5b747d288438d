import CivicForum.Proofs.Call

/-! # Scores that are computed anew

* `Member.scoreAt`: the score that counters and age give, with or without a penalty.
* `Store.FreshScore`: the stored score of a user is the one that counters, age and penalties give.
* `Reputation.recordEffect`: what comes of a reputation event.
* `Store.Rescored`: what computing a score anew leaves of the users.
* `Call.rescored?`: the user whose score a call has computed anew.
* `Call.yields_scored`: every call computes the score of that user anew after its last write, and
  leaves everybody else's row alone.
-/

set_option autoImplicit false

namespace CivicForum

open Work Statement

/-! ## Stored scores -/

/-- A penalty of the user is active, and its end has not come. -/
def Store.isPenalized (s : Store) (userId : Int) (now : Instant) : Bool :=
  s.penalties.rows.any fun p => p.userId = userId && p.status = .active && !p.hasElapsed now

/-- The score that the user's counters and the whole days since registration give at an instant, with
or without a penalty in force. -/
def Member.scoreAt (m : Member) (registered now : Instant) (isPenalized : Bool) : Int :=
  Score.ofInputs {
    days := (now.since registered).wholeDays
    approvedComments := m.approvedComments
    validatedReports := m.validatedReports
    upheldFlags := m.upheldFlags
    hasActivePenalty := isPenalized }

/-- The stored score of the user is the one that counters, age and penalties give at the instant. -/
structure Store.FreshScore (s : Store) (userId : Int) (now : Instant) (m : Member)
    (registered : Instant) : Prop where
  member : s.user? userId = some m
  readable : m.registeredAt? = some registered
  score : m.trustScore = m.scoreAt registered now (s.isPenalized userId now)

variable {s t : Store} {userId : Int} {now : Instant} {m : Member}

theorem Store.isPenalized_eq (h : s.Exclusive) :
    s.isPenalized userId now = (s.penaltyInForce? userId now).isSome := by
  rw [Bool.eq_iff_iff, Option.isSome_iff_exists]
  simp only [isPenalized, List.any_eq_true, Bool.and_eq_true, decide_eq_true_eq,
    Bool.not_eq_true', Ledger.penaltyInForce?_eq_some, Ledger.activePenalty?_eq_some h, and_assoc]

theorem Store.ofInputs_scoreInputs (h : s.Exclusive) (m : Member) (registered now : Instant) :
    Score.ofInputs (s.scoreInputs m registered now) =
      m.scoreAt registered now (s.isPenalized m.id now) := by
  rw [isPenalized_eq h]
  unfold scoreInputs penaltyInForce? Member.scoreAt
  rw [Option.isSome_filter]

namespace Reputation

/-- A score can be computed exactly for the users whose time of registration can be read. -/
theorem scoreOf_eq_ok {score : Int} :
    scoreOf s userId now = .ok score ↔ ∃ m registered, s.user? userId = some m ∧
      m.registeredAt? = some registered ∧ score = Score.ofInputs (s.scoreInputs m registered now) := by
  unfold scoreOf requireMember
  rcases s.user? userId with - | m
  · simp [bind, Except.bind]
  · rcases hregistered : m.registeredAt? with - | registered
    · simp [bind, Except.bind, hregistered]
    · simp [bind, Except.bind, hregistered, eq_comm]

theorem scoreOf_of_unreadable (hm : s.user? userId = some m) (hraw : m.registeredAt? = none) :
    scoreOf s userId now = .error (.invalidTimestamp userId m.createdAt) := by
  unfold scoreOf requireMember
  rw [hm]
  simp [bind, Except.bind, hraw]

end Reputation

/-! ## Storing a score -/

namespace Store

variable {score : Int}

theorem user?_setScore_of_ne {id : Int} (h : userId ≠ id) :
    (s.setScore id score).user? userId = s.user? userId :=
  Table.find?_update_of_ne (fun _ => rfl) h

theorem user?_setScore :
    (s.setScore userId score).user? userId =
      (s.user? userId).map fun m => { m with trustScore := score } :=
  Table.find?_update_self fun _ => rfl

theorem setScore_setScore : (s.setScore userId score).setScore userId score =
    s.setScore userId score := by
  unfold setScore
  simp only [Table.update_eq_mapRows, Table.mapRows_mapRows]
  congr 1
  apply Table.mapRows_congr
  intro m _
  rw [Function.comp_apply]
  split
  · split <;> rfl
  · rfl

/-- What is stored as the score is not part of what the score depends on. -/
theorem scoreOf_setScore {id : Int} :
    Reputation.scoreOf (s.setScore id score) userId now = Reputation.scoreOf s userId now := by
  by_cases hid : userId = id
  · subst hid
    unfold Reputation.scoreOf Reputation.requireMember
    rw [user?_setScore]
    rcases s.user? userId with - | m <;> rfl
  · unfold Reputation.scoreOf Reputation.requireMember
    rw [user?_setScore_of_ne hid]
    rfl

theorem freshScore_setScore (h : s.Exclusive)
    (hscore : Reputation.scoreOf s userId now = .ok score) :
    ∃ m registered, (s.setScore userId score).FreshScore userId now m registered ∧
      m.trustScore = score := by
  obtain ⟨m, registered, hm, hregistered, hvalue⟩ := Reputation.scoreOf_eq_ok.mp hscore
  obtain ⟨-, hid⟩ := Table.mem_of_find?_eq_some hm
  refine ⟨{ m with trustScore := score }, registered, ⟨?_, hregistered, ?_⟩, rfl⟩
  · rw [user?_setScore, hm]
    rfl
  · rw [ofInputs_scoreInputs h, show m.id = userId from hid] at hvalue
    exact hvalue

end Store

/-! ## What calls do to scores -/

/-- The user's score has been computed anew, and no other user has changed. -/
def Store.Rescored (s : Store) (userId : Int) (now : Instant) (t : Store) : Prop :=
  ∃ (u : Store) (score : Int), (∀ id, id ≠ userId → u.user? id = s.user? id) ∧
    Reputation.scoreOf u userId now = .ok score ∧ t = u.setScore userId score

/-- What a call leaves of the users: a score computed anew, or all of them as they were. Only a user
with a score computed anew can have a new penalty. -/
structure Store.Scored (s : Store) (now : Instant) (rescored : Option Int) (t : Store) : Prop where
  anew : ∀ userId, rescored = some userId → s.Rescored userId now t
  kept : rescored = none → t.users = s.users
  offenders : ∀ p ∈ t.penalties.rows,
    rescored = some p.userId ∨ ∃ q ∈ s.penalties.rows, q.SameTerms p

namespace Store

theorem inherits_reinstated (s : Store) (p : Penalty) :
    Docket.Inherits s.penalties (s.reinstated p).penalties := by
  unfold reinstated
  split
  · split
    · exact Docket.inherits_setStatus _ _ _
    · exact (Docket.inherits_retire _ _).trans (Docket.inherits_setStatus _ _ _)
  · exact Docket.inherits_setStatus _ _ _

theorem Scored.unchanged (husers : t.users = s.users)
    (h : Docket.Inherits s.penalties t.penalties) : s.Scored now none t where
  anew := nofun
  kept _ := husers
  offenders p hp := .inr (h p hp)

theorem Scored.of_registry_eq (h : t.registry = s.registry) : s.Scored now none t := by
  obtain ⟨husers, hcore⟩ := Prod.mk.inj h
  have hpenalties : t.penalties = s.penalties := congrArg (fun c => c.1.penalties) hcore
  exact .unchanged husers (hpenalties ▸ Docket.Inherits.refl _)

theorem Scored.of_rescored (h : s.Rescored userId now t) (hoffenders : ∀ p ∈ t.penalties.rows,
    p.userId = userId ∨ ∃ q ∈ s.penalties.rows, q.SameTerms p) :
    s.Scored now (some userId) t where
  anew _ hid := Option.some.inj hid ▸ h
  kept := nofun
  offenders p hp := (hoffenders p hp).imp_left fun hid => congrArg some hid.symm

theorem issued_users (s : Store) (r : Penalty.Request) (now : Instant) :
    (s.issued r now).users = s.users := by
  unfold issued
  dsimp only
  split <;> rfl

theorem Scored.of_issued {r : Penalty.Request} {score : Int}
    (hscore : Reputation.scoreOf (s.issued r now) r.userId now = .ok score) :
    s.Scored now (some r.userId) ((s.issued r now).setScore r.userId score) := by
  refine .of_rescored ⟨_, score, fun id _ => ?_, hscore, rfl⟩ fun p hp => ?_
  · unfold user?
    rw [issued_users]
  · have hp : p ∈ (s.issued r now).penalties.rows := hp
    rw [Ledger.issued_penalties, Table.insert_rows, List.mem_append, List.mem_singleton] at hp
    rcases hp with hp | rfl
    · exact .inr (Docket.inherits_retire _ _ p hp)
    · exact .inl rfl

theorem Scored.of_revoked {p : Penalty} {revokedBy score : Int} {reason : String}
    (hscore : Reputation.scoreOf (s.revoked p.id revokedBy now reason) p.userId now = .ok score) :
    s.Scored now (some p.userId)
      ((s.revoked p.id revokedBy now reason).setScore p.userId score) :=
  .of_rescored ⟨s.revoked p.id revokedBy now reason, score, fun _ _ => rfl, hscore, rfl⟩
    fun q hq => .inr (Docket.inherits_revoke _ _ _ _ _ q hq)

/-- Scores do not depend on appeals. -/
theorem Scored.resolved {rescored : Option Int} (h : s.Scored now rescored t) (id : Int)
    (status : Appeal.Status) (reviewedBy : Int) (reviewedAt : Instant) (notes : String) :
    s.Scored now rescored (t.resolved id status reviewedBy reviewedAt notes) where
  anew userId hid := by
    obtain ⟨u, score, hothers, hscore, rfl⟩ := h.anew userId hid
    exact ⟨u.resolved id status reviewedBy reviewedAt notes, score, hothers, hscore, rfl⟩
  kept := h.kept
  offenders := h.offenders

end Store

namespace Reputation

/-- What comes of an event. -/
def recordEffect (s : Store) (c : Member.Counter) (userId : Int) (now : Instant) : Effect Int :=
  match s.user? userId with
  | none => .error (.notFound "user")
  | some m =>
    if m.counter c < Text.wordMax then recalculateEffect (s.raised userId c) userId now
    else .error (.database (.overflow c.column))

theorem hasEffect_record (h : s.Exclusive) (c : Member.Counter) (userId : Int) (now : Instant) :
    HasEffect Store.Exclusive s (record c userId now) (recordEffect s c userId now) := by
  unfold recordEffect
  refine .bind (yields_raiseCounter (fun hnone => ?_) (fun m hm hfull => ?_) h
    fun m hm hroom => ?_)
  · rw [hnone]
    exact .bind (.throw rfl)
  · rw [hm]
    exact if_neg (Int.not_lt.mpr hfull)
  · rw [hm]
    dsimp only
    rw [if_pos hroom]
    have hraised : (s.raised userId c).Exclusive := h
    exact hasEffect_recalculate hraised

theorem of_recordEffect_eq_ok {c : Member.Counter} {score : Int}
    (hok : recordEffect s c userId now = .ok (score, t)) :
    scoreOf (s.raised userId c) userId now = .ok score ∧
      t = (s.raised userId c).setScore userId score := by
  unfold recordEffect at hok
  split at hok
  · cases hok
  split at hok
  · exact recalculateEffect_eq_ok.mp hok
  · cases hok

theorem yields_record (h : s.Exclusive) {c : Member.Counter} :
    Yields Store.Exclusive s (record c userId now)
      (fun _ t => ∃ score, scoreOf (s.raised userId c) userId now = .ok score ∧
        t = (s.raised userId c).setScore userId score) fun _ => True :=
  (hasEffect_record h c userId now).mono (fun _ ht => ht)
    (fun score _ hok => ⟨score, of_recordEffect_eq_ok hok⟩) fun _ _ => trivial

end Reputation

/-! ## What that says about the store afterwards -/

namespace Store

/-- The new score is fresh; computing it once more at once gives it again, and changes nothing. -/
theorem Rescored.recalculate (h : s.Rescored userId now t) (ht : t.Exclusive) (systemId : Int) :
    ∃ m registered, t.FreshScore userId now m registered ∧
      (Call.recalculate userId).run systemId now t = (.ok (.score m.trustScore), t) := by
  obtain ⟨u, score, -, hscore, rfl⟩ := h
  have hu : u.Exclusive := ht
  obtain ⟨m, registered, hfresh, rfl⟩ := freshScore_setScore hu hscore
  have hagain : Yields (fun _ => True) (u.setScore userId m.trustScore)
      ((Call.recalculate userId).work systemId now)
      (fun ans v => ans = .score m.trustScore ∧ v = u.setScore userId m.trustScore)
      fun _ => False := by
    refine .bind (Reputation.yields_recalculate (fun _ => trivial) (fun e he => ?_) fun n hn => ?_)
    · rw [scoreOf_setScore, hscore] at he
      cases he
    · rw [scoreOf_setScore, hscore] at hn
      obtain rfl := Except.ok.inj hn
      exact .pure ⟨rfl, setScore_setScore⟩
  obtain ⟨ans, v, hcommit, rfl, rfl⟩ := hagain.exists_ok
  exact ⟨m, registered, hfresh, hcommit⟩

theorem Scored.user?_eq {rescored : Option Int} (h : s.Scored now rescored t)
    (hne : rescored ≠ some userId) : t.user? userId = s.user? userId := by
  rcases rescored with - | id
  · unfold user?
    rw [h.kept rfl]
  · obtain ⟨u, score, hothers, -, rfl⟩ := h.anew id rfl
    have hid : userId ≠ id := fun heq => hne (congrArg some heq.symm)
    rw [user?_setScore_of_ne hid, hothers userId hid]

end Store

/-! ## What each call does -/

theorem Appeal.Decision.ofText_eq_ok {text : String} {d : Appeal.Decision} :
    Appeal.Decision.ofText text = .ok d ↔ Named.ofWire? text = some d := by
  unfold Appeal.Decision.ofText
  cases (Named.ofWire? text : Option Appeal.Decision) <;> simp

namespace Appeals

variable {p : Penalty} {reviewerId : Int} {notes : String} {d : Appeal.Decision}
  {status : Appeal.Status}

/-- An approval computes the score of the penalty's user anew, a rejection leaves the users alone. -/
theorem Settled.scored (h : Settled s p reviewerId notes now d status t) :
    s.Scored now (if d = .approve then some p.userId else none) t := by
  cases d with
  | approve =>
    obtain ⟨rfl, score, hscore, rfl⟩ := h
    exact .of_revoked hscore
  | reject =>
    obtain ⟨rfl, rfl⟩ := h
    exact .unchanged (Ledger.reinstated_users s p) (s.inherits_reinstated p)

end Appeals

namespace Call

/-- The user whose score a call has computed anew, given its answer. -/
def rescored? : Call → Answer → Option Int
  | .recalculate userId, _ => some userId
  | .record _ userId, _ => some userId
  | .issue r, _ => some r.userId
  | .revoke .., .penalty p => some p.userId
  | .reviewAppeal _ _ decision _, .appeal a =>
    if Named.ofWire? decision = some Appeal.Decision.approve then some a.userId else none
  | _, _ => none

theorem rescored?_eq_none {c : Call} (hdocket : ¬ c.MovesDocket) (hscore : ¬ c.MovesScore)
    (ans : Answer) : c.rescored? ans = none := by
  cases c with
  | issue r => exact absurd trivial hdocket
  | revoke id revokedBy reason => exact absurd trivial hdocket
  | reviewAppeal id reviewerId decision notes => exact absurd trivial hdocket
  | recalculate userId => exact absurd trivial hscore
  | record c userId => exact absurd trivial hscore
  | _ => rfl

/-- Every call computes the score of its user anew after its last write, if any. -/
theorem yields_scored (h : s.docket.Sound) (c : Call) (systemId : Int) :
    Yields Store.Exclusive s (c.work systemId now)
      (fun ans t => s.Scored now (c.rescored? ans) t) fun _ => True := by
  by_cases hrest : c.MovesDocket ∨ c.MovesScore
  · cases c with
    | issue r =>
      exact .bind (Ledger.yields_issue h.exclusive (fun _ => trivial) (fun _ _ _ => trivial)
        (fun _ => trivial) (fun _ => trivial) (fun _ _ => trivial)
        fun _ _ hscore => .pure (.of_issued hscore))
    | revoke id revokedBy reason =>
      refine .bind ((Ledger.yields_revoke h.exclusive).mono (fun _ ht => ht) ?_ fun _ _ => trivial)
      rintro q t ⟨p, -, rfl, -, rfl, score, hscore, rfl⟩
      exact .pure (.of_revoked hscore)
    | sweep =>
      refine .bind ((Ledger.yields_sweep h.exclusive).imp ?_)
      rintro n t ⟨-, rfl⟩
      exact .pure (.unchanged rfl (Docket.inherits_lapse _ _))
    | submitAppeal penaltyId userId reason =>
      refine .bind ((Appeals.yields_submit h).mono (fun _ ht => ht) ?_ fun _ _ => trivial)
      rintro a t ⟨p, -, rfl, rfl, -, -, -, -, rfl⟩
      exact .pure (.unchanged rfl (Docket.inherits_setStatus _ _ _))
    | reviewAppeal id reviewerId decision notes =>
      refine .bind (.lift (fun d hd => ?_) fun _ _ => trivial)
      refine .bind ((Appeals.yields_review h).mono (fun _ ht => ht) ?_ fun _ _ => trivial)
      rintro b t ⟨a, p, -, hap, status, u, hsettled, rfl, rfl⟩
      have huser : (a.asReviewed status reviewerId now notes).userId = p.userId :=
        (hap.against h).user
      refine .pure (Store.Scored.resolved ?_ _ _ _ _ _)
      rw [rescored?, Appeal.Decision.ofText_eq_ok.mp hd, huser]
      simpa using hsettled.scored
    | recalculate userId =>
      refine .bind (Reputation.yields_recalculate (fun _ => h.exclusive) (fun _ _ => trivial) ?_)
      intro score hscore
      refine .pure (.of_rescored ⟨_, score, fun _ _ => rfl, hscore, rfl⟩ fun p hp => .inr ?_)
      exact Docket.Inherits.refl _ p hp
    | record c userId =>
      refine .bind ((Reputation.yields_record h.exclusive).imp ?_)
      rintro _ t ⟨score, hscore, rfl⟩
      refine .pure ?_
      refine .of_rescored ⟨_, score, fun id hid => ?_, hscore, rfl⟩ fun p hp => .inr ?_
      · exact Table.find?_update_of_ne (fun m => by cases c <;> rfl) hid
      · exact Docket.Inherits.refl _ p hp
    | _ => exact (hrest.elim id id).elim
  · obtain ⟨hdocket, hscore⟩ := not_or.mp hrest
    refine ((keeps_registry hdocket hscore) s).mono (fun t ht => ?_) (fun ans t ht => ?_)
      fun _ he => he
    · exact Store.Exclusive.of_core_eq h.exclusive (congrArg Prod.snd ht)
    · rw [rescored?_eq_none hdocket hscore]
      exact .of_registry_eq ht

end Call

end CivicForum
