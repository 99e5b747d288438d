import CivicForum.Appeal.Review
import CivicForum.Proofs.Docket.Move

/-! # What filing and deciding appeals does

* `Store.appealed`: the store after an appeal has been filed.
* `Appeals.Settled`: the store that a decision leaves, before the appeal is marked as decided.
* `Appeals.submitEffect`, `Appeals.reviewEffect`: what comes of an appeal and of a review, in the
  order in which the reasons to refuse them are looked at.
* `Appeals.hasEffect_submit`, `Appeals.hasEffect_review`: from sound tables, every statement leaves
  at most one active penalty for each user, and the operation has that effect.
-/

set_option autoImplicit false

namespace CivicForum

/-- The penalty is suspended, and the appeal against it is the newest one. -/
def Store.appealed (s : Store) (p : Penalty) (reason : String) (now : Instant) : Store :=
  (s.withAppeal (.filed s.appeals.nextId p.id p.userId reason now)).setStatus p.id .appealed

open Work Statement

variable {s t : Store} {now : Instant}

theorem Store.hasAppeal_eq_false {penaltyId : Int} :
    s.hasAppeal penaltyId = false ↔ ∀ a ∈ s.appeals.rows, a.penaltyId ≠ penaltyId := by
  simp [hasAppeal]

namespace Penalty

theorem canBeAppealed_false_eq_true {p : Penalty} :
    p.canBeAppealed false now = true ↔ p.isInForce now = true ∧ p.kind ≠ .warning := by
  simp [canBeAppealed, Kind.isBan_eq_true]

end Penalty

namespace Appeals

/-! ## Filing -/

/-- The storage finds no other appeal where the service found none. -/
theorem yields_enter (h : s.Exclusive) {penaltyId userId : Int} {reason : String}
    {Q : Appeal → Store → Prop} {E : Refusal → Prop} (hnone : s.hasAppeal penaltyId = false)
    (hpenalty : s.penalties.contains penaltyId = true)
    (hfull : Text.wordMax < s.appeals.nextId → E (.database .full))
    (huser : s.appeals.nextId ≤ Text.wordMax → s.users.contains userId = false →
      E (.database .foreignKey))
    (hQ : s.appeals.nextId ≤ Text.wordMax → s.users.contains userId = true →
      Q (.filed s.appeals.nextId penaltyId userId reason now)
        (s.withAppeal (.filed s.appeals.nextId penaltyId userId reason now))) :
    Yields Store.Exclusive s (enter penaltyId userId reason now) Q E := by
  have hinsert : Yields Store.Exclusive s (insertAppeal penaltyId userId reason now) Q
      fun e => e.NotDuplicate ∧ E e := by
    refine yields_insertAppeal hnone (fun hf => ⟨nofun, hfull hf⟩) (fun hp => ?_)
      (fun hroom hu => ⟨nofun, huser hroom hu⟩) h hQ
    rw [hpenalty] at hp
    cases hp
  refine .tryCatch (hinsert.mono (fun _ ht => ht) (fun _ _ hq => hq) ?_)
  rintro e ⟨hnot, he⟩ t
  split
  · next column => exact absurd rfl (hnot column)
  · exact .throw he

theorem requireOwn_eq_ok {penaltyId userId : Int} {p : Penalty} :
    requireOwn s penaltyId userId = .ok p ↔
      ((s.penalty? penaltyId).filter fun p => p.userId = userId) = some p := by
  unfold requireOwn
  cases (s.penalty? penaltyId).filter fun p => p.userId = userId <;> simp

theorem requireOwn_eq_error {penaltyId userId : Int} {e : Refusal} :
    requireOwn s penaltyId userId = .error e ↔
      ((s.penalty? penaltyId).filter fun p => p.userId = userId) = none ∧
        e = .notFound "penalty" := by
  unfold requireOwn
  cases (s.penalty? penaltyId).filter fun p => p.userId = userId <;> simp [eq_comm]

/-- The user's own penalty with this identifier. -/
theorem own_eq_some {penaltyId userId : Int} {p : Penalty} :
    ((s.penalty? penaltyId).filter fun p => p.userId = userId) = some p ↔
      s.penalty? penaltyId = some p ∧ p.userId = userId := by
  simp [Option.filter_eq_some_iff]

/-- What comes of an appeal. The penalty is looked for first, then another appeal against it, and
whether it can be appealed at all. -/
def submitEffect (s : Store) (penaltyId userId : Int) (reason : String) (now : Instant) :
    Effect Appeal :=
  match (s.penalty? penaltyId).filter fun p => p.userId = userId with
  | none => .error (.notFound "penalty")
  | some p =>
    if s.hasAppeal penaltyId then .error alreadyFiled
    else if !p.canBeAppealed false now then .error notEligible
    else if Text.wordMax < s.appeals.nextId then .error (.database .full)
    else if s.users.contains userId = false then .error (.database .foreignKey)
    else .ok (.filed s.appeals.nextId penaltyId userId reason now, s.appealed p reason now)

theorem hasEffect_submit (h : s.Exclusive) (penaltyId userId : Int) (reason : String)
    (now : Instant) :
    HasEffect Store.Exclusive s (submit penaltyId userId reason now)
      (submitEffect s penaltyId userId reason now) := by
  unfold submitEffect
  refine .bind (.current (.bind (.lift (fun p hp => ?_) fun e he => ?_)))
  · rw [requireOwn_eq_ok] at hp
    rw [hp]
    obtain ⟨hpenalty, rfl⟩ := own_eq_some.mp hp
    obtain ⟨-, rfl⟩ := Table.mem_of_find?_eq_some hpenalty
    dsimp only
    split
    · exact .bind (.throw rfl)
    split
    · exact .bind (.throw rfl)
    · next hnone _ =>
      rw [Bool.not_eq_true] at hnone
      refine .bind (yields_enter h hnone (Table.contains_of_find?_eq_some hpenalty)
        (fun hfull => if_pos hfull) (fun hroom huser => ?_) fun hroom huser => ?_)
      · rw [if_neg (Int.not_lt.mpr hroom), if_pos huser]
      rw [if_neg (Int.not_lt.mpr hroom), if_neg (by rw [huser]; nofun)]
      exact .bind (.discard (yields_setPenaltyStatus hpenalty nofun (h.setStatus _ nofun)
        (.pure rfl)))
  · obtain ⟨hnone, rfl⟩ := requireOwn_eq_error.mp he
    rw [hnone]

theorem of_submitEffect_eq_ok {penaltyId userId : Int} {reason : String} {a : Appeal}
    (ha : submitEffect s penaltyId userId reason now = .ok (a, t)) :
    ∃ p, s.penalty? penaltyId = some p ∧ p.userId = userId ∧ s.hasAppeal penaltyId = false ∧
      p.canBeAppealed false now = true ∧
      a = .filed s.appeals.nextId penaltyId userId reason now ∧ t = s.appealed p reason now := by
  unfold submitEffect at ha
  split at ha
  · cases ha
  next p hown =>
  obtain ⟨hp, huser⟩ := own_eq_some.mp hown
  split at ha
  · cases ha
  split at ha
  · cases ha
  next hfiled heligible =>
  split at ha
  · cases ha
  split at ha
  · cases ha
  · cases ha
    simp only [Bool.not_eq_true, Bool.not_eq_false'] at hfiled heligible
    exact ⟨p, hp, huser, hfiled, heligible, rfl, rfl⟩

/-- The five reasons for which an appeal is refused. -/
theorem cases_of_submitEffect_eq_error {penaltyId userId : Int} {reason : String} {e : Refusal}
    (he : submitEffect s penaltyId userId reason now = .error e) :
    e = .notFound "penalty" ∨ e = alreadyFiled ∨ e = notEligible ∨
      Text.wordMax < s.appeals.nextId ∧ e = .database .full ∨
      ∃ p, s.penalty? penaltyId = some p ∧ p.userId = userId ∧
        s.users.contains userId = false ∧ e = .database .foreignKey := by
  unfold submitEffect at he
  split at he
  · exact .inl (Except.error.inj he).symm
  next p hown =>
  obtain ⟨hp, huser⟩ := own_eq_some.mp hown
  split at he
  · exact .inr (.inl (Except.error.inj he).symm)
  split at he
  · exact .inr (.inr (.inl (Except.error.inj he).symm))
  split at he
  · next hfull => exact .inr (.inr (.inr (.inl ⟨hfull, (Except.error.inj he).symm⟩)))
  split at he
  · next hfiler =>
    exact .inr (.inr (.inr (.inr ⟨p, hp, huser, hfiler, (Except.error.inj he).symm⟩)))
  · cases he

theorem yields_submit (h : s.docket.Sound) {penaltyId userId : Int} {reason : String} :
    Yields Store.Exclusive s (submit penaltyId userId reason now)
      (fun a t => ∃ p ∈ s.penalties.rows, p.id = penaltyId ∧ p.userId = userId ∧
        p.isInForce now = true ∧ p.kind ≠ .warning ∧
        (∀ b ∈ s.appeals.rows, b.penaltyId ≠ p.id) ∧
        a = .filed s.appeals.nextId penaltyId userId reason now ∧ t = s.appealed p reason now)
      Refusal.NotDuplicate := by
  refine (hasEffect_submit h.exclusive penaltyId userId reason now).mono (fun _ ht => ht)
    (fun a t ha => ?_) fun e he => ?_
  · obtain ⟨p, hp, huser, hnone, heligible, ha, ht⟩ := of_submitEffect_eq_ok ha
    obtain ⟨hmem, rfl⟩ := Table.mem_of_find?_eq_some hp
    obtain ⟨hforce, hban⟩ := Penalty.canBeAppealed_false_eq_true.mp heligible
    exact ⟨p, hmem, rfl, huser, hforce, hban, Store.hasAppeal_eq_false.mp hnone, ha, ht⟩
  · obtain rfl | rfl | rfl | ⟨-, rfl⟩ | ⟨p, -, -, -, rfl⟩ := cases_of_submitEffect_eq_error he <;>
      nofun

/-! ## Deciding -/

/-- What a decision makes of the store, with the status that the appeal is to get. -/
def Settled (s : Store) (p : Penalty) (reviewerId : Int) (notes : String) (now : Instant) :
    Appeal.Decision → Appeal.Status → Store → Prop
  | .approve, status, t => status = .approved ∧ ∃ score,
      let u := s.revoked p.id reviewerId now ("Appeal approved: " ++ notes)
      Reputation.scoreOf u p.userId now = .ok score ∧ t = u.setScore p.userId score
  | .reject, status, t => status = .rejected ∧ t = s.reinstated p

variable {a : Appeal} {p : Penalty} {d : Appeal.Decision} {status : Appeal.Status}
  {reviewerId : Int} {notes : String}

theorem Settled.kept (h : Settled s p reviewerId notes now d status t) :
    t.appeals = s.appeals ∧ t.oneActiveIndex = s.oneActiveIndex := by
  cases d with
  | approve =>
    obtain ⟨-, score, -, rfl⟩ := h
    exact ⟨rfl, rfl⟩
  | reject =>
    obtain ⟨-, rfl⟩ := h
    unfold Store.reinstated
    split
    · split <;> exact ⟨rfl, rfl⟩
    · exact ⟨rfl, rfl⟩

/-- A rejection moves the penalty by its rank among the active penalties of its user. -/
theorem move_reinstated (h : s.docket.Sound) (hap : s.docket.Contests a p) :
    Docket.Move now s.docket
      ((s.reinstated p).resolved a.id .rejected reviewerId now notes).docket := by
  unfold Store.reinstated
  rcases ho : s.activePenalty? p.userId with - | o
  · have hnone := Ledger.not_active_of_activePenalty?_eq_none ho
    have hself : s.setStatus p.id .active = (s.retire p.userId).setStatus p.id .active := by
      rw [Ledger.retire_eq_self ho]
    dsimp only
    rw [hself]
    refine .reinstate a p reviewerId notes hap fun q hq hu hs => ?_
    exact absurd hs (hnone q hq hu)
  · obtain ⟨hmem, huser, hactive⟩ := Ledger.mem_of_activePenalty? ho
    dsimp only
    split
    · next hrank => exact .supersede a p o reviewerId notes hap hmem huser hactive hrank
    · next hrank =>
      refine .reinstate a p reviewerId notes hap fun q hq hu hs => ?_
      rw [h.exclusive.one q hq o hmem (hu.trans huser.symm) hs hactive]
      exact Nat.lt_of_not_le hrank

theorem Settled.move (hsettled : Settled s p reviewerId notes now d status t)
    (h : s.docket.Sound) (hap : s.docket.Contests a p) :
    Docket.Move now s.docket (t.resolved a.id status reviewerId now notes).docket := by
  cases d with
  | approve =>
    obtain ⟨rfl, score, -, rfl⟩ := hsettled
    exact .approve a p reviewerId notes hap
  | reject =>
    obtain ⟨rfl, rfl⟩ := hsettled
    exact move_reinstated h hap

/-- What comes of a decision, before the appeal is marked as decided. -/
def decideEffect (s : Store) (p : Penalty) (reviewerId : Int) (notes : String) (now : Instant) :
    Appeal.Decision → Effect Appeal.Status
  | .approve =>
    (Ledger.revokePenaltyEffect s p reviewerId ("Appeal approved: " ++ notes) now).answering
      fun _ => .approved
  | .reject => .ok (.rejected, s.reinstated p)

theorem hasEffect_decide (h : s.docket.Sound) (hap : s.docket.Contests a p) :
    HasEffect Store.Exclusive s (decide p reviewerId d notes now)
      (decideEffect s p reviewerId notes now d) := by
  cases d with
  | approve =>
    refine .bind (.discard ((Ledger.hasEffect_revokePenalty h.exclusive hap.penalty reviewerId
      ("Appeal approved: " ++ notes) now).mono (fun _ ht => ht) (fun q t hq => .pure ?_) ?_))
    · rw [decideEffect, hq, Effect.answering_ok]
    · intro e he
      rw [decideEffect, he, Effect.answering_error]
  | reject =>
    have hstatus : p.status ≠ .active := by
      rw [hap.status h]
      nofun
    exact .bind (.discard (Ledger.yields_reinstate h.exclusive hap.penalty hstatus
      fun q => .pure rfl))

theorem settled_of_decideEffect
    (hd : decideEffect s p reviewerId notes now d = .ok (status, t)) :
    Settled s p reviewerId notes now d status t := by
  cases d with
  | approve =>
    rw [decideEffect, Effect.answering_eq_ok] at hd
    obtain ⟨q, hq, rfl⟩ := hd
    exact ⟨rfl, (Ledger.revokePenaltyEffect_eq_ok.mp hq).2.2⟩
  | reject =>
    cases hd
    exact ⟨rfl, rfl⟩

theorem notDuplicate_of_decideEffect {e : Refusal}
    (he : decideEffect s p reviewerId notes now d = .error e) : e.NotDuplicate := by
  cases d with
  | approve =>
    rw [decideEffect, Effect.answering_eq_error, Ledger.revokePenaltyEffect_eq_error] at he
    obtain ⟨-, rfl⟩ | ⟨-, he⟩ := he
    · nofun
    · exact Reputation.notDuplicate_of_scoreOf he
  | reject => cases he

theorem contests_of_pendingAppeal? (h : s.docket.Sound) {id : Int}
    (ha : s.pendingAppeal? id = some a) :
    a.id = id ∧ ∃ p, s.docket.Contests a p ∧ s.penalty? a.penaltyId = some p := by
  obtain ⟨hfind, hpending⟩ := Option.filter_eq_some_iff.mp ha
  obtain ⟨hmem, hid⟩ := Table.mem_of_find?_eq_some hfind
  obtain ⟨-, p, hp, hap⟩ := h.appeal a hmem
  refine ⟨hid, p, ⟨hmem, by simpa using hpending, hp, hap.penalty⟩, ?_⟩
  exact h.exclusive.ids.find?_eq_some.mpr ⟨hp, hap.penalty.symm⟩

theorem requirePending_eq_ok {id : Int} :
    requirePending s id = .ok a ↔ s.pendingAppeal? id = some a := by
  unfold requirePending
  cases s.pendingAppeal? id <;> simp

theorem requirePending_eq_error {id : Int} {e : Refusal} :
    requirePending s id = .error e ↔ s.pendingAppeal? id = none ∧ e = .notFound "appeal" := by
  unfold requirePending
  cases s.pendingAppeal? id <;> simp [eq_comm]

/-- What comes of a review. -/
def reviewEffect (s : Store) (id reviewerId : Int) (d : Appeal.Decision) (notes : String)
    (now : Instant) : Effect Appeal :=
  match s.pendingAppeal? id with
  | none => .error (.notFound "appeal")
  | some a =>
    match s.penalty? a.penaltyId with
    | none => .error (.notFound "penalty")
    | some p =>
      match decideEffect s p reviewerId notes now d with
      | .error e => .error e
      | .ok (status, t) =>
        if t.users.contains reviewerId = false then .error (.database .foreignKey)
        else .ok (a.asReviewed status reviewerId now notes,
          t.resolved id status reviewerId now notes)

theorem hasEffect_review (h : s.docket.Sound) (id reviewerId : Int) (d : Appeal.Decision)
    (notes : String) (now : Instant) :
    HasEffect Store.Exclusive s (review id reviewerId d notes now)
      (reviewEffect s id reviewerId d notes now) := by
  unfold reviewEffect
  refine .bind (.current (.bind (.lift (fun a ha => ?_) fun e he => ?_)))
  · rw [requirePending_eq_ok] at ha
    rw [ha]
    obtain ⟨rfl, p, hap, hfind⟩ := contests_of_pendingAppeal? h ha
    dsimp only
    rw [hfind, Ledger.requirePenalty_eq_ok.mpr hfind]
    refine .bind (.pure (.bind ((hasEffect_decide h hap).mono (fun _ ht => ht) ?_ fun e he => ?_)))
    · intro status u hd
      dsimp only
      rw [hd]
      have hsettled : Settled s p reviewerId notes now d status u := settled_of_decideEffect hd
      have hfresh : u.appeal? a.id = some a := by
        unfold Store.appeal?
        rw [hsettled.kept.1]
        exact h.appealIds.find?_key hap.appeal
      have hmove := h.move (hsettled.move h hap)
      refine yields_resolveAppeal hfresh (fun hnone => if_pos hnone) hmove.exclusive fun hsome => ?_
      exact if_neg (by rw [hsome]; nofun)
    · dsimp only
      rw [he]
  · obtain ⟨hnone, rfl⟩ := requirePending_eq_error.mp he
    rw [hnone]

theorem of_reviewEffect_eq_ok {id : Int} {b : Appeal}
    (hb : reviewEffect s id reviewerId d notes now = .ok (b, t)) :
    ∃ a p status u, s.pendingAppeal? id = some a ∧ s.penalty? a.penaltyId = some p ∧
      Settled s p reviewerId notes now d status u ∧
      b = a.asReviewed status reviewerId now notes ∧
      t = u.resolved id status reviewerId now notes := by
  unfold reviewEffect at hb
  split at hb
  · cases hb
  next a ha =>
  split at hb
  · cases hb
  next p hp =>
  split at hb
  · cases hb
  next status u hd =>
  split at hb
  · cases hb
  · cases hb
    exact ⟨a, p, status, u, ha, hp, settled_of_decideEffect hd, rfl, rfl⟩

theorem yields_review (h : s.docket.Sound) {id : Int} :
    Yields Store.Exclusive s (review id reviewerId d notes now)
      (fun b t => ∃ a p, s.pendingAppeal? id = some a ∧ s.docket.Contests a p ∧
        ∃ status u, Settled s p reviewerId notes now d status u ∧
          b = a.asReviewed status reviewerId now notes ∧
          t = u.resolved id status reviewerId now notes)
      Refusal.NotDuplicate := by
  refine (hasEffect_review h id reviewerId d notes now).mono (fun _ ht => ht) (fun b t hb => ?_)
    fun e he => ?_
  · obtain ⟨a, p, status, u, ha, hp, hsettled, rfl, rfl⟩ := of_reviewEffect_eq_ok hb
    obtain ⟨-, q, hap, hq⟩ := contests_of_pendingAppeal? h ha
    obtain rfl := Option.some.inj (hp.symm.trans hq)
    exact ⟨a, p, ha, hap, status, u, hsettled, rfl, rfl⟩
  · unfold reviewEffect at he
    split at he
    · cases he
      exact Refusal.notDuplicate_notFound _
    split at he
    · cases he
      exact Refusal.notDuplicate_notFound _
    split at he
    · next e' hd =>
      cases he
      exact notDuplicate_of_decideEffect hd
    split at he
    · cases he
      nofun
    · cases he

end Appeals

end CivicForum
