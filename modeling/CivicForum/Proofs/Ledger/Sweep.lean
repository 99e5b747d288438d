import CivicForum.Proofs.Outcome
import CivicForum.Proofs.Session

/-! # When the sweep runs does not matter

What asks the clock takes an active penalty whose end has come for one that is gone. A sweep only
writes that down, so it may as well come later.

* `Effect.sweptAt`: an effect, with a sweep after it.
* `Ledger.sweptAt_issueEffect`, `Appeals.sweptAt_submitEffect`, …: from a store and from the same
  store swept, a service has the same effect up to a sweep.
* `Call.HeedsExpiry`: the calls for which the clock decides whether a penalty is still active.
* `Session.sweep_may_come_later`: their answers do not depend on whether a sweep has run, and a sweep
  afterwards makes up for the one before.
-/

set_option autoImplicit false

namespace CivicForum

open Work

/-! ## Rows that lapse -/

namespace Penalty

variable {p : Penalty} {now : Instant}

theorem exists_lapse_eq (now : Instant) (p : Penalty) :
    ∃ status, p.lapse now = p.withStatus status := by
  unfold lapse
  split
  · exact ⟨.expired, rfl⟩
  · exact ⟨p.status, rfl⟩

@[simp] theorem kind_lapse : (p.lapse now).kind = p.kind := by
  obtain ⟨status, h⟩ := exists_lapse_eq now p
  rw [h, kind_withStatus]

@[simp] theorem withStatus_lapse (status : Status) :
    (p.lapse now).withStatus status = p.withStatus status := by
  obtain ⟨other, h⟩ := exists_lapse_eq now p
  rw [h]
  rfl

@[simp] theorem asRevoked_lapse (revokedBy : Int) (revokedAt : Instant) (reason : String) :
    (p.lapse now).asRevoked revokedBy revokedAt reason =
      p.asRevoked revokedBy revokedAt reason := by
  obtain ⟨status, h⟩ := exists_lapse_eq now p
  rw [h]
  rfl

theorem lapse_of_isInForce (h : p.isInForce now = true) : p.lapse now = p := by
  refine if_neg fun hp => ?_
  rw [(isInForce_eq_true.mp h).2] at hp
  cases hp.2

theorem isInForce_lapse : (p.lapse now).isInForce now = p.isInForce now := by
  by_cases h : p.status = .active ∧ p.hasElapsed now = true
  · rw [lapse, if_pos h, isInForce, isInForce, h.1, h.2]
    rfl
  · rw [lapse, if_neg h]

theorem lapse_lapse : (p.lapse now).lapse now = p.lapse now := by
  by_cases h : p.status = .active ∧ p.hasElapsed now = true
  · rw [lapse.eq_def now p, if_pos h]
    exact if_neg fun hp => Status.noConfusion hp.1
  · rw [lapse.eq_def now p, if_neg h, lapse, if_neg h]

theorem lapse_retire_lapse {userId : Int} :
    ((p.lapse now).retire userId).lapse now = (p.retire userId).lapse now := by
  by_cases h : p.status = .active ∧ p.hasElapsed now = true
  · have hlapse : p.lapse now = p.withStatus .expired := if_pos h
    rw [hlapse, retire_of_status_ne Status.noConfusion]
    unfold retire
    split
    · rfl
    · rw [hlapse]
      exact if_neg fun hp => Status.noConfusion hp.1
  · rw [lapse.eq_def now p, if_neg h]

theorem canBeAppealed_lapse {hasAppeal : Bool} :
    (p.lapse now).canBeAppealed hasAppeal now = p.canBeAppealed hasAppeal now := by
  rw [canBeAppealed, isInForce_lapse, kind_lapse, canBeAppealed]

/-- What was overturned does not count toward escalation; what has lapsed does. -/
theorem countsFor_lapse {level : Kind} {t : Instant} :
    (p.lapse now).countsFor level t = p.countsFor level t := by
  unfold lapse
  split
  · next h =>
    rw [countsFor, countsFor, h.1]
    rfl
  · rfl

end Penalty

/-! ## Stores that are swept -/

namespace Table

theorem mapRows_insert {α : Type} [Keyed α] (t : Table α) (r : α) {f : α → α}
    (hf : Keyed.key (f r) = Keyed.key r) : (t.insert r).mapRows f = (t.mapRows f).insert (f r) := by
  simp [mapRows, insert, hf]

theorem mapRows_lapse_mapRows (t : Table Penalty) {now : Instant} {f : Penalty → Penalty}
    (hf : ∀ p : Penalty, (f (p.lapse now)).lapse now = (f p).lapse now) :
    ((t.mapRows (Penalty.lapse now)).mapRows f).mapRows (Penalty.lapse now) =
      (t.mapRows f).mapRows (Penalty.lapse now) := by
  rw [mapRows_mapRows, mapRows_mapRows, mapRows_mapRows]
  exact mapRows_congr fun p _ => hf p

theorem update_lapse_mapRows (t : Table Penalty) {id : Int} {now : Instant} {f : Penalty → Penalty}
    (hf : ∀ p : Penalty, f (p.lapse now) = f p) :
    ((t.mapRows (Penalty.lapse now)).update id f).mapRows (Penalty.lapse now) =
      (t.update id f).mapRows (Penalty.lapse now) := by
  rw [update_eq_mapRows, update_eq_mapRows]
  refine mapRows_lapse_mapRows t fun p => ?_
  rw [key_penalty, key_penalty, Penalty.lapse_id]
  split
  · rw [hf]
  · exact Penalty.lapse_lapse

end Table

namespace Store

variable {s t : Store} {now : Instant} {userId : Int}

theorem swept_swept : (s.swept now).swept now = s.swept now := by
  unfold swept
  rw [Table.mapRows_mapRows]
  congr 1
  exact Table.mapRows_congr fun p _ => Penalty.lapse_lapse

theorem Exclusive.swept (h : s.Exclusive) (now : Instant) : (s.swept now).Exclusive := by
  refine h.mapRows (fun _ => Penalty.lapse_id) (fun _ => Penalty.lapse_userId) fun p _ hp => ?_
  unfold Penalty.lapse at hp
  split at hp
  · cases hp
  · exact hp

theorem penaltyInForce?_eq_some (h : s.Exclusive) {p : Penalty} :
    s.penaltyInForce? userId now = some p ↔
      p ∈ s.penalties.rows ∧ p.userId = userId ∧ p.isInForce now = true := by
  rw [Ledger.penaltyInForce?_eq_some, Ledger.activePenalty?_eq_some h, Penalty.isInForce_eq_true,
    and_assoc, and_assoc]

theorem mem_swept_of_isInForce {p : Penalty} (hp : p.isInForce now = true) :
    p ∈ (s.swept now).penalties.rows ↔ p ∈ s.penalties.rows := by
  constructor
  · intro hmem
    obtain ⟨q, hq, rfl⟩ := List.mem_map.mp hmem
    rw [Penalty.isInForce_lapse] at hp
    rwa [Penalty.lapse_of_isInForce hp]
  · exact fun hmem => List.mem_map.mpr ⟨p, hmem, Penalty.lapse_of_isInForce hp⟩

theorem penaltyInForce?_swept (h : s.Exclusive) :
    (s.swept now).penaltyInForce? userId now = s.penaltyInForce? userId now := by
  ext p
  rw [penaltyInForce?_eq_some (h.swept now), penaltyInForce?_eq_some h]
  constructor
  · rintro ⟨hmem, huser, hforce⟩
    exact ⟨(mem_swept_of_isInForce hforce).mp hmem, huser, hforce⟩
  · rintro ⟨hmem, huser, hforce⟩
    exact ⟨(mem_swept_of_isInForce hforce).mpr hmem, huser, hforce⟩

theorem penalty?_swept (id : Int) :
    (s.swept now).penalty? id = (s.penalty? id).map (Penalty.lapse now) :=
  Table.find?_mapRows fun _ => Penalty.lapse_id

theorem nextKind_swept (t : Instant) : (s.swept now).nextKind userId t = s.nextKind userId t := by
  have hrows : (s.swept now).penaltiesOf userId =
      (s.penaltiesOf userId).map (Penalty.lapse now) := by
    unfold penaltiesOf swept
    rw [Table.mapRows_rows, List.filter_map, List.map_reverse]
    congr 3
    funext p
    rw [Function.comp_apply, Penalty.lapse_userId]
  unfold nextKind Penalty.nextKind
  rw [hrows]
  congr 2
  funext level
  rw [List.any_map]
  congr 1
  funext p
  exact Penalty.countsFor_lapse

theorem canAppeal_swept (p : Penalty) :
    (s.swept now).canAppeal (p.lapse now) now = s.canAppeal p now := by
  rw [canAppeal, Penalty.canBeAppealed_lapse, Penalty.lapse_id]
  rfl

theorem scoreOf_swept (h : s.Exclusive) :
    Reputation.scoreOf (s.swept now) userId now = Reputation.scoreOf s userId now := by
  have hinputs : ∀ m registered, (s.swept now).scoreInputs m registered now =
      s.scoreInputs m registered now := by
    intro m registered
    unfold scoreInputs
    rw [← Option.isSome_filter, ← Option.isSome_filter]
    have hforce := @penaltyInForce?_swept s now m.id h
    unfold penaltyInForce? at hforce
    rw [hforce]
  unfold Reputation.scoreOf
  simp only [hinputs]
  rfl

end Store

/-! ## Effects up to a sweep -/

namespace Effect

variable {α β : Type}

/-- The effect, with a sweep after it. -/
def sweptAt (x : Effect α) (now : Instant) : Effect α := x.map fun (a, t) => (a, t.swept now)

variable {x y : Effect α} {s : Store} {now : Instant}

theorem sweptAt_answering (h : x.sweptAt now = y.sweptAt now) (g : α → β) :
    (x.answering g).sweptAt now = (y.answering g).sweptAt now := by
  have hcomm : ∀ z : Effect α, (z.answering g).sweptAt now = (z.sweptAt now).answering g := by
    intro z
    rcases z with e | ⟨a, t⟩ <;> rfl
  rw [hcomm, hcomm, h]

/-- Effects that agree up to a sweep give the same answer, and the same store once it is swept. -/
theorem on_of_sweptAt_eq (h : y.sweptAt now = x.sweptAt now) :
    (y.on (s.swept now)).1 = (x.on s).1 ∧
      (y.on (s.swept now)).2.swept now = (x.on s).2.swept now := by
  rcases x with e | ⟨a, t⟩ <;> rcases y with e' | ⟨b, u⟩
  · obtain rfl := Except.error.inj h
    exact ⟨rfl, Store.swept_swept⟩
  · cases h
  · cases h
  · obtain ⟨rfl, hstore⟩ := Prod.mk.inj (Except.ok.inj h)
    exact ⟨rfl, hstore⟩

end Effect

section Services

variable {s t : Store} {now : Instant} {userId : Int}

theorem Reputation.sweptAt_recalculateEffect (hs : s.Exclusive) (ht : t.Exclusive)
    (h : t.swept now = s.swept now) :
    (recalculateEffect t userId now).sweptAt now = (recalculateEffect s userId now).sweptAt now := by
  have hscore : scoreOf t userId now = scoreOf s userId now := by
    rw [← Store.scoreOf_swept ht, h, Store.scoreOf_swept hs]
  unfold recalculateEffect
  rw [hscore]
  rcases scoreOf s userId now with e | score
  · rfl
  · have hstore : (t.setScore userId score).swept now = (s.setScore userId score).swept now :=
      congrArg (fun u => u.setScore userId score) h
    unfold Effect.sweptAt
    simp only [Except.map, hstore]

theorem Reputation.sweptAt_recordEffect (h : s.Exclusive) (c : Member.Counter) :
    (recordEffect (s.swept now) c userId now).sweptAt now =
      (recordEffect s c userId now).sweptAt now := by
  have hraised : ((s.swept now).raised userId c).swept now = (s.raised userId c).swept now :=
    congrArg (fun u => u.raised userId c) Store.swept_swept
  have huser : (s.swept now).user? userId = s.user? userId := rfl
  unfold recordEffect
  rw [huser]
  rcases s.user? userId with - | m
  · rfl
  · dsimp only
    split
    · exact sweptAt_recalculateEffect h (h.swept now) hraised
    · rfl

/-! ### Penalties -/

theorem Store.swept_issued (r : Penalty.Request) :
    ((s.swept now).issued r now).swept now = (s.issued r now).swept now := by
  have htable : (((s.swept now).retire r.userId).penalties.insert
      (r.entry s.penalties.nextId now)).mapRows (Penalty.lapse now) =
        ((s.retire r.userId).penalties.insert (r.entry s.penalties.nextId now)).mapRows
          (Penalty.lapse now) := by
    rw [Table.mapRows_insert _ _ Penalty.lapse_id, Table.mapRows_insert _ _ Penalty.lapse_id]
    congr 1
    exact s.penalties.mapRows_lapse_mapRows fun p => Penalty.lapse_retire_lapse
  unfold issued
  dsimp only
  split
  · exact congrArg (fun p => { s.withoutPending r.userId ("user banned: " ++ r.reason) now with
      penalties := p }) htable
  · exact congrArg (fun p => { s with penalties := p }) htable

theorem Store.swept_setStatus (s : Store) (id : Int) (status : Penalty.Status) :
    ((s.swept now).setStatus id status).swept now = (s.setStatus id status).swept now :=
  congrArg (fun p => { s with penalties := p })
    (s.penalties.update_lapse_mapRows fun _ => Penalty.withStatus_lapse status)

theorem Store.swept_revoked (id revokedBy : Int) (revokedAt : Instant) (reason : String) :
    ((s.swept now).revoked id revokedBy revokedAt reason).swept now =
      (s.revoked id revokedBy revokedAt reason).swept now :=
  congrArg (fun p => { s with penalties := p })
    (s.penalties.update_lapse_mapRows fun _ => Penalty.asRevoked_lapse revokedBy revokedAt reason)

namespace Ledger

theorem sweptAt_issueEffect (h : s.Exclusive) (r : Penalty.Request) :
    (issueEffect (s.swept now) r now).sweptAt now = (issueEffect s r now).sweptAt now := by
  have husers : (s.swept now).users = s.users := rfl
  have hlast : (s.swept now).penalties.nextId = s.penalties.nextId := rfl
  unfold issueEffect
  rw [Store.penaltyInForce?_swept h, husers, hlast]
  split
  · rfl
  split
  · rfl
  split
  · rfl
  split
  · rfl
  · exact Effect.sweptAt_answering (Reputation.sweptAt_recalculateEffect (exclusive_issued h r now)
      (exclusive_issued (h.swept now) r now) (Store.swept_issued r)) _

theorem sweptAt_revokePenaltyEffect (h : s.Exclusive) (p : Penalty) (revokedBy : Int)
    (reason : String) :
    (revokePenaltyEffect (s.swept now) (p.lapse now) revokedBy reason now).sweptAt now =
      (revokePenaltyEffect s p revokedBy reason now).sweptAt now := by
  have husers : (s.swept now).users = s.users := rfl
  unfold revokePenaltyEffect
  rw [husers, Penalty.lapse_id, Penalty.lapse_userId, Penalty.asRevoked_lapse]
  split
  · rfl
  · have hs : (s.revoked p.id revokedBy now reason).Exclusive := h.revoke _ _ _ _
    have ht : ((s.swept now).revoked p.id revokedBy now reason).Exclusive :=
      (h.swept now).revoke _ _ _ _
    exact Effect.sweptAt_answering (Reputation.sweptAt_recalculateEffect hs ht
      (Store.swept_revoked p.id revokedBy now reason)) _

end Ledger

/-! ### Appeals -/

theorem Store.swept_appealed (p : Penalty) (reason : String) :
    ((s.swept now).appealed (p.lapse now) reason now).swept now =
      (s.appealed p reason now).swept now := by
  unfold appealed
  rw [Penalty.lapse_id, Penalty.lapse_userId]
  exact (s.withAppeal (.filed s.appeals.nextId p.id p.userId reason now)).swept_setStatus p.id
    .appealed

namespace Appeals

theorem sweptAt_submitEffect (penaltyId userId : Int) (reason : String) :
    (submitEffect (s.swept now) penaltyId userId reason now).sweptAt now =
      (submitEffect s penaltyId userId reason now).sweptAt now := by
  have hown : ((s.swept now).penalty? penaltyId).filter (fun p => p.userId = userId) =
      ((s.penalty? penaltyId).filter fun p => p.userId = userId).map (Penalty.lapse now) := by
    rw [Store.penalty?_swept]
    rcases s.penalty? penaltyId with - | p
    · rfl
    · by_cases hu : p.userId = userId <;> simp [Option.filter, hu]
  have hfiled : (s.swept now).hasAppeal penaltyId = s.hasAppeal penaltyId := rfl
  have hlast : (s.swept now).appeals.nextId = s.appeals.nextId := rfl
  have husers : (s.swept now).users = s.users := rfl
  unfold submitEffect
  rw [hown, hfiled, hlast, husers]
  generalize (s.penalty? penaltyId).filter (fun p => p.userId = userId) = own
  rcases own with - | p
  · rfl
  · dsimp only [Option.map_some]
    rw [Penalty.canBeAppealed_lapse]
    split
    · rfl
    split
    · rfl
    split
    · rfl
    split
    · rfl
    · unfold Effect.sweptAt
      simp only [Except.map, Store.swept_appealed p reason]

/-- An approval revokes the contested penalty whatever its status. -/
theorem sweptAt_reviewEffect_approve (h : s.Exclusive) (id reviewerId : Int) (notes : String) :
    (reviewEffect (s.swept now) id reviewerId .approve notes now).sweptAt now =
      (reviewEffect s id reviewerId .approve notes now).sweptAt now := by
  have hpending : (s.swept now).pendingAppeal? id = s.pendingAppeal? id := rfl
  unfold reviewEffect
  rw [hpending]
  rcases s.pendingAppeal? id with - | a
  · rfl
  dsimp only
  rw [Store.penalty?_swept]
  rcases s.penalty? a.penaltyId with - | p
  · rfl
  dsimp only [Option.map_some]
  have hdecide : (decideEffect (s.swept now) (p.lapse now) reviewerId notes now
      .approve).sweptAt now = (decideEffect s p reviewerId notes now .approve).sweptAt now := by
    rw [decideEffect, decideEffect]
    exact Effect.sweptAt_answering (Ledger.sweptAt_revokePenaltyEffect h p reviewerId _) _
  generalize decideEffect (s.swept now) (p.lapse now) reviewerId notes now .approve = y at hdecide ⊢
  generalize decideEffect s p reviewerId notes now .approve = x at hdecide ⊢
  rcases x with e | ⟨status, t⟩ <;> rcases y with e' | ⟨status', t'⟩
  · exact congrArg _ (Except.error.inj hdecide)
  · cases hdecide
  · cases hdecide
  · obtain ⟨rfl, hstore⟩ := Prod.mk.inj (Except.ok.inj hdecide)
    have husers : (t'.swept now).users = (t.swept now).users := congrArg Store.users hstore
    have husers : t'.users = t.users := husers
    have hresolved : (t'.resolved id status' reviewerId now notes).swept now =
        (t.resolved id status' reviewerId now notes).swept now :=
      congrArg (fun u => u.resolved id status' reviewerId now notes) hstore
    dsimp only
    rw [husers]
    split
    · rfl
    · unfold Effect.sweptAt
      simp only [Except.map, hresolved]

end Appeals

end Services

/-! ## Calls -/

namespace Call

variable {s : Store} {now : Instant}

/-- The calls for which the clock decides whether a penalty is still active. Revoking, and rejecting
an appeal, go by the status alone. -/
def HeedsExpiry : Call → Prop
  | .recalculate _ | .record .. | .issue _ | .nextPenalty _ | .activePenalty _ | .ban _
  | .canAppeal _ | .submitAppeal .. => True
  | .reviewAppeal _ _ decision _ => Named.ofWire? decision ≠ some Appeal.Decision.reject
  | _ => False

/-- The answer is the same from the swept store, and so is the store once it is swept. -/
def SameSwept (c : Call) (systemId : Int) (now : Instant) (s : Store) : Prop :=
  (c.run systemId now (s.swept now)).1 = (c.run systemId now s).1 ∧
    (c.run systemId now (s.swept now)).2.swept now = (c.run systemId now s).2.swept now

theorem sameSwept_of_effect? {c : Call} (h : s.docket.Sound) {x y : Effect Answer}
    (hx : c.effect? s now = some x) (hy : c.effect? (s.swept now) now = some y)
    (hxy : y.sweptAt now = x.sweptAt now) (systemId : Int) : c.SameSwept systemId now s := by
  have hswept : (s.swept now).docket.Sound := h.lapse now
  unfold SameSwept
  rw [run_of_effect? h hx, run_of_effect? hswept hy]
  exact Effect.on_of_sweptAt_eq hxy

theorem sameSwept_of_query {c : Call} {systemId : Int} (query : Store → Except Refusal Answer)
    (hrun : ∀ t, c.run systemId now t = (query t, t)) (hquery : query (s.swept now) = query s) :
    c.SameSwept systemId now s := by
  unfold SameSwept
  rw [hrun, hrun]
  exact ⟨hquery, Store.swept_swept⟩

theorem run_canAppeal {systemId : Int} (penaltyId : Int) :
    (canAppeal penaltyId).run systemId now s =
      (match s.penalty? penaltyId with
        | some p => .ok (.truth (s.canAppeal p now))
        | none => .error (.notFound "penalty"), s) := by
  have hwork : HasEffect (fun _ => True) s ((canAppeal penaltyId).work systemId now)
      (match s.penalty? penaltyId with
        | some p => .ok (.truth (s.canAppeal p now), s)
        | none => .error (.notFound "penalty")) := by
    refine .bind (.current (.bind (.lift (fun p hp => .pure ?_) fun e he => ?_)))
    · rw [Ledger.requirePenalty_eq_ok.mp hp]
    · obtain ⟨hnone, rfl⟩ := Ledger.requirePenalty_eq_error.mp he
      rw [hnone]
  unfold run
  rw [hwork.commit_eq]
  rcases s.penalty? penaltyId with - | p <;> rfl

theorem sameSwept_of_heedsExpiry {c : Call} (hc : c.HeedsExpiry) (h : s.docket.Sound)
    (systemId : Int) : c.SameSwept systemId now s := by
  have hs : s.Exclusive := h.exclusive
  cases c with
  | recalculate userId =>
    exact sameSwept_of_effect? h rfl rfl (Effect.sweptAt_answering
      (Reputation.sweptAt_recalculateEffect hs (hs.swept now) Store.swept_swept) _) systemId
  | record c userId =>
    exact sameSwept_of_effect? h rfl rfl
      (Effect.sweptAt_answering (Reputation.sweptAt_recordEffect hs c) _) systemId
  | issue r =>
    exact sameSwept_of_effect? h rfl rfl
      (Effect.sweptAt_answering (Ledger.sweptAt_issueEffect hs r) _) systemId
  | submitAppeal penaltyId userId reason =>
    exact sameSwept_of_effect? h rfl rfl (Effect.sweptAt_answering
      (Appeals.sweptAt_submitEffect penaltyId userId reason) _) systemId
  | reviewAppeal id reviewerId decision notes =>
    rcases hd : Appeal.Decision.ofText decision with e | d
    · exact sameSwept_of_effect? h (effect?_of_unread hd) (effect?_of_unread hd) rfl systemId
    · cases d with
      | approve =>
        exact sameSwept_of_effect? h (effect?_of_read hd) (effect?_of_read hd)
          (Effect.sweptAt_answering
            (Appeals.sweptAt_reviewEffect_approve hs id reviewerId notes) _) systemId
      | reject => exact absurd (Appeal.Decision.ofText_eq_ok.mp hd) hc
  | nextPenalty userId =>
    refine sameSwept_of_query (fun t => .ok (.kind (t.nextKind userId now))) (fun _ => rfl) ?_
    rw [Store.nextKind_swept]
  | activePenalty userId =>
    refine sameSwept_of_query (fun t => .ok (.maybePenalty (t.penaltyInForce? userId now)))
      (fun _ => rfl) ?_
    rw [Store.penaltyInForce?_swept hs]
  | ban userId =>
    refine sameSwept_of_query (fun t => .ok (.maybePenalty (t.ban? userId now))) (fun _ => rfl) ?_
    rw [Store.ban?, Store.penaltyInForce?_swept hs, Store.ban?]
  | canAppeal penaltyId =>
    refine sameSwept_of_query _ (fun t => run_canAppeal penaltyId) ?_
    rw [Store.penalty?_swept]
    rcases s.penalty? penaltyId with - | p
    · rfl
    · dsimp only [Option.map_some]
      rw [Store.canAppeal_swept]
  | _ => exact hc.elim

end Call

namespace Session

/-- Whatever has happened, the calls that heed the clock give the same answer whether or not a sweep
has run just before, and a sweep at the same instant then leads to the same store. -/
theorem sweep_may_come_later (systemId : Option Int) (start : Instant) (index : Bool)
    (as : List Action) (now : Instant) (c : Call) (hc : c.HeedsExpiry) :
    let f := (fresh systemId start index).after as
    let swept := (Call.sweep.run f.systemId now f.store).2
    let early := c.run f.systemId now swept
    let late := c.run f.systemId now f.store
    early.1 = late.1 ∧
      (Call.sweep.run f.systemId now early.2).2 = (Call.sweep.run f.systemId now late.2).2 := by
  intro f swept early late
  have h : f.store.docket.Sound := sound_run systemId start index as
  have hsweep : ∀ {t : Store}, t.docket.Sound →
      (Call.sweep.run f.systemId now t).2 = t.swept now := fun ht => by
    rw [Call.run_of_effect? ht rfl]
    rfl
  have hswept : swept = f.store.swept now := hsweep h
  have hearly : early = c.run f.systemId now (f.store.swept now) := by
    rw [← hswept]
  obtain ⟨hanswer, hstore⟩ : c.SameSwept f.systemId now f.store :=
    Call.sameSwept_of_heedsExpiry hc h f.systemId
  rw [← hearly] at hanswer hstore
  have hearlySound : early.2.docket.Sound := by
    rw [hearly]
    have hsound : (f.store.swept now).docket.Sound := h.lapse now
    exact hsound.move (c.moved_run hsound f.systemId).docket
  have hlateSound : late.2.docket.Sound := h.move (c.moved_run h f.systemId).docket
  rw [hsweep hearlySound, hsweep hlateSound]
  exact ⟨hanswer, hstore⟩

/-- A ban for a day that has run out, and that no sweep has expired yet. -/
def elapsedBan : List Action :=
  [.write (.createUser { username := "offender" }),
    .call (.issue ⟨2, .dayBan, "spam", 1, [], false⟩), .advance (.ofHours 24)]

/-- The next ban for a day is admitted before the sweep as well as after it. -/
theorem next_ban_before_or_after_sweep :
    let f := (fresh (some 1) ⟨1748779200, 0⟩ true).after elapsedBan
    let swept := (Call.sweep.run f.systemId f.now f.store).2
    let c : Call := .issue ⟨2, .dayBan, "again", 1, [], false⟩
    let early := c.run f.systemId f.now swept
    let late := c.run f.systemId f.now f.store
    swept ≠ f.store ∧ late.1.toOption.isSome ∧ early.1 = late.1 ∧
      (Call.sweep.run f.systemId f.now early.2).2 = (Call.sweep.run f.systemId f.now late.2).2 := by
  intro f swept c early late
  have hswept : swept ≠ f.store := by decide +kernel
  have hok : late.1.toOption.isSome := by decide +kernel
  exact ⟨hswept, hok,
    sweep_may_come_later (some 1) ⟨1748779200, 0⟩ true elapsedBan f.now c trivial⟩

end Session

end CivicForum
