import CivicForum.Proofs.Appeal.Once
import CivicForum.Proofs.Docket.Refusals
import CivicForum.Proofs.Ledger.Sweep

/-! # Which appeals are admitted

* `Penalty.Contestable`: what a penalty has to be like for an appeal against it.
* `Session.EverAppealed`: an appeal against the penalty was on file at some point of the run.
* `Appeals.submitEffect_of_stranger`, `Appeals.submitEffect_of_contestable`, …: what comes of an
  appeal, by who files it and what the penalty is like.
* `Appeals.admitted_iff`, `Call.run_canAppeal_iff`: the ledger's own answer goes by the same
  conditions.
* `Session.everAppealed_iff`: an appeal that was once on file still is.
* `Session.appeals_admitted_as_foretold`: the ledger foretells which appeals are admitted, and only
  the user of a penalty is told anything about it.
-/

set_option autoImplicit false

namespace CivicForum

/-- Anything but a warning, active, and not past its end. -/
structure Penalty.Contestable (p : Penalty) (now : Instant) : Prop where
  ban : p.kind ≠ .warning
  active : p.status = .active
  running : p.hasElapsed now = false

/-- At some point of the run, an appeal against the penalty was on file. -/
def Session.EverAppealed (f : Session) (as : List Action) (penaltyId : Int) : Prop :=
  ∃ bs, bs <+: as ∧ (f.after bs).store.hasAppeal penaltyId = true

open Work

/-! ## What comes of an appeal -/

theorem Penalty.canBeAppealed_eq_true {p : Penalty} {hasAppeal : Bool} {now : Instant} :
    p.canBeAppealed hasAppeal now = true ↔ p.Contestable now ∧ hasAppeal = false := by
  cases hasAppeal with
  | true => simp [canBeAppealed]
  | false =>
    rw [canBeAppealed_false_eq_true, isInForce_eq_true]
    constructor
    · rintro ⟨⟨hactive, hrunning⟩, hban⟩
      exact ⟨⟨hban, hactive, hrunning⟩, rfl⟩
    · rintro ⟨h, -⟩
      exact ⟨⟨h.active, h.running⟩, h.ban⟩

namespace Appeals

variable {s : Store} {now : Instant} {p : Penalty} {reason : String}

theorem penalty?_of_mem (h : s.Exclusive) (hp : p ∈ s.penalties.rows) :
    s.penalty? p.id = some p := h.ids.find?_key hp

theorem submitEffect_of_stranger {penaltyId userId : Int}
    (hown : ∀ p ∈ s.penalties.rows, p.id = penaltyId → p.userId ≠ userId) :
    submitEffect s penaltyId userId reason now = .error (.notFound "penalty") := by
  have hnone : ((s.penalty? penaltyId).filter fun p => p.userId = userId) = none := by
    refine Option.eq_none_iff_forall_ne_some.mpr fun p hp => ?_
    obtain ⟨hp, huser⟩ := own_eq_some.mp hp
    obtain ⟨hmem, hid⟩ := Table.mem_of_find?_eq_some hp
    exact hown p hmem hid huser
  unfold submitEffect
  rw [hnone]

theorem submitEffect_of_own (h : s.Exclusive) (hs : s.Scorable) (hp : p ∈ s.penalties.rows) :
    submitEffect s p.id p.userId reason now =
      if s.hasAppeal p.id then .error alreadyFiled
      else if !p.canBeAppealed false now then .error notEligible
      else if Text.wordMax < s.appeals.nextId then .error (.database .full)
      else .ok (.filed s.appeals.nextId p.id p.userId reason now, s.appealed p reason now) := by
  obtain ⟨m, -, hm, -⟩ := hs p hp
  have hfiler : s.users.contains p.userId = true := Table.contains_of_find?_eq_some hm
  unfold submitEffect
  rw [own_eq_some.mpr ⟨penalty?_of_mem h hp, rfl⟩, hfiler]
  rfl

theorem submitEffect_of_not_contestable (h : s.Exclusive) (hs : s.Scorable)
    (hp : p ∈ s.penalties.rows) (hnone : s.hasAppeal p.id = false) (hnot : ¬ p.Contestable now) :
    submitEffect s p.id p.userId reason now = .error notEligible := by
  have hrefused : p.canBeAppealed false now = false :=
    eq_false_of_ne_true fun heligible => hnot (Penalty.canBeAppealed_eq_true.mp heligible).1
  rw [submitEffect_of_own h hs hp, hnone, hrefused]
  rfl

theorem submitEffect_of_contestable (h : s.Exclusive) (hs : s.Scorable)
    (hp : p ∈ s.penalties.rows) (hnone : s.hasAppeal p.id = false) (hcontest : p.Contestable now) :
    submitEffect s p.id p.userId reason now =
      if Text.wordMax < s.appeals.nextId then .error (.database .full)
      else .ok (.filed s.appeals.nextId p.id p.userId reason now, s.appealed p reason now) := by
  rw [submitEffect_of_own h hs hp, hnone,
    Penalty.canBeAppealed_eq_true.mpr ⟨hcontest, rfl⟩]
  rfl

theorem admitted_iff (h : s.Exclusive) (hs : s.Scorable) (hp : p ∈ s.penalties.rows)
    (hroom : s.appeals.nextId ≤ Text.wordMax) (reason : String) (now : Instant) :
    s.canAppeal p now = true ↔ ∃ x, submitEffect s p.id p.userId reason now = .ok x := by
  unfold Store.canAppeal
  rw [Penalty.canBeAppealed_eq_true]
  constructor
  · rintro ⟨hcontest, hnone⟩
    rw [submitEffect_of_contestable h hs hp hnone hcontest, if_neg (Int.not_lt.mpr hroom)]
    exact ⟨_, rfl⟩
  · rintro ⟨⟨a, t⟩, hx⟩
    obtain ⟨q, hq, -, hnone, heligible, -⟩ := of_submitEffect_eq_ok hx
    obtain rfl := Option.some.inj (hq.symm.trans (penalty?_of_mem h hp))
    exact ⟨(Penalty.canBeAppealed_eq_true.mp heligible).1, hnone⟩

end Appeals

theorem Call.run_canAppeal_of_mem {s : Store} {now : Instant} {p : Penalty} {systemId : Int}
    (h : s.Exclusive) (hp : p ∈ s.penalties.rows) :
    (canAppeal p.id).run systemId now s = (.ok (.truth (s.canAppeal p now)), s) := by
  rw [run_canAppeal, Appeals.penalty?_of_mem h hp]

theorem Call.run_canAppeal_iff {s : Store} {now : Instant} {p : Penalty} (h : s.docket.Sound)
    (hs : s.Scorable) (hp : p ∈ s.penalties.rows) (hroom : s.appeals.nextId ≤ Text.wordMax)
    (reason : String) (systemId : Int) :
    (canAppeal p.id).run systemId now s = (.ok (.truth true), s) ↔
      ∃ a, ((submitAppeal p.id p.userId reason).run systemId now s).1 = .ok (.appeal a) := by
  have hadmitted := Appeals.admitted_iff h.exclusive hs hp hroom reason now
  have hfile : (submitAppeal p.id p.userId reason).run systemId now s =
      ((Appeals.submitEffect s p.id p.userId reason now).answering .appeal).on s :=
    run_of_effect? h rfl systemId
  rw [hfile, run_canAppeal_of_mem h.exclusive hp]
  constructor
  · intro htrue
    obtain ⟨htrue, -⟩ := Prod.mk.inj htrue
    obtain ⟨x, hx⟩ := hadmitted.mp (Answer.truth.inj (Except.ok.inj htrue))
    rw [hx]
    exact ⟨x.1, rfl⟩
  · rintro ⟨a, ha⟩
    obtain ⟨b, hb, -⟩ := Effect.answering_eq_ok.mp (Effect.eq_ok_of_on (Prod.ext ha rfl))
    rw [hadmitted.mpr ⟨_, hb⟩]

/-! ## Whole runs -/

namespace Session

variable {f : Session} {penaltyId : Int}

theorem everAppealed_iff (h : f.store.docket.Sound) (as : List Action) :
    f.EverAppealed as penaltyId ↔ (f.after as).store.hasAppeal penaltyId = true := by
  refine ⟨?_, fun hfiled => ⟨as, List.prefix_rfl, hfiled⟩⟩
  rintro ⟨bs, ⟨cs, rfl⟩, hfiled⟩
  obtain ⟨x, hx, hid⟩ := List.any_eq_true.mp hfiled
  obtain ⟨y, hy, hxy⟩ := appealFollows_after (sound_after h bs) hx cs
  rw [after_append]
  refine List.any_eq_true.mpr ⟨y, hy, ?_⟩
  rwa [hxy.sameFiling.penaltyId]

/-- Whatever has happened, whoever appeals against a penalty that is missing or somebody else's is
told that there is no such penalty. Its user's appeal is refused if there ever was one, or if the
penalty is a warning, has been served or is not active; otherwise the penalty is suspended and the
appeal is pending, and nothing else changes. The ledger foretells which it is. Only when the
identifiers of appeals are used up is a good appeal refused, and no action takes more than one. -/
theorem appeals_admitted_as_foretold (systemId : Option Int) (start : Instant) (index : Bool)
    (as : List Action) (now : Instant) :
    let before := fresh systemId start index
    let f := before.after as
    let s := f.store
    let file (penaltyId userId : Int) (reason : String) :=
      (Call.submitAppeal penaltyId userId reason).run f.systemId now s
    (∀ penaltyId userId reason,
      (∀ p ∈ s.penalties.rows, p.id = penaltyId → p.userId ≠ userId) →
      file penaltyId userId reason = (.error (.notFound "penalty"), s)) ∧
    (∀ p ∈ s.penalties.rows, ∀ reason,
      (before.EverAppealed as p.id →
        file p.id p.userId reason = (.error Appeals.alreadyFiled, s)) ∧
      (¬ before.EverAppealed as p.id → ¬ p.Contestable now →
        file p.id p.userId reason = (.error Appeals.notEligible, s)) ∧
      (¬ before.EverAppealed as p.id → p.Contestable now → s.appeals.nextId ≤ Text.wordMax →
        let a : Appeal := .filed s.appeals.nextId p.id p.userId reason now
        file p.id p.userId reason = (.ok (.appeal a),
          { s with
            penalties := s.penalties.update p.id fun p => { p with status := .appealed }
            appeals := s.appeals.insert a })) ∧
      (¬ before.EverAppealed as p.id → p.Contestable now → Text.wordMax < s.appeals.nextId →
        file p.id p.userId reason = (.error (.database .full), s)) ∧
      (s.appeals.nextId ≤ Text.wordMax →
        ((Call.canAppeal p.id).run f.systemId now s = (.ok (.truth true), s) ↔
          ∃ a, (file p.id p.userId reason).1 = .ok (.appeal a)))) ∧
    s.appeals.lastId ≤ as.length := by
  intro before f s file
  have h : s.docket.Sound := sound_run systemId start index as
  have hs : s.Scorable := scorable_run systemId start index as
  have hever : ∀ id, before.EverAppealed as id ↔ s.hasAppeal id = true :=
    fun id => everAppealed_iff (sound_fresh systemId start index) as
  have hfile : ∀ penaltyId userId reason, file penaltyId userId reason =
      ((Appeals.submitEffect s penaltyId userId reason now).answering .appeal).on s :=
    fun _ _ _ => Call.run_of_effect? h rfl f.systemId
  refine ⟨fun penaltyId userId reason hown => ?_, fun p hp reason => ?_, ?_⟩
  · rw [hfile, Appeals.submitEffect_of_stranger hown]
    rfl
  · have hnone : ¬ before.EverAppealed as p.id → s.hasAppeal p.id = false :=
      fun hnever => eq_false_of_ne_true (mt (hever p.id).mpr hnever)
    refine ⟨fun hfiled => ?_, fun hnever hnot => ?_, fun hnever hcontest hroom => ?_,
      fun hnever hcontest hfull => ?_,
      fun hroom => Call.run_canAppeal_iff h hs hp hroom reason f.systemId⟩
    · rw [hfile, Appeals.submitEffect_of_own h.exclusive hs hp, (hever _).mp hfiled]
      rfl
    · rw [hfile, Appeals.submitEffect_of_not_contestable h.exclusive hs hp (hnone hnever) hnot]
      rfl
    · rw [hfile, Appeals.submitEffect_of_contestable h.exclusive hs hp (hnone hnever) hcontest,
        if_neg (Int.not_lt.mpr hroom)]
      rfl
    · rw [hfile, Appeals.submitEffect_of_contestable h.exclusive hs hp (hnone hnever) hcontest,
        if_pos hfull]
      rfl
  · exact lastAppealId_run_le systemId start index as

def fileFirst : Action := .call (.submitAppeal 1 2 "sorry")

/-- The ban is appealed, and the appeal is rejected. -/
def upheldBan : List Action := weekBan ++ [fileFirst, .call (.reviewAppeal 1 1 "reject" "no")]

/-- Before the appeal its user can contest the ban; afterwards it is in force again but cannot be
contested, and to anybody else it is always missing. -/
theorem upheld_ban_not_appealed_again :
    let f := (fresh (some 1) ⟨1748779200, 0⟩ true).after weekBan
    let g := (fresh (some 1) ⟨1748779200, 0⟩ true).after upheldBan
    ((Call.canAppeal 1).run f.systemId f.now f.store = (.ok (.truth true), f.store) ∧
      ∃ a, ((Call.submitAppeal 1 2 "sorry").run f.systemId f.now f.store).1 = .ok (.appeal a)) ∧
    (∀ p ∈ g.store.penalties.rows, p.Contestable g.now) ∧
    (Call.submitAppeal 1 2 "again").run g.systemId g.now g.store =
      (.error Appeals.alreadyFiled, g.store) ∧
    (Call.submitAppeal 1 1 "again").run g.systemId g.now g.store =
      (.error (.notFound "penalty"), g.store) := by
  intro f g
  obtain ⟨-, hown, -⟩ :=
    appeals_admitted_as_foretold (some 1) ⟨1748779200, 0⟩ true weekBan f.now
  obtain ⟨hstranger, hownLater, -⟩ :=
    appeals_admitted_as_foretold (some 1) ⟨1748779200, 0⟩ true upheldBan g.now
  have hrow : ∃ p ∈ f.store.penalties.rows, p.id = 1 ∧ p.userId = 2 := by decide +kernel
  have hrowLater : ∃ p ∈ g.store.penalties.rows, p.id = 1 ∧ p.userId = 2 := by decide +kernel
  obtain ⟨p, hp, hid, huser⟩ := hrow
  obtain ⟨q, hq, hqid, hquser⟩ := hrowLater
  have htrue : (Call.canAppeal 1).run f.systemId f.now f.store = (.ok (.truth true), f.store) := by
    decide +kernel
  obtain ⟨-, -, -, -, hforetold⟩ := hown p hp "sorry"
  obtain ⟨hrefused, -⟩ := hownLater q hq "again"
  rw [hid, huser] at hforetold
  rw [hqid, hquser] at hrefused
  have hroom : f.store.appeals.nextId ≤ Text.wordMax := by decide +kernel
  refine ⟨⟨htrue, (hforetold hroom).mp htrue⟩, fun r hr => ?_, hrefused ?_, ?_⟩
  · have hrows : ∀ r ∈ g.store.penalties.rows,
        r.kind ≠ .warning ∧ r.status = .active ∧ r.hasElapsed g.now = false := by decide +kernel
    obtain ⟨hban, hactive, hrunning⟩ := hrows r hr
    exact ⟨hban, hactive, hrunning⟩
  · exact ⟨upheldBan, List.prefix_rfl, by decide +kernel⟩
  · exact hstranger 1 1 "again" (by decide +kernel)

end Session

end CivicForum
