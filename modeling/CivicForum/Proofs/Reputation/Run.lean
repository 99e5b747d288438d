import CivicForum.Proofs.Frame
import CivicForum.Proofs.Reputation.Score

/-! # Scores over whole runs

* `Session.rescored?`: the user whose score an action has computed anew.
* `Session.user?_step`, `Session.offender_step`: everybody else's row stays as it is, and nobody else
  gets a new penalty.
* `Session.scores_stay_fresh`: whatever has happened, a score that is computed anew is fresh, and
  nothing else changes it.
-/

set_option autoImplicit false

namespace CivicForum

open Work Statement

/-! ## Calls and writes -/

section Calls

variable {s : Store} {now : Instant} {userId : Int} {m : Member}

theorem Call.scored_run (h : s.docket.Sound) (c : Call) (systemId : Int) :
    s.Scored now ((c.run systemId now s).1.toOption.bind c.rescored?) (c.run systemId now s).2 := by
  have hwork : Yields Store.Exclusive s (c.work systemId now)
      (fun ans t => s.Scored now (c.rescored? ans) t) fun _ => True := c.yields_scored h systemId
  rcases hrun : c.run systemId now s with ⟨e | ans, t⟩
  · obtain ⟨-, rfl⟩ := hwork.of_commit_error hrun
    exact .of_registry_eq rfl
  · exact hwork.of_commit_ok hrun

/-- A new user takes nobody's place. -/
theorem PlatformWrite.user?_run (w : PlatformWrite) (hm : s.user? userId = some m) :
    (w.run now s).2.user? userId = some m := by
  unfold Store.user? at hm ⊢
  rcases w.users_run now s with hkept | ⟨n, -, hadded⟩
  · rwa [hkept]
  · rw [hadded]
    exact Table.find?_insert hm

end Calls

/-! ## Actions -/

namespace Session

variable {f : Session} {a : Action} {userId : Int} {m : Member}

/-- The user whose score an action has computed anew, if it succeeds. -/
def rescored? (f : Session) (a : Action) : Option Int :=
  a.call?.bind fun c => (c.run f.systemId f.now f.store).1.toOption.bind c.rescored?

theorem scored_step {c : Call} (h : f.store.docket.Sound) (hc : a.call? = some c) :
    f.store.Scored f.now (f.rescored? a) (f.step a).2.store := by
  rw [step_of_call? hc]
  unfold rescored?
  rw [hc, Option.bind_some]
  exact c.scored_run h f.systemId

theorem user?_step (h : f.store.docket.Sound) (hm : f.store.user? userId = some m)
    (hne : f.rescored? a ≠ some userId) : (f.step a).2.store.user? userId = some m := by
  rcases hc : a.call? with - | c
  · rcases store_step_of_call?_eq_none hc with hkept | ⟨w, rfl⟩
    · rw [hkept]
      exact hm
    · rw [step_write]
      exact w.user?_run hm
  · rw [(scored_step h hc).user?_eq hne]
    exact hm

theorem offender_step (h : f.store.docket.Sound) (a : Action) :
    ∀ p ∈ (f.step a).2.store.penalties.rows,
      f.rescored? a = some p.userId ∨ ∃ q ∈ f.store.penalties.rows, q.SameTerms p := by
  rcases hc : a.call? with - | c
  · intro p hp
    refine .inr ⟨p, ?_, .refl p⟩
    rcases store_step_of_call?_eq_none hc with hkept | ⟨w, rfl⟩
    · rwa [hkept] at hp
    · rw [step_write] at hp
      have hkeeps : Keeps Store.core (w.work f.now) := w.keeps_work
      have hpenalties : (w.run f.now f.store).2.penalties = f.store.penalties :=
        (hkeeps f.store).of_commit (R := fun t => t.penalties = f.store.penalties) rfl
          fun _ _ ht => congrArg (fun c => c.1.penalties) ht
      rwa [hpenalties] at hp
  · exact (scored_step h hc).offenders

/-- The score that an action computes anew is fresh, and computing it once more changes nothing. -/
theorem freshScore_step (h : f.store.docket.Sound) (ha : f.rescored? a = some userId) :
    let g := (f.step a).2
    ∃ m registered, g.store.FreshScore userId g.now m registered ∧
      g.step (.call (.recalculate userId)) = (.answer (.score m.trustScore), g) := by
  intro g
  obtain ⟨c, hc, -⟩ := Option.bind_eq_some_iff.mp ha
  have hg : g.store.docket.Sound := h.move (moved_step h a).docket
  have hnow : g.now = f.now := now_step_of_call? hc
  have hanew : f.store.Rescored userId g.now g.store := by
    rw [hnow]
    exact (scored_step h hc).anew userId ha
  obtain ⟨m, registered, hfresh, hagain⟩ := hanew.recalculate hg.exclusive g.systemId
  exact ⟨m, registered, hfresh, step_call_of_ok hagain⟩

/-! ## Runs -/

/-- Whatever has happened, an action that computes a score anew leaves it fresh: it is the one that
age, counters and penalties give afterwards, and computing it once more gives it again and changes
nothing. Every other action leaves the user's row as it is. -/
theorem scores_stay_fresh (systemId : Option Int) (start : Instant) (index : Bool)
    (as : List Action) :
    let f := (fresh systemId start index).after as
    (∀ a userId, f.rescored? a = some userId →
      let g := (f.step a).2
      ∃ m registered, g.store.FreshScore userId g.now m registered ∧
        g.step (.call (.recalculate userId)) = (.answer (.score m.trustScore), g)) ∧
    ∀ a userId m, f.store.user? userId = some m → f.rescored? a ≠ some userId →
      (f.step a).2.store.user? userId = some m := by
  intro f
  have h : f.store.docket.Sound := sound_run systemId start index as
  exact ⟨fun a userId ha => freshScore_step h ha, fun a userId m hm hne => user?_step h hm hne⟩

/-- A warning computes the score of its user anew, and leaves the issuer's row as it is. -/
theorem score_fresh_after_warning :
    let f := (fresh (some 1) ⟨1748779200, 0⟩ true).after
      [.write (.createUser { username := "offender" })]
    let a : Action := .call (.issue ⟨2, .warning, "spam", 1, [], false⟩)
    let g := (f.step a).2
    (∃ m registered, g.store.FreshScore 2 g.now m registered ∧ m.trustScore = 30 ∧
      g.step (.call (.recalculate 2)) = (.answer (.score 30), g)) ∧
    ∃ m, f.store.user? 1 = some m ∧ g.store.user? 1 = some m := by
  intro f a g
  have ha : f.rescored? a = some 2 := by decide +kernel
  have hscore : (g.store.user? 2).map Member.trustScore = some 30 := by decide +kernel
  have hissuer : (f.store.user? 1).isSome := by decide +kernel
  obtain ⟨hfresh, hrest⟩ := scores_stay_fresh (some 1) ⟨1748779200, 0⟩ true
    [.write (.createUser { username := "offender" })]
  obtain ⟨m, registered, hm, hagain⟩ := hfresh a 2 ha
  obtain ⟨m', hm'⟩ := Option.isSome_iff_exists.mp hissuer
  rw [hm.member, Option.map_some, Option.some_inj] at hscore
  rw [hscore] at hagain
  refine ⟨⟨m, registered, hm, hscore, hagain⟩, m', hm', hrest a 1 m' hm' ?_⟩
  show f.rescored? a ≠ some 1
  rw [ha]
  decide

end Session

end CivicForum
