import CivicForum.Proofs.Outcome
import CivicForum.Proofs.Session

/-! # An appeal is filed once and decided once

* `Appeal.Follows`: what may become of an appeal; its filing stays, and it is decided at most once.
* `Docket.Move.appealFollows`: a move loses no appeal, and each one follows its course.
* `Session.decisions`: how often a run decides an appeal.
* `Session.appeals_filed_and_decided_once`: nobody gets a second appeal against a penalty, and no
  appeal a second decision, whatever happens in between.
-/

set_option autoImplicit false

namespace CivicForum

open Work

/-! ## The course of an appeal -/

/-- What its user filed is the same in both rows. -/
structure Appeal.SameFiling (a b : Appeal) : Prop where
  id : b.id = a.id
  penaltyId : b.penaltyId = a.penaltyId
  userId : b.userId = a.userId
  reason : b.reason = a.reason
  createdAt : b.createdAt = a.createdAt

/-- What may become of an appeal: it stays as it is, or it was pending and is decided. -/
def Appeal.Follows (a b : Appeal) : Prop :=
  b = a ∨ a.SameFiling b ∧ a.status = .pending ∧ b.status ≠ .pending

namespace Appeal

variable {a b c : Appeal}

theorem SameFiling.refl (a : Appeal) : a.SameFiling a := ⟨rfl, rfl, rfl, rfl, rfl⟩

theorem Follows.sameFiling (h : a.Follows b) : a.SameFiling b := by
  rcases h with rfl | ⟨h, -⟩
  · exact .refl _
  · exact h

theorem Follows.eq_of_decided (h : a.Follows b) (ha : a.status ≠ .pending) : b = a := by
  rcases h with rfl | ⟨-, hpending, -⟩
  · rfl
  · exact absurd hpending ha

theorem Follows.trans (h : a.Follows b) (h' : b.Follows c) : a.Follows c := by
  rcases h with rfl | ⟨hfiling, hpending, hdecided⟩
  · exact h'
  · obtain rfl := h'.eq_of_decided hdecided
    exact .inr ⟨hfiling, hpending, hdecided⟩

theorem follows_asReviewed (ha : a.status = .pending) {status : Status} (hstatus : status ≠ .pending)
    (reviewer : Int) (now : Instant) (notes : String) :
    a.Follows (a.asReviewed status reviewer now notes) :=
  .inr ⟨⟨rfl, rfl, rfl, rfl, rfl⟩, ha, hstatus⟩

end Appeal

namespace Docket

variable {d d' : Docket} {now : Instant} {a b : Appeal} {p : Penalty}

/-- A decision on one appeal leaves all others as they are. -/
theorem Contests.appealFollows (hap : d.Contests a p) (h : d.Sound) (status : Appeal.Status)
    (hstatus : status ≠ .pending) (reviewer : Int) (notes : String) (t : Table Penalty)
    (hb : b ∈ d.appeals.rows) :
    ∃ c ∈ (d.decided a status reviewer now notes t).appeals.rows, b.Follows c := by
  by_cases hid : b.id = a.id
  · obtain rfl := h.appealIds.eq_of_key_eq hb hap.appeal hid
    exact ⟨_, Table.mem_update hb _, Appeal.follows_asReviewed hap.pending hstatus _ _ _⟩
  · exact ⟨b, Table.mem_update_of_ne hb hid _, .inl rfl⟩

theorem Move.appealFollows (hmove : Move now d d') (h : d.Sound) (hb : b ∈ d.appeals.rows) :
    ∃ c ∈ d'.appeals.rows, b.Follows c := by
  cases hmove with
  | rest => exact ⟨b, hb, .inl rfl⟩
  | issue r => exact ⟨b, hb, .inl rfl⟩
  | revoke p revokedBy reason => exact ⟨b, hb, .inl rfl⟩
  | sweep => exact ⟨b, hb, .inl rfl⟩
  | submit p reason => exact ⟨b, List.mem_append_left _ hb, .inl rfl⟩
  | approve a p reviewer notes hap => exact hap.appealFollows h .approved nofun reviewer notes _ hb
  | supersede a p o reviewer notes hap => exact hap.appealFollows h .rejected nofun reviewer notes _ hb
  | reinstate a p reviewer notes hap => exact hap.appealFollows h .rejected nofun reviewer notes _ hb

end Docket

/-! ## Filing and deciding again -/

namespace Appeals

variable {s t : Store} {now : Instant} {a b : Appeal}

theorem appeal?_eq_some (h : s.docket.Sound) {id : Int} :
    s.appeal? id = some a ↔ a ∈ s.appeals.rows ∧ a.id = id := h.appealIds.find?_eq_some

theorem submitEffect_of_filed (h : s.docket.Sound) (ha : a ∈ s.appeals.rows) (reason : String)
    (now : Instant) :
    submitEffect s a.penaltyId a.userId reason now = .error alreadyFiled := by
  obtain ⟨-, p, hp, hap⟩ := h.appeal a ha
  have hfind : s.penalty? a.penaltyId = some p :=
    h.exclusive.ids.find?_eq_some.mpr ⟨hp, hap.penalty.symm⟩
  have hfiled : s.hasAppeal a.penaltyId = true :=
    List.any_eq_true.mpr ⟨a, ha, decide_eq_true rfl⟩
  unfold submitEffect
  rw [own_eq_some.mpr ⟨hfind, hap.user.symm⟩]
  exact if_pos hfiled

/-- An appeal that has been decided counts as missing. -/
theorem reviewEffect_of_decided {id : Int} (ha : s.appeal? id = some a)
    (hdecided : a.status ≠ .pending) (reviewerId : Int) (d : Appeal.Decision) (notes : String) :
    reviewEffect s id reviewerId d notes now = .error (.notFound "appeal") := by
  have hnone : s.pendingAppeal? id = none := by
    unfold Store.pendingAppeal?
    rw [ha]
    simp [Option.filter, hdecided]
  unfold reviewEffect
  rw [hnone]

theorem mem_of_submitEffect {penaltyId userId : Int} {reason : String}
    (ha : submitEffect s penaltyId userId reason now = .ok (a, t)) :
    a ∈ t.appeals.rows ∧ a.penaltyId = penaltyId ∧ a.userId = userId := by
  obtain ⟨p, hp, rfl, -, -, rfl, rfl⟩ := of_submitEffect_eq_ok ha
  obtain ⟨-, rfl⟩ := Table.mem_of_find?_eq_some hp
  exact ⟨List.mem_append_right _ (List.mem_singleton_self _), rfl, rfl⟩

theorem appeal?_of_reviewEffect {id reviewerId : Int} {d : Appeal.Decision} {notes : String}
    (hb : reviewEffect s id reviewerId d notes now = .ok (b, t)) :
    t.appeal? id = some b ∧ b.status ≠ .pending := by
  obtain ⟨a, p, status, u, ha, -, hsettled, rfl, rfl⟩ := of_reviewEffect_eq_ok hb
  obtain ⟨hfind, -⟩ := Option.filter_eq_some_iff.mp ha
  refine ⟨?_, ?_⟩
  · have hupdate : (u.appeals.update id fun a => a.asReviewed status reviewerId now notes).find? id =
        (u.appeals.find? id).map fun a => a.asReviewed status reviewerId now notes :=
      Table.find?_update_self fun _ => rfl
    have hkept : u.appeals.find? id = some a := by
      rw [hsettled.kept.1]
      exact hfind
    rw [hkept] at hupdate
    exact hupdate
  · cases d with
    | approve =>
      obtain ⟨rfl, -⟩ := hsettled
      nofun
    | reject =>
      obtain ⟨rfl, -⟩ := hsettled
      nofun

end Appeals

/-! ## Runs -/

namespace Session

variable {f : Session} {a : Action} {c : Call} {x : Appeal} {ans : Answer} {id : Int}

/-- What an action is answered, if it asks for a call that is not refused. -/
def answer? (f : Session) (a : Action) : Option Answer :=
  a.call?.bind fun c => (c.run f.systemId f.now f.store).1.toOption

theorem run_of_answer? (hc : a.call? = some c) (hans : f.answer? a = some ans) :
    c.run f.systemId f.now f.store = (.ok ans, (f.step a).2.store) := by
  unfold answer? at hans
  rw [hc, Option.bind_some] at hans
  rw [step_of_call? hc]
  rcases hrun : c.run f.systemId f.now f.store with ⟨e | ans', t⟩
  · rw [hrun] at hans
    cases hans
  · rw [hrun] at hans
    obtain rfl := Option.some.inj hans
    rfl

theorem filed_of_answer? (h : f.store.docket.Sound) {penaltyId userId : Int} {reason : String}
    (ha : a.call? = some (.submitAppeal penaltyId userId reason))
    (hans : f.answer? a = some (.appeal x)) :
    x ∈ (f.step a).2.store.appeals.rows ∧ x.penaltyId = penaltyId ∧ x.userId = userId := by
  have hrun := run_of_answer? ha hans
  rw [Call.run_of_effect? h rfl] at hrun
  obtain ⟨y, hy, hxy⟩ := Effect.answering_eq_ok.mp (Effect.eq_ok_of_on hrun)
  obtain rfl := Answer.appeal.inj hxy
  exact Appeals.mem_of_submitEffect hy

theorem decided_of_answer? (h : f.store.docket.Sound) {reviewerId : Int} {decision notes : String}
    (ha : a.call? = some (.reviewAppeal id reviewerId decision notes))
    (hans : f.answer? a = some ans) :
    ∃ x, ans = .appeal x ∧ (f.step a).2.store.appeal? id = some x ∧ x.status ≠ .pending := by
  obtain ⟨d, x, -, rfl, heffect⟩ := Call.of_run_reviewAppeal h (run_of_answer? ha hans)
  exact ⟨x, rfl, Appeals.appeal?_of_reviewEffect heffect⟩

theorem appealFollows_after (h : f.store.docket.Sound) (hx : x ∈ f.store.appeals.rows)
    (as : List Action) : ∃ y ∈ (f.after as).store.appeals.rows, x.Follows y := by
  induction as generalizing f x with
  | nil => exact ⟨x, hx, .inl rfl⟩
  | cons a as ih =>
    have hmove := (moved_step h a).docket
    obtain ⟨y, hy, hxy⟩ := hmove.appealFollows h hx
    obtain ⟨z, hz, hyz⟩ := ih (h.move hmove) hy
    exact ⟨z, hz, hxy.trans hyz⟩

theorem appeal?_after (h : f.store.docket.Sound) (hx : f.store.appeal? id = some x)
    (as : List Action) : ∃ y, (f.after as).store.appeal? id = some y ∧ x.Follows y := by
  obtain ⟨hmem, rfl⟩ := (Appeals.appeal?_eq_some h).mp hx
  obtain ⟨y, hy, hxy⟩ := appealFollows_after h hmem as
  exact ⟨y, (Appeals.appeal?_eq_some (sound_after h as)).mpr ⟨hy, hxy.sameFiling.id⟩, hxy⟩

theorem decided_after (h : f.store.docket.Sound) (hx : f.store.appeal? id = some x)
    (hdecided : x.status ≠ .pending) (as : List Action) :
    (f.after as).store.appeal? id = some x := by
  obtain ⟨y, hy, hxy⟩ := appeal?_after h hx as
  rwa [hxy.eq_of_decided hdecided] at hy

/-! ### Decisions -/

/-- The action is a review of this appeal, and it is not refused. -/
def decides (f : Session) (id : Int) (a : Action) : Bool :=
  match a.call? with
  | some (.reviewAppeal id' _ _ _) => id' = id && (f.answer? a).isSome
  | _ => false

/-- How often a run decides an appeal. -/
def decisions (f : Session) (id : Int) : List Action → Nat
  | [] => 0
  | a :: as => (if f.decides id a then 1 else 0) + (f.step a).2.decisions id as

theorem of_decides (h : f.decides id a = true) :
    ∃ reviewerId decision notes ans, a.call? = some (.reviewAppeal id reviewerId decision notes) ∧
      f.answer? a = some ans := by
  unfold decides at h
  split at h
  · next id' reviewerId decision notes hc =>
    rw [Bool.and_eq_true, decide_eq_true_eq, Option.isSome_iff_exists] at h
    obtain ⟨rfl, ans, hans⟩ := h
    exact ⟨reviewerId, decision, notes, ans, hc, hans⟩
  · cases h

theorem decides_eq_false (h : f.store.docket.Sound) (hx : f.store.appeal? id = some x)
    (hdecided : x.status ≠ .pending) (a : Action) : f.decides id a = false := by
  refine eq_false_of_ne_true fun ha => ?_
  obtain ⟨reviewerId, decision, notes, ans, hc, hans⟩ := of_decides ha
  obtain ⟨d, b, -, -, heffect⟩ := Call.of_run_reviewAppeal h (run_of_answer? hc hans)
  rw [Appeals.reviewEffect_of_decided hx hdecided] at heffect
  cases heffect

theorem decisions_eq_zero (h : f.store.docket.Sound) (hx : f.store.appeal? id = some x)
    (hdecided : x.status ≠ .pending) (as : List Action) : f.decisions id as = 0 := by
  induction as generalizing f with
  | nil => rfl
  | cons a as ih =>
    have hkept := decided_after h hx hdecided [a]
    rw [decisions, decides_eq_false h hx hdecided a, ih (h.move (moved_step h a).docket) hkept]
    rfl

theorem decisions_le_one (h : f.store.docket.Sound) (id : Int) (as : List Action) :
    f.decisions id as ≤ 1 := by
  induction as generalizing f with
  | nil => exact Nat.zero_le 1
  | cons a as ih =>
    have hnext := h.move (moved_step h a).docket
    rw [decisions]
    split
    · next ha =>
      obtain ⟨reviewerId, decision, notes, ans, hc, hans⟩ := of_decides ha
      obtain ⟨x, -, hx, hdecided⟩ := decided_of_answer? h hc hans
      have hnone := decisions_eq_zero hnext hx hdecided as
      exact Nat.add_le_add_left (Nat.le_of_eq hnone) 1
    · rw [Nat.zero_add]
      exact ih hnext

/-! ### What is done once is done for ever -/

/-- Whatever happens, no appeal is ever lost, and none is changed except by its one decision; once
somebody's appeal against a penalty has been filed, every further one is refused; once an appeal has
been decided, it stays as it is, and every further review of it is refused. -/
theorem appeals_filed_and_decided_once (systemId : Option Int) (start : Instant) (index : Bool)
    (as : List Action) :
    let f := (fresh systemId start index).after as
    (∀ x ∈ f.store.appeals.rows, ∀ bs,
      ∃ y, (f.after bs).store.appeal? x.id = some y ∧ x.Follows y) ∧
    (∀ a penaltyId userId reason x, a.call? = some (.submitAppeal penaltyId userId reason) →
      f.answer? a = some (.appeal x) → ∀ bs,
      let g := (f.step a).2.after bs
      (∃ y, g.store.appeal? x.id = some y ∧ x.Follows y) ∧
      ∀ now text, ((Call.submitAppeal penaltyId userId text).run g.systemId now g.store).1 =
        .error Appeals.alreadyFiled) ∧
    (∀ a id reviewerId decision notes x,
      a.call? = some (.reviewAppeal id reviewerId decision notes) →
      f.answer? a = some (.appeal x) → ∀ bs,
      let g := (f.step a).2.after bs
      g.store.appeal? id = some x ∧
      ∀ now reviewerId (d : Appeal.Decision) notes,
        ((Call.reviewAppeal id reviewerId (Named.wire d) notes).run g.systemId now g.store).1 =
          .error (.notFound "appeal")) ∧
    ∀ id bs, f.decisions id bs ≤ 1 := by
  intro f
  have h : f.store.docket.Sound := sound_run systemId start index as
  refine ⟨fun x hx bs => ?_, fun a penaltyId userId reason x ha hans bs => ?_,
    fun a id reviewerId decision notes x ha hans bs => ?_, decisions_le_one h⟩
  · exact appeal?_after h ((Appeals.appeal?_eq_some h).mpr ⟨hx, rfl⟩) bs
  · have hnext := h.move (moved_step h a).docket
    obtain ⟨hx, rfl, rfl⟩ := filed_of_answer? h ha hans
    obtain ⟨y, hy, hxy⟩ := appeal?_after hnext ((Appeals.appeal?_eq_some hnext).mpr ⟨hx, rfl⟩) bs
    refine ⟨⟨y, hy, hxy⟩, fun now text => ?_⟩
    have hlater := sound_after hnext bs
    have hfiled := Appeals.submitEffect_of_filed hlater
      ((Appeals.appeal?_eq_some hlater).mp hy).1 text now
    rw [hxy.sameFiling.penaltyId, hxy.sameFiling.userId] at hfiled
    rw [Call.run_of_effect? hlater rfl, hfiled]
    rfl
  · have hnext := h.move (moved_step h a).docket
    obtain ⟨y, hxy, hy, hdecided⟩ := decided_of_answer? h ha hans
    obtain rfl := Answer.appeal.inj hxy
    have hkept := decided_after hnext hy hdecided bs
    refine ⟨hkept, fun now reviewerId d notes => ?_⟩
    rw [Call.run_of_effect? (sound_after hnext bs) (Call.effect?_reviewAppeal id reviewerId d notes),
      Appeals.reviewEffect_of_decided hkept hdecided]
    rfl

def weekBan : List Action :=
  [.write (.createUser { username := "offender" }),
    .call (.issue ⟨2, .weekBan, "spam", 1, [], false⟩)]

def pendingAppeal : Appeal := .filed 1 1 2 "sorry" ⟨1748779200, 0⟩

def rejectedAppeal : Appeal := pendingAppeal.asReviewed .rejected 1 ⟨1748779200, 0⟩ "no"

/-- The ban is appealed and upheld; nothing that happens afterwards gets its user another hearing. -/
theorem no_second_hearing :
    let f := (fresh (some 1) ⟨1748779200, 0⟩ true).after weekBan
    let file : Action := .call (.submitAppeal 1 2 "sorry")
    let g := (f.step file).2
    let reject : Action := .call (.reviewAppeal 1 1 "reject" "no")
    f.answer? file = some (.appeal pendingAppeal) ∧
    (∀ bs now, ((Call.submitAppeal 1 2 "please").run (g.after bs).systemId now
      (g.after bs).store).1 = .error Appeals.alreadyFiled) ∧
    g.answer? reject = some (.appeal rejectedAppeal) ∧
    ∀ bs, ((g.step reject).2.after bs).store.appeal? 1 = some rejectedAppeal := by
  intro f file g reject
  have hfile : f.answer? file = some (.appeal pendingAppeal) := by decide +kernel
  have hreject : g.answer? reject = some (.appeal rejectedAppeal) := by decide +kernel
  obtain ⟨-, hfiled, -, -⟩ :=
    appeals_filed_and_decided_once (some 1) ⟨1748779200, 0⟩ true weekBan
  obtain ⟨-, -, hdecided, -⟩ :=
    appeals_filed_and_decided_once (some 1) ⟨1748779200, 0⟩ true (weekBan ++ [file])
  refine ⟨hfile, fun bs now => ?_, hreject, fun bs => ?_⟩
  · exact (hfiled file 1 2 "sorry" pendingAppeal rfl hfile bs).2 now "please"
  · exact (hdecided reject 1 1 "reject" "no" rejectedAppeal rfl hreject bs).1

end Session

end CivicForum
