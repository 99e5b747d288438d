import CivicForum.Proofs.Appeal.Once
import CivicForum.Proofs.Reputation.Merit
import CivicForum.Proofs.Watch.Flagging
import CivicForum.Proofs.Watch.Reporter
import Mathlib.Algebra.Group.Action.Defs
import Mathlib.Algebra.Order.BigOperators.Group.List
import Mathlib.Algebra.Order.Ring.Nat

/-! # What flags weigh together

The weight of one reporter is looked up among the users; that of all pending flags comes from a join
of the flags with the users, which passes over a flag whose reporter is not there.

* `Session.Reachable`: a forum that actions and starts have led to.
* `Store.Attributed`: there is no such flag; every move of the watchlist and the flags keeps it so,
  and so does a start.
* `Store.weight?`: what a row of the join weighs.
* `Store.map_weightFor`: with all reporters there, the join has a row for every flag, of the weight
  that is looked up.
* `Store.quarters_weightedFlags_of_scan`: what a scan adds to the weight of every piece of content.
* `Session.weighted_flags_add_up`: the weighted count is the sum of the weights, and a scan raises
  it by one for each of its flags.
-/

set_option autoImplicit false

namespace CivicForum

/-- A fresh forum has become this one, by actions and by starts on what an earlier run left. -/
inductive Session.Reachable : Session → Prop where
  | fresh (systemId : Option Int) (now : Instant) (index : Bool) :
      Reachable (fresh systemId now index)
  | step {f : Session} (h : Reachable f) (a : Action) : Reachable (f.step a).2
  | resumed {f : Session} (h : Reachable f) (id : Int) (createdAt : String) (now : Instant) :
      Reachable (resumed f.store id createdAt now)

/-- Every flag has a reporter who is there. -/
def Store.Attributed (s : Store) : Prop :=
  ∀ r ∈ s.flags.rows, s.users.contains r.reporterId = true

/-- What a flag weighs in the join, if the join finds its reporter. -/
def Store.weight? (s : Store) (systemId : Int) (r : Flag) : Option Weight :=
  (s.user? r.reporterId).map fun m =>
    if r.reporterId = systemId then .one else (Level.ofScore m.trustScore).weight

/-! ## Sums of weights -/

namespace Weight

theorem quarters_sum (ws : List Weight) : (sum ws).quarters = (ws.map quarters).sum := by
  unfold sum
  induction ws with
  | nil => rfl
  | cons w rest ih => exact congrArg (w.quarters + ·) ih

theorem sum_bounds {ws : List Weight} (h : ∀ w ∈ ws, 2 ≤ w.quarters ∧ w.quarters ≤ 6) :
    2 * ws.length ≤ (ws.map quarters).sum ∧ (ws.map quarters).sum ≤ 6 * ws.length := by
  have hlower : ∀ n ∈ ws.map quarters, 2 ≤ n := List.forall_mem_map.mpr fun w hw => (h w hw).1
  have hupper : ∀ n ∈ ws.map quarters, n ≤ 6 := List.forall_mem_map.mpr fun w hw => (h w hw).2
  have hleast := List.card_nsmul_le_sum _ 2 hlower
  have hmost := List.sum_le_card_nsmul _ 6 hupper
  rw [List.length_map, smul_eq_mul] at hleast hmost
  omega

end Weight

/-! ## Reporters -/

namespace Store

variable {s t : Store} {systemId contentId : Int} {kind : Content.Kind} {now : Instant}
  {w : Weight} {r : Flag} {flags : List Flag} {entries : List Watch.Entry}

theorem reporter_of_mem_flagsBy (hr : r ∈ s.flagsBy systemId kind contentId now entries) :
    r.reporterId = systemId ∧ r.contentKind = kind ∧ r.contentId = contentId ∧
      r.status = .pending := by
  obtain ⟨i, hi, rfl⟩ := List.mem_mapIdx.mp hr
  exact ⟨rfl, rfl, rfl, rfl⟩

theorem ne_nil_of_mem_flagsBy (hr : r ∈ s.flagsBy systemId kind contentId now entries) :
    entries ≠ [] := by
  rintro rfl
  exact List.not_mem_nil hr

/-- The flags after a move have reporters who were there before it. -/
theorem Attributed.reporter_of_move {Reported : Statement.NewFlag → Prop} (h : s.Attributed)
    (hmove : Watch.Move systemId Reported s t) :
    ∀ r ∈ t.flags.rows, s.users.contains r.reporterId = true := by
  intro r hr
  cases hmove with
  | rest t ht =>
    obtain ⟨-, hflags⟩ := Prod.mk.inj ht
    rw [hflags] at hr
    exact h r hr
  | report q now hq hroom hreporter =>
    rcases List.mem_append.mp hr with hr | hr
    · exact h r hr
    · obtain rfl := List.mem_singleton.mp hr
      exact hreporter
  | settle id status =>
    obtain ⟨q, hq, rfl⟩ := List.mem_map.mp hr
    have hreporter := h q hq
    split
    · exact hreporter
    · exact hreporter
  | list keyword isPattern flagReason now => exact h r hr
  | switch id isActive => exact h r hr
  | scan content kind contentId now hroom hreporter =>
    rw [flaggedByAll_flags] at hr
    rcases List.mem_append.mp hr with hr | hr
    · exact h r hr
    · rw [(reporter_of_mem_flagsBy hr).1]
      exact hreporter (ne_nil_of_mem_flagsBy hr)

theorem Attributed.withSystem (h : s.Attributed) (id : Int) (createdAt : String) :
    (s.withSystem id createdAt).Attributed := by
  by_cases hbars : s.barsSystem id = true
  · rw [withSystem_of_bars hbars]
    exact h
  · rw [withSystem_of_not_bars (eq_false_of_ne_true hbars)]
    exact fun r hr => Table.contains_insert (h r hr)

/-! ## The join -/

theorem exists_weight? (systemId : Int) (h : s.users.contains r.reporterId = true) :
    ∃ w, s.weight? systemId r = some w := by
  obtain ⟨m, hm⟩ := Option.isSome_iff_exists.mp h
  exact ⟨_, congrArg (Option.map _) hm⟩

theorem weight?_of_system (h : s.users.contains systemId = true) (hr : r.reporterId = systemId) :
    s.weight? systemId r = some .one := by
  obtain ⟨m, hm⟩ := Option.isSome_iff_exists.mp h
  have hm : s.user? systemId = some m := hm
  unfold weight?
  rw [hr, hm, Option.map_some, if_pos rfl]

theorem weight?_bounds (h : s.weight? systemId r = some w) : 2 ≤ w.quarters ∧ w.quarters ≤ 6 := by
  obtain ⟨m, -, rfl⟩ := Option.map_eq_some_iff.mp h
  split
  · decide
  · have hrank := Level.rank_le_four (Level.ofScore m.trustScore)
    rw [Level.quarters_weight]
    omega

theorem weightFor_system (s : Store) (systemId : Int) : s.weightFor systemId systemId = .ok .one :=
  if_pos rfl

/-- The look-up and the join agree. -/
theorem weightFor_of_weight? (h : s.weight? systemId r = some w) :
    s.weightFor systemId r.reporterId = .ok w := by
  obtain ⟨m, hm, rfl⟩ := Option.map_eq_some_iff.mp h
  by_cases hsystem : r.reporterId = systemId
  · rw [if_pos hsystem, hsystem]
    exact weightFor_system s systemId
  · have hmember : Reputation.requireMember s r.reporterId = .ok m := by
      unfold Reputation.requireMember
      rw [hm]
    unfold weightFor
    rw [if_neg hsystem, if_neg hsystem, hmember]
    rfl

/-- No flag is passed over when all the reporters are there. -/
theorem map_weightFor (systemId : Int) (h : ∀ r ∈ flags, s.users.contains r.reporterId = true) :
    flags.map (fun r => s.weightFor systemId r.reporterId) =
      (flags.filterMap (s.weight? systemId)).map .ok := by
  induction flags with
  | nil => rfl
  | cons r rest ih =>
    obtain ⟨w, hw⟩ := exists_weight? systemId (h r List.mem_cons_self)
    rw [List.map_cons, List.filterMap_cons_some hw, List.map_cons, weightFor_of_weight? hw,
      ih fun q hq => h q (List.mem_cons_of_mem r hq)]

theorem weightedFlags_eq (s : Store) (systemId : Int) (kind : Content.Kind) (contentId : Int) :
    s.weightedFlags systemId kind contentId =
      .sum ((s.pendingFlags kind contentId).filterMap (s.weight? systemId)) := by
  unfold weightedFlags pendingReporters
  rw [List.map_filterMap]
  refine congrArg (fun g => Weight.sum (List.filterMap g _)) (funext fun r => ?_)
  rw [Option.map_map]
  rfl

/-! ## Scans -/

/-- The flags of the system weigh one each. -/
theorem filterMap_weight?_of_system (h : ∀ r ∈ flags, s.users.contains systemId = true ∧
    r.reporterId = systemId) :
    flags.filterMap (s.weight? systemId) = List.replicate flags.length .one := by
  rw [← List.map_const']
  refine List.filterMap_eq_map_iff_forall_eq_some.mpr fun r hr => ?_
  obtain ⟨hsystem, hreporter⟩ := h r hr
  exact weight?_of_system hsystem hreporter

theorem weight?_flaggedByAll :
    (s.flaggedByAll systemId kind contentId now entries).weight? systemId = s.weight? systemId := by
  rw [flaggedByAll_eq]
  rfl

theorem pendingFlags_flaggedByAll (kind' : Content.Kind) (contentId' : Int) :
    (s.flaggedByAll systemId kind contentId now entries).pendingFlags kind' contentId' =
      s.pendingFlags kind' contentId' ++ if (kind', contentId') = (kind, contentId) then
        s.flagsBy systemId kind contentId now entries else [] := by
  unfold pendingFlags
  rw [flaggedByAll_flags, List.filter_append]
  congr 1
  split
  · next heq =>
    obtain ⟨rfl, rfl⟩ := Prod.mk.inj heq
    exact List.filter_eq_self.mpr fun r hr => decide_eq_true (reporter_of_mem_flagsBy hr).2
  · next hne =>
    refine List.filter_eq_nil_iff.mpr fun r hr hother => hne ?_
    obtain ⟨-, hkind, hid, -⟩ := reporter_of_mem_flagsBy hr
    obtain ⟨hkind', hid', -⟩ := of_decide_eq_true hother
    rw [← hkind', ← hid', hkind, hid]

/-- A scan adds one for each of its flags to the content that it was made for, and nothing to any
other content. -/
theorem quarters_weightedFlags_of_scan {content : String} {fs : List Flag}
    (h : Watch.scanEffect s systemId content kind contentId now = .ok (fs, t))
    (kind' : Content.Kind) (contentId' : Int) :
    (t.weightedFlags systemId kind' contentId').quarters =
      (s.weightedFlags systemId kind' contentId').quarters +
        if (kind', contentId') = (kind, contentId) then 4 * fs.length else 0 := by
  obtain ⟨rfl, rfl, hraised⟩ := Watch.raiseEffect_eq_ok h
  generalize Watch.matching s.activeKeywords content = entries at hraised ⊢
  have hones : (s.flagsBy systemId kind contentId now entries).filterMap (s.weight? systemId) =
      List.replicate (s.flagsBy systemId kind contentId now entries).length .one :=
    filterMap_weight?_of_system fun r hr =>
      ⟨(hraised (ne_nil_of_mem_flagsBy hr)).1, (reporter_of_mem_flagsBy hr).1⟩
  rw [weightedFlags_eq, weightedFlags_eq, pendingFlags_flaggedByAll, weight?_flaggedByAll,
    List.filterMap_append, Weight.quarters_sum, Weight.quarters_sum, List.map_append,
    List.sum_append]
  congr 1
  split
  · rw [hones, List.map_replicate, List.sum_replicate_nat, Nat.mul_comm]
    rfl
  · rfl

end Store

/-! ## Runs -/

namespace Session

variable {f : Session}

theorem Reachable.after (h : f.Reachable) (as : List Action) : (f.after as).Reachable := by
  induction as generalizing f with
  | nil => exact h
  | cons a as ih => exact ih (h.step a)

theorem Reachable.attributed (h : f.Reachable) : f.store.Attributed := by
  induction h with
  | fresh systemId now index =>
    intro r hr
    obtain ⟨-, hflags⟩ := Prod.mk.inj (reports_fresh systemId now index)
    rw [hflags] at hr
    cases hr
  | step h a ih =>
    exact fun r hr => contains_step (ih.reporter_of_move (watched_step _ a) r hr) a
  | resumed h id createdAt now ih =>
    rw [resumed_eq]
    exact ih.withSystem id createdAt

theorem answer?_weightFor (f : Session) (id : Int) : f.answer? (.call (.weightFor id)) =
    ((f.store.weightFor f.systemId id).map Answer.weight).toOption :=
  congrArg (fun o : Except Refusal Answer × Store => o.1.toOption)
    (Work.commit_look (fun s => s.weightFor f.systemId id) Answer.weight f.store)

theorem map_answer?_weightFor {flags : List Flag}
    (h : ∀ r ∈ flags, f.store.users.contains r.reporterId = true) :
    flags.map (fun r => f.answer? (.call (.weightFor r.reporterId))) =
      (flags.filterMap (f.store.weight? f.systemId)).map fun w => some (.weight w) := by
  have hanswers := congrArg
    (List.map fun x : Except Refusal Weight => (x.map Answer.weight).toOption)
    (Store.map_weightFor f.systemId h)
  rw [List.map_map, List.map_map] at hanswers
  exact (List.map_congr_left fun r _ => answer?_weightFor f r.reporterId).trans hanswers

theorem answer?_weightedFlags {kind : Content.Kind} {contentId : Int} {n : Nat}
    (h : (f.store.weightedFlags f.systemId kind contentId).quarters = n) :
    f.answer? (.call (.weightedFlags kind contentId)) = some (.weight ⟨n⟩) :=
  congrArg (fun n => some (Answer.weight ⟨n⟩)) h

theorem scan_of_answer? {a : Action} {content : String} {kind : Content.Kind} {contentId : Int}
    {fs : List Flag} (hc : a.call? = some (.scan content kind contentId))
    (hans : f.answer? a = some (.flags fs)) :
    Watch.scanEffect f.store f.systemId content kind contentId f.now =
      .ok (fs, (f.step a).2.store) := by
  have hrun := run_of_answer? hc hans
  rw [Call.run_scan] at hrun
  obtain ⟨raised, hscan, hraised⟩ := Effect.answering_eq_ok.mp (Effect.eq_ok_of_on hrun)
  obtain rfl := Answer.flags.inj hraised
  exact hscan

/-- The weight of the pending flags on a piece of content is the sum of the weights that are looked
up for their reporters, flag by flag: every flag has a reporter who is found, and the system counts
for one in both. It lies between a half and one and a half for each flag. A scan of the content
raises it by one for each flag that it returns, and leaves it alone for all other content. -/
theorem weighted_flags_add_up (f : Session) (hf : f.Reachable) (kind : Content.Kind)
    (contentId : Int) :
    let pending := f.store.flags.rows.filter fun r =>
      r.contentKind = kind ∧ r.contentId = contentId ∧ r.status = .pending
    let weightFor (id : Int) := f.answer? (.call (.weightFor id))
    let weighted (g : Session) (kind : Content.Kind) (contentId : Int) :=
      g.answer? (.call (.weightedFlags kind contentId))
    weightFor f.systemId = some (.weight ⟨4⟩) ∧
    ∃ ws : List Weight,
      pending.map (fun r => weightFor r.reporterId) = ws.map (fun w => some (.weight w)) ∧
      weighted f kind contentId = some (.weight ⟨(ws.map Weight.quarters).sum⟩) ∧
      2 * pending.length ≤ (ws.map Weight.quarters).sum ∧
      (ws.map Weight.quarters).sum ≤ 6 * pending.length ∧
      ∀ a content fs, a.call? = some (.scan content kind contentId) →
        f.answer? a = some (.flags fs) →
        let g := (f.step a).2
        weighted g kind contentId =
          some (.weight ⟨(ws.map Weight.quarters).sum + 4 * fs.length⟩) ∧
        ∀ kind' contentId', (kind', contentId') ≠ (kind, contentId) →
          weighted g kind' contentId' = weighted f kind' contentId' := by
  intro pending weightFor weighted
  have hthere : ∀ r ∈ pending, f.store.users.contains r.reporterId = true := fun r hr =>
    hf.attributed r (List.mem_filter.mp hr).1
  let ws := pending.filterMap (f.store.weight? f.systemId)
  have hlook : pending.map (fun r => weightFor r.reporterId) = ws.map fun w => some (.weight w) :=
    map_answer?_weightFor hthere
  have hlength : pending.length = ws.length := by
    have hlengths := congrArg List.length hlook
    rwa [List.length_map, List.length_map] at hlengths
  have hsum : (f.store.weightedFlags f.systemId kind contentId).quarters =
      (ws.map Weight.quarters).sum := by
    rw [Store.weightedFlags_eq]
    exact Weight.quarters_sum ws
  have hbounds : ∀ w ∈ ws, 2 ≤ w.quarters ∧ w.quarters ≤ 6 := by
    intro w hw
    obtain ⟨r, -, hr⟩ := List.mem_filterMap.mp hw
    exact Store.weight?_bounds hr
  obtain ⟨hleast, hmost⟩ := Weight.sum_bounds hbounds
  refine ⟨?_, ws, hlook, answer?_weightedFlags hsum, by rwa [hlength], by rwa [hlength],
    fun a content fs ha hans => ?_⟩
  · exact (answer?_weightFor f f.systemId).trans (by rw [Store.weightFor_system]; rfl)
  intro g
  have hadds := Store.quarters_weightedFlags_of_scan (scan_of_answer? ha hans)
  have hsystem : g.systemId = f.systemId := systemId_step a
  rw [← hsystem] at hadds
  refine ⟨answer?_weightedFlags ?_, fun kind' contentId' hother => ?_⟩
  · rw [hadds kind contentId, if_pos rfl, hsystem, hsum]
  · have hkept : (g.store.weightedFlags g.systemId kind' contentId').quarters =
        (f.store.weightedFlags f.systemId kind' contentId').quarters := by
      rw [hadds kind' contentId', if_neg hother, Nat.add_zero, hsystem]
    exact answer?_weightedFlags hkept

/-- Flags on one idea by three users, one that is settled, and one on a comment. -/
def mixedFlags : List Action :=
  [.write (.createUser { username := "ann", trustScore := 10 }),
    .write (.createUser { username := "ben", trustScore := 85 }),
    .write (.createUser { username := "cem", trustScore := 15 }),
    .call (.addKeyword "spam" false "advertising"),
    .call (.addKeyword "cheap" false "advertising"),
    .write (.createFlag ⟨.idea, 1, 1, "rude", none, .pending⟩),
    .write (.createFlag ⟨.idea, 1, 2, "rude", none, .pending⟩),
    .write (.createFlag ⟨.idea, 1, 3, "rude", none, .pending⟩),
    .write (.createFlag ⟨.idea, 1, 2, "dull", none, .dismissed⟩),
    .write (.createFlag ⟨.comment, 1, 2, "rude", none, .pending⟩)]

/-- The second user has become the system user at a start, and counts for one, not for one and a
half; the other two count for a half each. Two flags of a scan count for one each. -/
theorem mixed_flags_add_up :
    let f := resumed ((fresh none ⟨1748779200, 0⟩ true).after mixedFlags).store 2 "" ⟨1748865600, 0⟩
    let scan := Action.call (.scan "cheap spam" .idea 1)
    let g := (f.step scan).2
    f.Reachable ∧
    [1, 2, 3].map (fun id => f.answer? (.call (.weightFor id))) =
      [some (.weight ⟨2⟩), some (.weight ⟨4⟩), some (.weight ⟨2⟩)] ∧
    f.answer? (.call (.weightedFlags .idea 1)) = some (.weight ⟨8⟩) ∧
    (∃ fs, f.answer? scan = some (.flags fs) ∧ fs.length = 2) ∧
    g.answer? (.call (.weightedFlags .idea 1)) = some (.weight ⟨16⟩) ∧
    g.answer? (.call (.weightedFlags .comment 1)) = some (.weight ⟨4⟩) := by
  intro f scan g
  have hf : f.Reachable :=
    ((Reachable.fresh none ⟨1748779200, 0⟩ true).after mixedFlags).resumed 2 "" ⟨1748865600, 0⟩
  have hweights : [1, 2, 3].map (fun id => f.answer? (.call (.weightFor id))) =
      [some (.weight ⟨2⟩), some (.weight ⟨4⟩), some (.weight ⟨2⟩)] := by decide +kernel
  have hbefore : f.answer? (.call (.weightedFlags .idea 1)) = some (.weight ⟨8⟩) := by
    decide +kernel
  have hother : f.answer? (.call (.weightedFlags .comment 1)) = some (.weight ⟨4⟩) := by
    decide +kernel
  obtain ⟨fs, hscan, hlength⟩ : ∃ fs, f.answer? scan = some (.flags fs) ∧ fs.length = 2 :=
    ⟨[⟨6, .idea, 1, 2, "advertising", some "Matched watchlist keyword: spam", .pending,
        ⟨1748865600, 0⟩⟩,
      ⟨7, .idea, 1, 2, "advertising", some "Matched watchlist keyword: cheap", .pending,
        ⟨1748865600, 0⟩⟩], by decide +kernel, rfl⟩
  obtain ⟨-, ws, -, hsum, -, -, hscans⟩ := weighted_flags_add_up f hf .idea 1
  obtain ⟨hraised, hkept⟩ := hscans scan "cheap spam" fs rfl hscan
  have htotal : (ws.map Weight.quarters).sum = 8 :=
    congrArg Weight.quarters (Answer.weight.inj (Option.some.inj (hsum.symm.trans hbefore)))
  rw [htotal, hlength] at hraised
  exact ⟨hf, hweights, hbefore, ⟨fs, hscan, hlength⟩, hraised,
    (hkept .comment 1 (by decide)).trans hother⟩

end Session

end CivicForum
