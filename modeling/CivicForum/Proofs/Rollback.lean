import CivicForum.Proofs.Outcome
import CivicForum.Proofs.Session

/-! # Refused calls leave no trace

Most calls have written several rows before the statement that can be refused.

* `Session.Stops`: a call is refused, and this is what its statements had made of the store by then.
* `Ledger.stopsAt_issue_issuer`, `Reputation.stopsAt_record`, …: where a call stops after it has
  written something.
* `Session.effective`: a run without the actions that are refused.
* `Session.refused_calls_leave_no_trace`: wherever a call stops, the forum is as before.
-/

set_option autoImplicit false

namespace CivicForum

open Work Statement

variable {s : Store} {now : Instant} {e : Refusal}

/-! ## Statements that are refused -/

namespace Statement

theorem stopsAt_requireUser {t : Store} {id : Int} (h : t.users.contains id = false) :
    StopsAt s (requireUser t id) (.database .foreignKey) s := by
  unfold requireUser
  rw [if_neg (by rw [h]; nofun)]
  exact .throw

/-- The issuer is the last thing that is checked before the row is written. -/
theorem stopsAt_insertPenalty {r : Penalty.Request}
    (hone : ∀ p ∈ s.penalties.rows, p.userId = r.userId → p.status ≠ .active)
    (hroom : s.penalties.nextId ≤ Text.wordMax) (huser : s.users.contains r.userId = true)
    (hissuer : s.users.contains r.issuedBy = false) :
    StopsAt s (insertPenalty r now) (.database .foreignKey) s := by
  refine .after (.current (.after (yields_freshId (fun hfull => ?_) fun _ => ?_)))
  · exact absurd hroom (Int.not_le.mpr hfull)
  refine .after (yields_requireOneActive (fun p hp hu ha => absurd ha (hone p hp hu)) ?_)
  refine .after (yields_requireUser (fun hnone => ?_) fun _ => ?_)
  · rw [huser] at hnone
    cases hnone
  · exact .bind (stopsAt_requireUser hissuer)

theorem stopsAt_insertFlag {f : NewFlag} (hroom : s.flags.nextId ≤ Text.wordMax)
    (hreporter : s.users.contains f.reporterId = false) :
    StopsAt s (insertFlag f now) (.database .foreignKey) s := by
  refine .after (.current (.after (yields_freshId (fun hfull => ?_) fun _ => ?_)))
  · exact absurd hroom (Int.not_le.mpr hfull)
  · exact .bind (stopsAt_requireUser hreporter)

theorem stopsAt_resolveAppeal {id reviewedBy : Int} {status : Appeal.Status} {notes : String}
    {a : Appeal} (ha : s.appeal? id = some a) (hreviewer : s.users.contains reviewedBy = false) :
    StopsAt s (resolveAppeal id status reviewedBy now notes) (.database .foreignKey) s := by
  refine .after (.current ?_)
  rw [ha]
  exact .bind (stopsAt_requireUser hreviewer)

end Statement

/-! ## Calls that are refused after they have written -/

theorem Reputation.stopsAt_recalculate {userId : Int} (he : scoreOf s userId now = .error e) :
    StopsAt s (recalculate userId now) e s := by
  refine .after (.current ?_)
  rw [he]
  exact .bind .throw

theorem Reputation.stopsAt_record {c : Member.Counter} {userId : Int} {m : Member}
    (hm : s.user? userId = some m) (hroom : m.counter c < Text.wordMax)
    (he : scoreOf (s.raised userId c) userId now = .error e) :
    StopsAt s (record c userId now) e (s.raised userId c) := by
  refine .after (yields_raiseCounter (fun hnone => ?_) (fun m' hm' hfull => ?_) trivial
    fun _ _ _ => ?_)
  · rw [hm] at hnone
    cases hnone
  · obtain rfl := Option.some.inj (hm.symm.trans hm')
    exact Int.not_le.mpr hroom hfull
  · exact stopsAt_recalculate he

namespace Ledger

/-- Nothing bars the request until its issuer is looked for. -/
structure Admissible (s : Store) (r : Penalty.Request) (now : Instant) : Prop where
  user : s.users.contains r.userId = true
  rank : ∀ p, s.penaltyInForce? r.userId now = some p → p.kind.severity < r.kind.severity
  room : s.penalties.nextId ≤ Text.wordMax

variable {r : Penalty.Request}

theorem Admissible.stopsAt_issue (hr : Admissible s r now) (h : s.Exclusive) {t : Store}
    (hstop : StopsAt (s.retire r.userId) (do
      let p ← enter r now
      removeContent r now
      discard (Reputation.recalculate r.userId now)
      return p) e t) : StopsAt s (issue r now) e t := by
  refine .after (yields_makeWay h (fun hnone => ?_) (fun _ p hp hbarred => ?_)
    fun _ _ => hstop).anyway
  · rw [hr.user] at hnone
    cases hnone
  · exact Nat.not_lt.mpr hbarred (hr.rank p hp)

theorem stopsAt_issue_issuer (hr : Admissible s r now) (h : s.Exclusive)
    (hissuer : s.users.contains r.issuedBy = false) :
    StopsAt s (issue r now) (.database .foreignKey) (s.retire r.userId) := by
  refine hr.stopsAt_issue h (.bind (.rethrow ?_ rfl))
  exact stopsAt_insertPenalty not_active_retire hr.room hr.user hissuer

/-- The penalty is written and content is removed when the score turns out not to be computable. -/
theorem stopsAt_issue_score (hr : Admissible s r now) (h : s.Exclusive)
    (hissuer : s.users.contains r.issuedBy = true)
    (he : Reputation.scoreOf (s.issued r now) r.userId now = .error e) :
    StopsAt s (issue r now) e (s.issued r now) := by
  refine hr.stopsAt_issue h (.after (yields_enter h (fun hfull => ?_) (fun hnone => ?_)
    (fun _ hnone => ?_) fun _ _ => ?_).anyway)
  · exact absurd hr.room (Int.not_le.mpr hfull)
  · rw [hr.user] at hnone
    cases hnone
  · rw [hissuer] at hnone
    cases hnone
  · refine .after
      (yields_removeContent ((h.retire r.userId).insert rfl not_active_retire) ?_).anyway
    have hscore : StopsAt (s.issued r now) (Reputation.recalculate r.userId now) e
        (s.issued r now) := Reputation.stopsAt_recalculate he
    exact .bind hscore.discard

end Ledger

theorem Appeals.stopsAt_review_reject (h : s.docket.Sound) {id reviewerId : Int} {notes : String}
    {a : Appeal} {p : Penalty} (ha : s.pendingAppeal? id = some a)
    (hp : s.penalty? a.penaltyId = some p) (hreviewer : s.users.contains reviewerId = false) :
    StopsAt s (review id reviewerId .reject notes now) (.database .foreignKey)
      (s.reinstated p) := by
  obtain ⟨rfl, q, hap, hq⟩ := contests_of_pendingAppeal? h ha
  obtain rfl := Option.some.inj (hp.symm.trans hq)
  refine .after (.current ?_)
  rw [requirePending_eq_ok.mpr ha]
  refine .after (.pure ?_)
  rw [Ledger.requirePenalty_eq_ok.mpr hp]
  refine .after (.pure (.after ((hasEffect_decide h hap).mono (fun _ _ => trivial)
    (fun status u hd => ?_) fun e he => ?_)))
  · have hsettled := settled_of_decideEffect hd
    have hfresh : u.appeal? a.id = some a := by
      unfold Store.appeal?
      rw [hsettled.kept.1]
      exact h.appealIds.find?_key hap.appeal
    obtain ⟨rfl, rfl⟩ := hsettled
    exact stopsAt_resolveAppeal hfresh (by rwa [Ledger.reinstated_users])
  · cases he

/-- The first flag of a scan is refused when there is nobody to raise it. -/
theorem Watch.stopsAt_scan {systemId contentId : Int} {content : String} {kind : Content.Kind}
    (hmatch : matching s.activeKeywords content ≠ []) (hroom : s.flags.nextId ≤ Text.wordMax)
    (hreporter : s.users.contains systemId = false) :
    StopsAt s (scan systemId content kind contentId now) (.database .foreignKey) s := by
  refine .after (.current ?_)
  rcases hentries : matching s.activeKeywords content with - | ⟨e, rest⟩
  · exact absurd hentries hmatch
  · exact .bind (stopsAt_insertFlag hroom hreporter)

/-! ## Runs -/

namespace Session

variable {f : Session} {a : Action} {c : Call} {t : Store}

/-- The call is refused with `e`, and by then its statements had made `t` of the store. -/
def Stops (f : Session) (c : Call) (e : Refusal) (t : Store) : Prop :=
  ∃ d, (c.work f.systemId f.now).draft f.store = (.error e, d) ∧ d.store = t

theorem stops_of_stopsAt (h : StopsAt f.store (c.work f.systemId f.now) e t) : f.Stops c e t :=
  h.draft_eq

theorem step_of_stops (h : f.Stops c e t) : f.step (.call c) = (.refused e, f) := by
  obtain ⟨d, hdraft, -⟩ := h
  have hrun : c.run f.systemId f.now f.store = (.error e, f.store) := by
    unfold Call.run Work.commit
    rw [hdraft]
  exact step_call_of_error hrun

theorem stops_of_step (h : (f.step (.call c)).1 = .refused e) : ∃ t, f.Stops c e t := by
  rcases hdraft : (c.work f.systemId f.now).draft f.store with ⟨e' | ans, d⟩
  · have hstops : f.Stops c e' d.store := ⟨d, hdraft, rfl⟩
    rw [step_of_stops hstops] at h
    obtain rfl := Outcome.refused.inj h
    exact ⟨d.store, hstops⟩
  · have hrun : c.run f.systemId f.now f.store = (.ok ans, d.store) := by
      unfold Call.run Work.commit
      rw [hdraft]
    rw [step_call_of_ok hrun] at h
    cases h

/-- The action asks for a call or a write that is refused. -/
def refuses (f : Session) (a : Action) : Bool :=
  match a with
  | .write w => (w.run f.now f.store).1.toOption.isNone
  | a => a.call?.any fun c => (c.run f.systemId f.now f.store).1.toOption.isNone

/-- The actions of a run that are not refused. -/
def effective (f : Session) : List Action → List Action
  | [] => []
  | a :: as => if f.refuses a then f.effective as else a :: (f.step a).2.effective as

theorem step_of_refuses (h : f.refuses a = true) : (f.step a).2 = f := by
  have hcall : ∀ c, a.call? = some c → (c.run f.systemId f.now f.store).1.toOption.isNone →
      (f.step a).2 = f := fun c hc hrefused => by
    rw [step_of_call? hc, show (c.run f.systemId f.now f.store).2 = f.store from
      Work.commit_of_refused hrefused]
  cases a with
  | call c => exact hcall c rfl (by simpa [refuses, Action.call?] using h)
  | write w =>
    rw [step_write, show (w.run f.now f.store).2 = f.store from Work.commit_of_refused h]
  | request r =>
    obtain ⟨c, hc, hrefused⟩ := (Option.any_eq_true _ _).mp h
    exact hcall c hc hrefused
  | advance span => cases h
  | setClock t => cases h

theorem after_effective (f : Session) (as : List Action) : f.after (f.effective as) = f.after as := by
  induction as generalizing f with
  | nil => rfl
  | cons a as ih =>
    unfold effective
    split
    · next hrefused => rw [ih, after, step_of_refuses hrefused]
    · exact ih (f.step a).2

/-- Whatever has happened, a call that is refused leaves the forum as it was, wherever it stops: when
the issuer turns out to be missing after a penalty has been superseded, when a time of registration
turns out to be unreadable after the penalty has been written and content removed or after a counter
has been raised, when the reviewer turns out to be missing after the penalty has been reinstated, and
when nobody can raise the first flag of a scan. So a run comes to the same without the actions that
are refused. -/
theorem refused_calls_leave_no_trace (systemId : Option Int) (start : Instant) (index : Bool)
    (as : List Action) :
    let f := (fresh systemId start index).after as
    (∀ c e, (f.step (.call c)).1 = .refused e ↔ ∃ t, f.Stops c e t) ∧
    (∀ c e t, f.Stops c e t → f.step (.call c) = (.refused e, f)) ∧
    (∀ r, Ledger.Admissible f.store r f.now → f.store.users.contains r.issuedBy = false →
      f.Stops (.issue r) (.database .foreignKey) (f.store.retire r.userId)) ∧
    (∀ r m, Ledger.Admissible f.store r f.now → f.store.users.contains r.issuedBy = true →
      f.store.user? r.userId = some m → m.registeredAt? = none →
      f.Stops (.issue r) (.invalidTimestamp r.userId m.createdAt) (f.store.issued r f.now)) ∧
    (∀ c userId m, f.store.user? userId = some m → m.counter c < Text.wordMax →
      m.registeredAt? = none →
      f.Stops (.record c userId) (.invalidTimestamp userId m.createdAt)
        (f.store.raised userId c)) ∧
    (∀ id reviewerId notes a p, f.store.pendingAppeal? id = some a →
      f.store.penalty? a.penaltyId = some p → f.store.users.contains reviewerId = false →
      f.Stops (.reviewAppeal id reviewerId "reject" notes) (.database .foreignKey)
        (f.store.reinstated p)) ∧
    (∀ content kind contentId, Watch.matching f.store.activeKeywords content ≠ [] →
      f.store.flags.nextId ≤ Text.wordMax → f.store.users.contains f.systemId = false →
      f.Stops (.scan content kind contentId) (.database .foreignKey) f.store) ∧
    ∀ bs, f.after (f.effective bs) = f.after bs := by
  intro f
  have h : f.store.docket.Sound := sound_run systemId start index as
  refine ⟨fun c e => ⟨stops_of_step, fun ⟨t, ht⟩ => by rw [step_of_stops ht]⟩,
    fun c e t => step_of_stops, fun r hr hissuer => ?_, fun r m hr hissuer hm hraw => ?_,
    fun c userId m hm hroom hraw => ?_, fun id reviewerId notes a p ha hp hreviewer => ?_,
    fun content kind contentId hmatch hroom hreporter => ?_, after_effective f⟩
  · exact stops_of_stopsAt (.bind (Ledger.stopsAt_issue_issuer hr h.exclusive hissuer))
  · have hscore : Reputation.scoreOf (f.store.issued r f.now) r.userId f.now =
        .error (.invalidTimestamp r.userId m.createdAt) := by
      refine Reputation.scoreOf_of_unreadable ?_ hraw
      unfold Store.user?
      rw [Store.issued_users]
      exact hm
    exact stops_of_stopsAt (.bind (Ledger.stopsAt_issue_score hr h.exclusive hissuer hscore))
  · have hscore : Reputation.scoreOf (f.store.raised userId c) userId f.now =
        .error (.invalidTimestamp userId (m.bump c).createdAt) :=
      Reputation.scoreOf_of_unreadable (Store.user?_raised hm c) (by rwa [Member.registeredAt?_bump])
    rw [Member.createdAt_bump] at hscore
    exact stops_of_stopsAt (.bind (Reputation.stopsAt_record hm hroom hscore))
  · have hread : Appeal.Decision.ofText "reject" = .ok .reject := rfl
    exact stops_of_stopsAt
      (.lift hread (.bind (Appeals.stopsAt_review_reject h ha hp hreviewer)))
  · exact stops_of_stopsAt (.bind (Watch.stopsAt_scan hmatch hroom hreporter))

/-- A user with a ban and a pending appeal, and a user whose time of registration cannot be read. -/
def halfway : List Action :=
  [.write (.createUser { username := "offender" }),
    .call (.issue ⟨2, .dayBan, "spam", 1, [], false⟩),
    .call (.submitAppeal 1 2 "sorry"),
    .call (.issue ⟨2, .warning, "again", 1, [], false⟩),
    .write (.createUser { username := "newcomer", createdAt := some "soon" })]

def watched : List Action := [.call (.addKeyword "spam" false "advertising")]

/-- Nothing is left of a penalty that was superseded, of one that was written, of a counter that was
raised or of a penalty that was reinstated, when the call is refused afterwards. -/
theorem half_done_calls_are_undone :
    let f := (fresh (some 1) ⟨1748779200, 0⟩ true).after halfway
    let g := (fresh none ⟨1748779200, 0⟩ true).after watched
    let byNobody : Penalty.Request := ⟨2, .weekBan, "spam", 99, [], false⟩
    let toNewcomer : Penalty.Request := ⟨3, .dayBan, "spam", 1, [], false⟩
    (f.Stops (.issue byNobody) (.database .foreignKey) (f.store.retire 2) ∧
      f.store.retire 2 ≠ f.store ∧
      f.step (.call (.issue byNobody)) = (.refused (.database .foreignKey), f)) ∧
    f.Stops (.issue toNewcomer) (.invalidTimestamp 3 "soon") (f.store.issued toNewcomer f.now) ∧
    f.Stops (.record .upheldFlags 3) (.invalidTimestamp 3 "soon")
      (f.store.raised 3 .upheldFlags) ∧
    (∃ p, f.store.penalty? 1 = some p ∧
      f.Stops (.reviewAppeal 1 99 "reject" "") (.database .foreignKey) (f.store.reinstated p)) ∧
    g.Stops (.scan "buy spam" .comment 1) (.database .foreignKey) g.store := by
  intro f g byNobody toNewcomer
  obtain ⟨-, hundone, hissuer, hissued, hraised, hreviewed, -, -⟩ :=
    refused_calls_leave_no_trace (some 1) ⟨1748779200, 0⟩ true halfway
  obtain ⟨-, -, -, -, -, -, hscanned, -⟩ :=
    refused_calls_leave_no_trace none ⟨1748779200, 0⟩ true watched
  have hbyNobody : Ledger.Admissible f.store byNobody f.now :=
    ⟨by decide +kernel, by decide +kernel, by decide +kernel⟩
  have htoNewcomer : Ledger.Admissible f.store toNewcomer f.now :=
    ⟨by decide +kernel, by decide +kernel, by decide +kernel⟩
  have hstops := hissuer byNobody hbyNobody (by decide +kernel)
  have hnewcomer : (f.store.user? 3).map Member.createdAt = some "soon" := by decide +kernel
  obtain ⟨m, hm, hcreated⟩ := Option.map_eq_some_iff.mp hnewcomer
  have hraw : m.registeredAt? = none := by
    unfold Member.registeredAt?
    rw [hcreated]
    decide +kernel
  rw [← hcreated]
  refine ⟨⟨hstops, by decide +kernel, hundone _ _ _ hstops⟩, ?_, ?_, ?_, ?_⟩
  · exact hissued _ m htoNewcomer (by decide +kernel) hm hraw
  · have hroom : ∀ n ∈ f.store.user? 3, n.counter .upheldFlags < Text.wordMax := by decide +kernel
    exact hraised _ 3 m hm (hroom m hm) hraw
  · have happeal : (f.store.pendingAppeal? 1).map Appeal.penaltyId = some 1 := by decide +kernel
    obtain ⟨a, ha, hpenaltyId⟩ := Option.map_eq_some_iff.mp happeal
    have hpenalty : (f.store.penalty? 1).isSome := by decide +kernel
    obtain ⟨p, hp⟩ := Option.isSome_iff_exists.mp hpenalty
    refine ⟨p, hp, hreviewed 1 99 "" a p ha ?_ (by decide +kernel)⟩
    rwa [hpenaltyId]
  · exact hscanned _ _ _ (by decide +kernel) (by decide +kernel) (by decide +kernel)

end Session

end CivicForum
