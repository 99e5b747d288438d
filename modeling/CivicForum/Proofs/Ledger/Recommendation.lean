import CivicForum.Proofs.Ledger.Admission
import CivicForum.Proofs.Ledger.Escalation
import CivicForum.Proofs.Session

/-! # The penalty that is recommended

The recommendation looks at when penalties were issued, the refusal at which one is in force. A timed
ban in force was always issued recently enough to count; a warning, which never elapses, need not be.

* `Penalty.minus_lookback_le`: a timed ban in force was issued within the lookback of its kind.
* `Session.Timely`: the clock and all times of issue are times that a clock can show.
* `Session.recommended_penalty_admitted_iff`: the recommended penalty is admitted unless it is a
  warning and a warning is in force.
-/

set_option autoImplicit false

namespace CivicForum

/-! ## What is in force counts -/

namespace Penalty

variable {now : Instant} {p : Penalty}

/-- A timed ban counts for longer than it lasts. -/
theorem Kind.length_lt_lookback {k : Kind} (hban : k ≠ .warning) (hperm : k ≠ .permanentBan) :
    ∃ n l, k.length? = some (.ofSeconds n) ∧ k.lookback = .ofSeconds l ∧ 0 < n ∧ n + 1 < l := by
  cases k with
  | warning => exact absurd rfl hban
  | dayBan => exact ⟨24 * 3600, 30 * 86400, rfl, rfl, by decide, by decide⟩
  | weekBan => exact ⟨168 * 3600, 30 * 86400, rfl, rfl, by decide, by decide⟩
  | monthBan => exact ⟨720 * 3600, 90 * 86400, rfl, rfl, by decide, by decide⟩
  | permanentBan => exact absurd rfl hperm

theorem minus_lookback_le (h : p.Sound) (hissued : p.issuedAt.IsReading) (hnow : now.IsReading)
    (hrunning : p.hasElapsed now = false) (hban : p.kind ≠ .warning)
    (hperm : p.kind ≠ .permanentBan) : now.minus p.kind.lookback ≤ p.issuedAt := by
  obtain ⟨n, l, hlength, hlookback, hn, hl⟩ := Kind.length_lt_lookback hban hperm
  have hexpiry := h.expiry
  rw [hlength, Option.map_some] at hexpiry
  rw [hlookback]
  exact Instant.minus_le_of_lt_plus hissued hnow hn hl (lt_of_hasElapsed_eq_false hrunning _ hexpiry)

end Penalty

/-! ## Times that clocks show -/

/-- The clock shows a time, and every penalty was issued at one. -/
structure Session.Timely (f : Session) : Prop where
  now : f.now.IsReading
  issued : ∀ p ∈ f.store.penalties.rows, p.issuedAt.IsReading

namespace Session

variable {f : Session}

theorem Timely.step (hf : f.Timely) (h : f.store.docket.Sound) {a : Action}
    (ha : ∀ t, a = .setClock t → t.IsReading) : (f.step a).2.Timely where
  now := by
    rcases now_step a with hkept | ⟨s, hmoved⟩ | hset
    · rw [hkept]
      exact hf.now
    · rw [hmoved]
      exact Instant.isReading_plus hf.now s
    · exact ha _ hset
  issued q hq := by
    rcases (moved_step h a).docket.origin q hq with ⟨r, rfl⟩ | ⟨p, hp, hterms⟩
    · exact hf.now
    · rw [hterms.issuedAt]
      exact hf.issued p hp

theorem Timely.after (hf : f.Timely) (h : f.store.docket.Sound) {as : List Action}
    (has : ∀ t, Action.setClock t ∈ as → t.IsReading) : (f.after as).Timely := by
  induction as generalizing f with
  | nil => exact hf
  | cons a as ih =>
    refine ih (hf.step h fun t ha => has t (ha ▸ List.mem_cons_self ..)) ?_ fun t ht => ?_
    · exact h.move (moved_step h a).docket
    · exact has t (List.mem_cons_of_mem _ ht)

theorem timely_fresh (systemId : Option Int) {start : Instant} (hstart : start.IsReading)
    (index : Bool) : (fresh systemId start index).Timely where
  now := hstart
  issued p hp := by
    rw [penalties_fresh] at hp
    cases hp

end Session

/-! ## The recommendation and what is in force -/

namespace Store

variable {s : Store} {userId : Int} {now : Instant} {p : Penalty}

theorem mem_penaltiesOf : p ∈ s.penaltiesOf userId ↔
    p ∈ s.penalties.rows ∧ p.userId = userId := by
  simp [penaltiesOf]

/-- What is in force is less severe than the recommendation when it was issued recently. -/
theorem severity_lt_nextKind_of_recent (hp : s.penaltyInForce? userId now = some p)
    (hperm : p.kind ≠ .permanentBan) (hrecent : now.minus p.kind.lookback ≤ p.issuedAt) :
    p.kind.severity < (s.nextKind userId now).severity := by
  obtain ⟨hactive, -⟩ := Ledger.penaltyInForce?_eq_some.mp hp
  obtain ⟨hmem, huser, hstatus⟩ := Ledger.mem_of_activePenalty? hactive
  have hrevoked : p.status ≠ .revoked := by
    rw [hstatus]
    nofun
  exact Penalty.severity_lt_nextKind (mem_penaltiesOf.mpr ⟨hmem, huser⟩)
    (Penalty.qualifies_eq_true.mpr ⟨hrevoked, hperm, hrecent⟩)

/-- When a warning is recommended although one is in force, that one was issued too long ago. -/
theorem not_minus_lookback_le_of_warning (hp : s.penaltyInForce? userId now = some p)
    (hwarning : p.kind = .warning) (hnext : s.nextKind userId now = .warning) :
    ¬ now.minus Penalty.Kind.warning.lookback ≤ p.issuedAt := by
  intro hrecent
  rw [← hwarning] at hrecent
  have hlower := severity_lt_nextKind_of_recent hp (by rw [hwarning]; nofun) hrecent
  rw [hwarning, hnext] at hlower
  exact Nat.lt_irrefl _ hlower

/-- Apart from a warning that bars a warning, what is in force is less severe than the
recommendation. -/
theorem rank_le_severity_nextKind (h : s.docket.Sound) (hnow : now.IsReading)
    (hissued : ∀ p ∈ s.penalties.rows, p.issuedAt.IsReading)
    (hperm : ∀ p, s.penaltyInForce? userId now = some p → p.kind ≠ .permanentBan)
    (hwarning : ∀ p, s.penaltyInForce? userId now = some p → p.kind = .warning →
      s.nextKind userId now ≠ .warning) :
    s.rank userId now ≤ (s.nextKind userId now).severity := by
  refine rank_le_iff.mpr fun p hp => ?_
  by_cases hkind : p.kind = .warning
  · have hnext := hwarning p hp hkind
    rw [hkind]
    exact Penalty.Kind.severity_pos_iff.mpr hnext
  · obtain ⟨hactive, hrunning⟩ := Ledger.penaltyInForce?_eq_some.mp hp
    have hmem := (Ledger.mem_of_activePenalty? hactive).1
    refine severity_lt_nextKind_of_recent hp (hperm p hp) ?_
    exact Penalty.minus_lookback_le (h.penalty p hmem) (hissued p hmem) hnow hrunning hkind
      (hperm p hp)

end Store

namespace Session

variable {f : Session} {userId : Int} {m : Member} {registered : Instant} {r : Penalty.Request}

theorem nextKind_of_answer {k : Penalty.Kind}
    (h : (f.step (.call (.nextPenalty userId))).1 = .answer (.kind k)) :
    f.store.nextKind userId f.now = k := by
  have hanswer : Outcome.answer (.kind (f.store.nextKind userId f.now)) = .answer (.kind k) := h
  injection hanswer with hkind
  injection hkind

theorem issue_admitted_of_recommended (h : f.store.docket.Sound) (hf : f.Timely)
    (hm : f.store.user? r.userId = some m) (hregistered : m.registeredAt? = some registered)
    (hperm : ∀ p, f.store.penaltyInForce? r.userId f.now = some p → p.kind ≠ .permanentBan)
    (hnext : f.store.nextKind r.userId f.now = r.kind)
    (hissuer : f.store.users.contains r.issuedBy = true)
    (hroom : f.store.penalties.nextId ≤ Text.wordMax)
    (hwarning : ∀ p, f.store.penaltyInForce? r.userId f.now = some p → p.kind = .warning →
      r.kind ≠ .warning) :
    ∃ p, (f.step (.call (.issue r))).1 = .answer (.penalty p) ∧ p.kind = r.kind := by
  have hrank : f.store.rank r.userId f.now ≤ r.kind.severity := by
    rw [← hnext] at hwarning ⊢
    exact Store.rank_le_severity_nextKind h hf.now hf.issued hperm hwarning
  obtain ⟨t, hrun, -⟩ := Call.run_issue_admitted f.systemId h hm hregistered hissuer hroom hrank
  exact ⟨_, congrArg Prod.fst (step_call_of_ok hrun), rfl⟩

theorem issue_refused_of_warning (h : f.store.docket.Sound)
    (hm : f.store.user? r.userId = some m) {p : Penalty}
    (hp : f.store.penaltyInForce? r.userId f.now = some p) (hwarning : p.kind = .warning)
    (hkind : r.kind = .warning) :
    (f.step (.call (.issue r))).1 = .refused (.alreadyPenalized .warning) := by
  have hrank : r.kind.severity ≤ p.kind.severity := Nat.le_of_eq (by rw [hkind, hwarning])
  have hrun := Call.run_issue_barred f.systemId h (Table.contains_of_find?_eq_some hm) hp hrank
  rw [step_call_of_error hrun, hwarning]

/-- The penalty that is recommended for a user who can be scored and has no permanent ban in force,
asked for by an issuer who exists, is admitted unless a warning is recommended although one is in
force; then it is refused. A warning never elapses, but it counts for 30 days only.

An identifier must be left for the penalty (`lastId_after_le`). -/
theorem recommended_penalty_admitted_iff (systemId : Option Int) (start : Instant) (index : Bool)
    (as : List Action) (userId : Int) (m : Member) (registered : Instant) (r : Penalty.Request) :
    let f := (fresh systemId start index).after as
    start.IsReading → (∀ t, Action.setClock t ∈ as → t.IsReading) →
    f.store.user? userId = some m → m.registeredAt? = some registered →
    (∀ p, f.store.penaltyInForce? userId f.now = some p → p.kind ≠ .permanentBan) →
    (f.step (.call (.nextPenalty userId))).1 = .answer (.kind r.kind) →
    r.userId = userId → f.store.users.contains r.issuedBy = true →
    f.store.penalties.nextId ≤ Text.wordMax →
    let o := (f.step (.call (.issue r))).1
    let barred := r.kind = .warning ∧
      ∃ p, f.store.penaltyInForce? userId f.now = some p ∧ p.kind = .warning
    ((∃ p, o = .answer (.penalty p) ∧ p.kind = r.kind) ↔ ¬ barred) ∧
    (o = .refused (.alreadyPenalized .warning) ↔ barred) ∧
    (barred → ∀ p, f.store.penaltyInForce? userId f.now = some p →
      ¬ f.now.minus Penalty.Kind.warning.lookback ≤ p.issuedAt) := by
  intro f hstart hclock hm hregistered hperm hanswer hr hissuer hroom o barred
  subst hr
  have h : f.store.docket.Sound := sound_run systemId start index as
  have hf : f.Timely := (timely_fresh systemId hstart index).after (sound_fresh _ _ _) hclock
  have hnext := nextKind_of_answer hanswer
  by_cases hbarred : barred
  · obtain ⟨hkind, p, hp, hwarning⟩ := id hbarred
    have ho : o = .refused (.alreadyPenalized .warning) :=
      issue_refused_of_warning h hm hp hwarning hkind
    refine ⟨by simp [ho, hbarred], by simp [ho, hbarred], fun _ q hq => ?_⟩
    obtain rfl := Option.some.inj (hp.symm.trans hq)
    exact Store.not_minus_lookback_le_of_warning hp hwarning (hnext.trans hkind)
  · obtain ⟨p, ho, hkind⟩ := issue_admitted_of_recommended h hf hm hregistered hperm hnext hissuer
      hroom fun p hp hwarning hkind => hbarred ⟨hkind, p, hp, hwarning⟩
    have ho : o = .answer (.penalty p) := ho
    exact ⟨by simp [ho, hbarred, hkind], by simp [ho, hbarred], fun h => absurd h hbarred⟩

/-- A user is warned, and some time passes. -/
def warned (wait : Span) : List Action :=
  [.write (.createUser { username := "offender" }),
    .call (.issue ⟨2, .warning, "spam", 1, [], false⟩), .advance wait]

/-- Five days later, a ban for a day is recommended, and admitted. -/
theorem ban_admitted_after_recent_warning :
    let f := (fresh (some 1) ⟨1748779200, 0⟩ true).after (warned (.ofDays 5))
    ∃ p, (f.step (.call (.issue ⟨2, .dayBan, "again", 1, [], false⟩))).1 = .answer (.penalty p) ∧
      p.kind = .dayBan := by
  intro f
  have hrow : ((f.store.user? 2).bind Member.registeredAt?).isSome := by decide +kernel
  obtain ⟨registered, hrow⟩ := Option.isSome_iff_exists.mp hrow
  obtain ⟨m, hm, hregistered⟩ := Option.bind_eq_some_iff.mp hrow
  have hforce : (f.store.penaltyInForce? 2 f.now).map Penalty.kind = some .warning := by
    decide +kernel
  have hnext : f.store.nextKind 2 f.now = .dayBan := by decide +kernel
  have hissuer : f.store.users.contains 1 = true := by decide +kernel
  have hroom : f.store.penalties.nextId ≤ Text.wordMax := by decide +kernel
  have hadmitted := recommended_penalty_admitted_iff (some 1) ⟨1748779200, 0⟩ true
    (warned (.ofDays 5)) 2 m registered ⟨2, .dayBan, "again", 1, [], false⟩ (by decide +kernel)
    (fun t ht => by simp [warned] at ht) hm hregistered (fun p hp => ?_) (hnext ▸ rfl) rfl hissuer
    hroom
  · exact hadmitted.1.mpr fun hbarred => by cases hbarred.1
  · have hp : f.store.penaltyInForce? 2 f.now = some p := hp
    rw [hp, Option.map_some, Option.some_inj] at hforce
    rw [hforce]
    decide

/-- A month later, another warning is recommended, and refused. -/
theorem warning_refused_after_old_warning :
    let f := (fresh (some 1) ⟨1748779200, 0⟩ true).after (warned (.ofDays 31))
    ((f.store.user? 2).bind Member.registeredAt?).isSome ∧ f.store.users.contains 1 ∧
      (f.store.penaltyInForce? 2 f.now).map Penalty.kind ≠ some .permanentBan ∧
      ((Call.nextPenalty 2).run f.systemId f.now f.store).1 = .ok (.kind .warning) ∧
      ((Call.issue ⟨2, .warning, "again", 1, [], false⟩).run f.systemId f.now f.store).1 =
        .error (.alreadyPenalized .warning) := by
  decide +kernel

end Session

end CivicForum
