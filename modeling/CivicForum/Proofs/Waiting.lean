import CivicForum.Proofs.Ledger.Lookback
import CivicForum.Proofs.Ledger.Sweep
import CivicForum.Proofs.Reputation.Suspension
import CivicForum.Proofs.Time.Reading

/-! # Waiting never hurts

As time passes and nothing else happens, bans end, offences are forgotten and membership gets older.

* `Penalty.isInForce_of_le`: what is in force later was in force before.
* `Penalty.severity_nextKind_le`: fewer offences count later, so that the recommendation is at most
  as severe.
* `Store.scoreAt_le`: the score with fewer penalties and more days is at least as high.
* `Session.waiting_never_hurts`: so it is for everybody in every forum, unless the later reading of
  the clock falls behind a leap second.
* `Session.leap_second_lost`: a score and a recommendation that get worse at the end of one.
-/

set_option autoImplicit false

namespace CivicForum

/-! ## Penalties -/

namespace Penalty

variable {p : Penalty} {t u : Instant} {history : List Penalty}

theorem hasElapsed_of_le (h : t ≤ u) (hp : p.hasElapsed t = true) : p.hasElapsed u = true := by
  unfold hasElapsed at *
  split at hp
  · exact decide_eq_true (Instant.le_trans (of_decide_eq_true hp) h)
  · cases hp

theorem isInForce_of_le (h : t ≤ u) (hp : p.isInForce u = true) : p.isInForce t = true := by
  rw [isInForce_eq_true] at *
  refine ⟨hp.1, eq_false_of_ne_true fun helapsed => ?_⟩
  have hlater := hp.2
  rw [hasElapsed_of_le h helapsed] at hlater
  cases hlater

theorem canBeAppealed_of_le {hasAppeal : Bool} (h : t ≤ u)
    (hp : p.canBeAppealed hasAppeal u = true) : p.canBeAppealed hasAppeal t = true := by
  unfold canBeAppealed at *
  simp only [Bool.and_eq_true] at *
  exact ⟨⟨isInForce_of_le h hp.1.1, hp.1.2⟩, hp.2⟩

theorem Kind.minus_lookback_le (k : Kind) (h : t.total ≤ u.total) :
    t.minus k.lookback ≤ u.minus k.lookback := by
  have hseconds : ∃ n, 0 < n ∧ k.lookback = .ofSeconds n := by
    cases k with
    | warning | dayBan | weekBan => exact ⟨30 * 86400, by decide, rfl⟩
    | monthBan | permanentBan => exact ⟨90 * 86400, by decide, rfl⟩
  obtain ⟨n, hn, hlookback⟩ := hseconds
  rw [hlookback]
  exact Instant.minus_le_minus hn h

/-- What qualifies later has qualified before. -/
theorem qualifies_of_le (h : t.total ≤ u.total) (hp : p.qualifies u = true) :
    p.qualifies t = true := by
  rw [qualifies_eq_true] at *
  exact ⟨hp.1, hp.2.1, Instant.le_trans (p.kind.minus_lookback_le h) hp.2.2⟩

theorem severity_nextKind_le (h : t.total ≤ u.total) :
    (nextKind history u).severity ≤ (nextKind history t).severity :=
  severity_nextKind_le_of_forall fun p hp hqualifies =>
    ⟨p, hp, qualifies_of_le h hqualifies, Nat.le_refl _⟩

end Penalty

/-! ## Users -/

namespace Store

variable {s : Store} {userId : Int} {p : Penalty} {t u : Instant} {m : Member}

theorem penaltyInForce?_of_le (h : t ≤ u) (hp : s.penaltyInForce? userId u = some p) :
    s.penaltyInForce? userId t = some p := by
  unfold penaltyInForce? at *
  rw [Option.filter_eq_some_iff] at *
  exact ⟨hp.1, Penalty.isInForce_of_le h hp.2⟩

theorem ban?_of_le (h : t ≤ u) (hp : s.ban? userId u = some p) : s.ban? userId t = some p := by
  unfold ban? at *
  rw [Option.filter_eq_some_iff] at *
  exact ⟨penaltyInForce?_of_le h hp.1, hp.2⟩

theorem penaltyMalus_le (hs : s.Exclusive) (h : t ≤ u) :
    Score.penaltyMalus (s.isPenalized userId u) ≤ Score.penaltyMalus (s.isPenalized userId t) := by
  refine Score.penaltyMalus_le fun hlater => ?_
  rw [isPenalized_eq hs] at hlater ⊢
  obtain ⟨p, hp⟩ := Option.isSome_iff_exists.mp hlater
  rw [penaltyInForce?_of_le h hp]
  rfl

theorem scoreAt_le (hs : s.Exclusive) {registered : Instant}
    (hregistered : m.registeredAt? = some registered) (h : t ≤ u) (ht : t.IsReading)
    (hu : u.IsCivil) (hahead : ¬ t.FallsBehind u) :
    m.scoreAt registered t (s.isPenalized userId t) ≤
      m.scoreAt registered u (s.isPenalized userId u) := by
  have hdays := Instant.wholeDays_since_mono h ht hu (Timestamp.isCivil_of_read? hregistered) hahead
  have hage := Score.ageBonus_le hdays
  have hmalus : Score.penaltyMalus (s.isPenalized userId u) ≤
      Score.penaltyMalus (s.isPenalized userId t) := penaltyMalus_le hs h
  exact Member.scoreAt_le_iff.mpr (.inr (Int.add_le_add hage hmalus))

end Store

/-! ## Answers -/

namespace Session

variable {f : Session} {t : Instant} {userId : Int}

/-- What a call is answered when the clock shows this and nothing else has happened. -/
def answerAt? (f : Session) (t : Instant) (c : Call) : Option Answer :=
  (f.after [.setClock t]).answer? (.call c)

theorem answerAt?_activePenalty : f.answerAt? t (.activePenalty userId) =
    some (.maybePenalty (f.store.penaltyInForce? userId t)) := rfl

theorem answerAt?_ban :
    f.answerAt? t (.ban userId) = some (.maybePenalty (f.store.ban? userId t)) := rfl

theorem answerAt?_nextPenalty :
    f.answerAt? t (.nextPenalty userId) = some (.kind (f.store.nextKind userId t)) := rfl

theorem answerAt?_canAppeal {id : Int} : f.answerAt? t (.canAppeal id) =
    (f.store.penalty? id).map fun p => .truth (f.store.canAppeal p t) := by
  show ((Call.canAppeal id).run f.systemId t f.store).1.toOption = _
  rw [Call.run_canAppeal]
  rcases f.store.penalty? id with - | p
  · rfl
  · rfl

theorem answerAt?_recalculate (h : f.store.docket.Sound) {m : Member}
    (hm : f.store.user? userId = some m) {registered : Instant}
    (hregistered : m.registeredAt? = some registered) :
    f.answerAt? t (.recalculate userId) =
      some (.score (m.scoreAt registered t (f.store.isPenalized userId t))) := by
  let score : Int := m.scoreAt registered t (f.store.isPenalized userId t)
  have hid : m.id = userId := (Table.mem_of_find?_eq_some hm).2
  have hscore : Reputation.scoreOf f.store userId t = .ok score := by
    refine Reputation.scoreOf_eq_ok.mpr ⟨m, registered, hm, hregistered, ?_⟩
    rw [Store.ofInputs_scoreInputs h.exclusive, hid]
  have hrun : (Call.recalculate userId).run f.systemId t f.store =
      (.ok (.score score), f.store.setScore userId score) := by
    rw [Call.run_of_effect? h rfl, Reputation.recalculateEffect_eq_ok.mpr ⟨hscore, rfl⟩]
    rfl
  show ((Call.recalculate userId).run f.systemId t f.store).1.toOption = _
  rw [hrun]
  rfl

/-- From an earlier reading of the clock to a later one, nobody's position gets worse. Who is banned
or has a penalty in force later had it before, and what can be appealed later could be appealed
before. Unless the earlier reading lies in a leap second and the later one in the very next second,
at an earlier fraction, the score that is computed anew is at least as high later, and the penalty
that is recommended is at most as severe. -/
theorem waiting_never_hurts (systemId : Option Int) (start : Instant) (index : Bool)
    (as : List Action) (t u : Instant) :
    let f := (fresh systemId start index).after as
    t ≤ u →
    (∀ userId p, f.answerAt? u (.ban userId) = some (.maybePenalty (some p)) →
      f.answerAt? t (.ban userId) = some (.maybePenalty (some p))) ∧
    (∀ userId p, f.answerAt? u (.activePenalty userId) = some (.maybePenalty (some p)) →
      f.answerAt? t (.activePenalty userId) = some (.maybePenalty (some p))) ∧
    (∀ id, f.answerAt? u (.canAppeal id) = some (.truth true) →
      f.answerAt? t (.canAppeal id) = some (.truth true)) ∧
    (t.IsReading → ¬ t.FallsBehind u →
      (∀ userId, ∃ before later, f.answerAt? t (.nextPenalty userId) = some (.kind before) ∧
        f.answerAt? u (.nextPenalty userId) = some (.kind later) ∧
        later.severity ≤ before.severity) ∧
      ∀ userId m, f.store.user? userId = some m → m.registeredAt?.isSome = true → u.IsCivil →
        ∃ before later, f.answerAt? t (.recalculate userId) = some (.score before) ∧
          f.answerAt? u (.recalculate userId) = some (.score later) ∧ before ≤ later) := by
  intro f h
  have hdocket : f.store.docket.Sound := sound_run systemId start index as
  refine ⟨fun userId p hp => ?_, fun userId p hp => ?_, fun id hp => ?_, fun ht hahead => ⟨?_, ?_⟩⟩
  · rw [answerAt?_ban] at *
    obtain hban := Answer.maybePenalty.inj (Option.some.inj hp)
    rw [Store.ban?_of_le h hban]
  · rw [answerAt?_activePenalty] at *
    obtain hforce := Answer.maybePenalty.inj (Option.some.inj hp)
    rw [Store.penaltyInForce?_of_le h hforce]
  · rw [answerAt?_canAppeal, Option.map_eq_some_iff] at *
    obtain ⟨p, hfind, hlater⟩ := hp
    refine ⟨p, hfind, ?_⟩
    have hcan : f.store.canAppeal p t = true :=
      Penalty.canBeAppealed_of_le h (Answer.truth.inj hlater)
    rw [hcan]
  · intro userId
    exact ⟨_, _, answerAt?_nextPenalty, answerAt?_nextPenalty,
      Penalty.severity_nextKind_le (Instant.total_le h ht hahead)⟩
  · intro userId m hm hreadable hu
    obtain ⟨registered, hregistered⟩ := Option.isSome_iff_exists.mp hreadable
    exact ⟨_, _, answerAt?_recalculate hdocket hm hregistered,
      answerAt?_recalculate hdocket hm hregistered,
      Store.scoreAt_le hdocket.exclusive hregistered h ht hu hahead⟩

/-- A user who registers and is warned at a fraction of a second. -/
def warnedAtOnce : Session :=
  (fresh (some 1) ⟨1748736000, 200000000⟩ true).after
    [.write (.createUser { username := "newcomer" }),
      .call (.issue ⟨2, .warning, "tone", 1, [], false⟩)]

/-- From half a leap second on, thirty days later, to more than half of the next second. -/
theorem waiting_across_leap_second :
    let f := warnedAtOnce
    let t : Instant := ⟨1751327999, 1500000000⟩
    let u : Instant := ⟨1751328000, 700000000⟩
    t.inLeapSecond = true ∧
    (∃ before later, f.answerAt? t (.nextPenalty 2) = some (.kind before) ∧
      f.answerAt? u (.nextPenalty 2) = some (.kind later) ∧ later.severity ≤ before.severity) ∧
    ∃ before later, f.answerAt? t (.recalculate 2) = some (.score before) ∧
      f.answerAt? u (.recalculate 2) = some (.score later) ∧ before ≤ later := by
  intro f t u
  obtain ⟨-, -, -, hahead⟩ := waiting_never_hurts (some 1) ⟨1748736000, 200000000⟩ true
    [.write (.createUser { username := "newcomer" }),
      .call (.issue ⟨2, .warning, "tone", 1, [], false⟩)] t u (by decide)
  obtain ⟨hkinds, hscores⟩ := hahead (by decide) (by decide)
  have huser : (f.store.user? 2).any fun m => m.registeredAt?.isSome := by decide +kernel
  obtain ⟨m, hm, hreadable⟩ := (Option.any_eq_true _ _).mp huser
  exact ⟨rfl, hkinds 2, hscores 2 m hm hreadable (by decide)⟩

/-- From half a leap second on to the start of the next second: a day of membership is lost again,
and so is a point, and the warning, which had just been forgotten, counts once more. -/
theorem leap_second_lost :
    let f := warnedAtOnce
    let t : Instant := ⟨1751327999, 1500000000⟩
    let u : Instant := ⟨1751328000, 0⟩
    t ≤ u ∧ t.IsCivil ∧ u.IsCivil ∧
    (f.store.user? 2).any (fun m => m.registeredAt?.isSome) = true ∧
    f.answerAt? t (.recalculate 2) = some (.score 35) ∧
    f.answerAt? u (.recalculate 2) = some (.score 34) ∧
    f.answerAt? t (.nextPenalty 2) = some (.kind .warning) ∧
    f.answerAt? u (.nextPenalty 2) = some (.kind .dayBan) := by
  decide +kernel

end Session

end CivicForum
