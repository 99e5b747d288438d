import CivicForum.Proofs.Ledger.Lookback
import CivicForum.Proofs.Ledger.Sweep
import CivicForum.Proofs.Ledger.Verdict

/-! # Bans that take the place of other bans

* `Penalty.Kind.length_lt_length`: the more severe of two bans lasts longer, or for ever.
* `Session.Past`: no penalty was issued later than the clock shows.
* `Penalty.Outlasts`: one ban ends later than another, or never.
* `Session.escalation_never_shortens`: as long as the clock never goes back, the ban that takes the
  place of one in force outlasts it.
-/

set_option autoImplicit false

namespace CivicForum

namespace Penalty

variable {p q : Penalty} {now : Instant}

theorem Kind.length_lt_length {k l : Kind} (hban : k ≠ .warning) (h : k.severity < l.severity) :
    l.length? = none ∨
      ∃ m n, k.length? = some (.ofSeconds m) ∧ l.length? = some (.ofSeconds n) ∧ 0 < m ∧ m < n := by
  cases l with
  | warning => exact absurd h (Nat.not_lt_zero _)
  | permanentBan => exact .inl rfl
  | dayBan | weekBan | monthBan =>
    right
    cases k with
    | warning => exact absurd rfl hban
    | dayBan | weekBan | monthBan | permanentBan =>
      first
      | exact absurd h (by decide)
      | exact ⟨_, _, rfl, rfl, by decide, by decide⟩

/-- The penalty ends later than the other one, or never. -/
def Outlasts (q p : Penalty) : Prop :=
  q.expiresAt = none ∨ ∃ u v, p.expiresAt = some u ∧ q.expiresAt = some v ∧ u < v

theorem Outlasts.hasElapsed (h : q.Outlasts p) (hp : p.hasElapsed now = false) :
    q.hasElapsed now = false := by
  unfold Penalty.hasElapsed
  rcases h with hnever | ⟨u, v, hu, hv, huv⟩
  · rw [hnever]
  · have hnow : now < u := lt_of_hasElapsed_eq_false hp u hu
    rw [hv]
    rw [Instant.lt_iff] at hnow huv
    simp only [decide_eq_false_iff_not, Instant.le_iff]
    omega

/-- Of two bans, the one that is more severe and was not issued earlier lasts longer. -/
theorem outlasts_of_severity_lt (hp : p.Sound) (hq : q.Sound) (hban : p.kind ≠ .warning)
    (hsevere : p.kind.severity < q.kind.severity) (hread : p.issuedAt.IsReading)
    (hissued : p.issuedAt ≤ q.issuedAt) : q.Outlasts p := by
  unfold Outlasts
  rw [hp.expiry, hq.expiry]
  obtain hnever | ⟨m, n, hm, hn, hpos, hlt⟩ := Kind.length_lt_length hban hsevere
  · left
    rw [hnever]
    rfl
  · right
    rw [hm, hn]
    exact ⟨_, _, rfl, rfl, Instant.plus_lt_plus hread hissued hpos hlt⟩

end Penalty

namespace Session

variable {f : Session} {a : Action}

/-! ## What has been issued lies in the past -/

/-- No penalty was issued later than the clock shows. -/
def Past (f : Session) : Prop := ∀ p ∈ f.store.penalties.rows, p.issuedAt ≤ f.now

theorem past_fresh (systemId : Option Int) (start : Instant) (index : Bool) :
    (fresh systemId start index).Past := by
  intro p hp
  rw [penalties_fresh] at hp
  cases hp

theorem Past.step (hf : f.Past) (h : f.store.docket.Sound) (hclock : f.now ≤ (f.step a).2.now) :
    (f.step a).2.Past := by
  intro q hq
  obtain ⟨r, rfl⟩ | ⟨p, hp, hterms⟩ := (moved_step h a).docket.origin q hq
  · exact hclock
  · rw [hterms.issuedAt]
    exact Instant.le_trans (hf p hp) hclock

theorem Past.after (hf : f.Past) (h : f.store.docket.Sound) {as : List Action}
    (hforward : f.forward as = true) : (f.after as).Past := by
  induction as generalizing f with
  | nil => exact hf
  | cons a as ih =>
    simp only [forward, Bool.and_eq_true, decide_eq_true_eq] at hforward
    apply ih (hf.step h hforward.1)
    · exact h.move (moved_step h a).docket
    · exact hforward.2

/-! ## Escalation -/

/-- As long as the clock never goes back, a request that is granted while a ban of the same user is in
force, one that was put back after an appeal included, leads to a more severe ban. The earlier one
expires, and the new one ends later, or never: at no time at which the earlier one would have been
running has the new one elapsed. -/
theorem escalation_never_shortens (systemId : Option Int) (start : Instant) (index : Bool)
    (as : List Action) (a : Action) (r : Penalty.Request) (p q : Penalty) :
    let f := (fresh systemId start index).after as
    start.IsReading → (∀ t, Action.setClock t ∈ as → t.IsReading) →
    (fresh systemId start index).forward as = true →
    p ∈ f.store.penalties.rows → p.userId = r.userId → p.kind ≠ .warning →
    p.isInForce f.now = true →
    a.call? = some (.issue r) → f.answer? a = some (.penalty q) →
    let t := (f.step a).2.store
    q.userId = p.userId ∧ q.kind ≠ .warning ∧ p.kind.severity < q.kind.severity ∧
    q.status = .active ∧ t.penalty? q.id = some q ∧
    t.penalty? p.id = some { p with status := .expired } ∧
    q.Outlasts p ∧ ∀ now, p.hasElapsed now = false → q.hasElapsed now = false := by
  intro f hstart hclock hforward hp huser hban hforce ha hans t
  have h : f.store.docket.Sound := sound_run systemId start index as
  have hnext : t.docket.Sound := h.move (moved_step h a).docket
  have hpast : f.Past := (past_fresh systemId start index).after (sound_fresh _ _ _) hforward
  have htimely : f.Timely := (timely_fresh systemId hstart index).after (sound_fresh _ _ _) hclock
  have hissue := issueEffect_of_answer? h ha hans
  obtain ⟨-, hrank, -, -, rfl, -⟩ := Ledger.issueEffect_eq_ok.mp hissue
  have hsevere : p.kind.severity < r.kind.severity :=
    hrank p ((Store.penaltyInForce?_eq_some h.exclusive).mpr ⟨hp, huser, hforce⟩)
  have hrows := (Ledger.granted_of_issueEffect h.exclusive hissue).1.rows
  have hlasts : (r.entry f.store.penalties.nextId f.now).Outlasts p :=
    Penalty.outlasts_of_severity_lt (h.penalty p hp) (r.sound_entry _ _) hban hsevere
      (htimely.issued p hp) (hpast p hp)
  refine ⟨huser.symm, ?_, hsevere, rfl, ?_, ?_, hlasts, fun now => hlasts.hasElapsed⟩
  · exact Penalty.Kind.severity_pos_iff.mp (Nat.zero_lt_of_lt hsevere)
  · refine hnext.exclusive.ids.find?_eq_some.mpr ⟨?_, rfl⟩
    show _ ∈ t.penalties.rows
    rw [hrows]
    exact List.mem_append_right _ (List.mem_singleton_self _)
  · refine hnext.exclusive.ids.find?_eq_some.mpr ⟨?_, rfl⟩
    show _ ∈ t.penalties.rows
    rw [hrows]
    apply List.mem_append_left
    refine List.mem_map.mpr ⟨p, hp, ?_⟩
    exact if_pos ⟨huser, (Penalty.isInForce_eq_true.mp hforce).1⟩

/-- A ban for a week is appealed, and put back two days later. -/
def upheldWeek : List Action :=
  [.write (.createUser { username := "offender" }),
    .call (.issue ⟨2, .weekBan, "spam", 1, [], false⟩), .call (.submitAppeal 1 2 "sorry"),
    .advance (.ofDays 2), .call (.reviewAppeal 1 1 "reject" "no"), .advance (.ofDays 1)]

def upheldPenalty : Penalty where
  id := 1
  userId := 2
  kind := .weekBan
  status := .active
  reason := "spam"
  issuedBy := 1
  issuedAt := ⟨1748779200, 0⟩
  expiresAt := some ⟨1749384000, 0⟩
  relatedFlagIds := []
  revokedBy := none
  revokedAt := none
  revokeReason := none

/-- A ban for a month, a day after that, runs on when the week is over. -/
theorem upheld_week_escalates_to_month :
    let f := (fresh (some 1) ⟨1748779200, 0⟩ true).after upheldWeek
    let r : Penalty.Request := ⟨2, .monthBan, "again", 1, [], false⟩
    let month := r.entry 2 f.now
    (fresh (some 1) ⟨1748779200, 0⟩ true).forward upheldWeek = true ∧
    upheldPenalty ∈ f.store.penalties.rows ∧ upheldPenalty.isInForce f.now = true ∧
    f.answer? (.call (.issue r)) = some (.penalty month) ∧
    (f.step (.call (.issue r))).2.store.penalty? upheldPenalty.id =
      some (upheldPenalty.withStatus .expired) ∧
    ∀ now, upheldPenalty.hasElapsed now = false → month.hasElapsed now = false := by
  intro f r month
  have hforward : (fresh (some 1) ⟨1748779200, 0⟩ true).forward upheldWeek = true := by
    decide +kernel
  have hp : upheldPenalty ∈ f.store.penalties.rows := by decide +kernel
  have hforce : upheldPenalty.isInForce f.now = true := by decide +kernel
  have hans : f.answer? (.call (.issue r)) = some (.penalty month) := by decide +kernel
  obtain ⟨-, -, -, -, -, hexpired, -, hlasts⟩ :=
    escalation_never_shortens (some 1) ⟨1748779200, 0⟩ true upheldWeek (.call (.issue r)) r
      upheldPenalty month (by decide) (fun t ht => by simp [upheldWeek] at ht) hforward hp rfl
      nofun hforce rfl hans
  refine ⟨hforward, hp, hforce, hans, ?_, hlasts⟩
  subst f
  exact hexpired

end Session

end CivicForum
