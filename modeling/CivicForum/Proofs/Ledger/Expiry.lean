import CivicForum.Proofs.Ledger.Sweep
import CivicForum.Proofs.Waiting

/-! # What a sweep expires

* `Penalty.IsDue`: the penalty is active, and its end has come.
* `Penalty.lapse_lapse_of_le`, `Penalty.lapse_lapse_of_ge`: lapsing at two instants is lapsing at the
  later one.
* `Store.length_duePenalties_swept`: what is due at the later instant was due at the earlier one, or is
  still due after a sweep there.
* `Session.sweep_expires_what_is_due`: what a sweep does to every forum, and two sweeps.
-/

set_option autoImplicit false

namespace CivicForum

namespace Penalty

variable {p : Penalty} {t u : Instant}

/-- The penalty is active, and its end has come. -/
def IsDue (p : Penalty) (now : Instant) : Prop :=
  p.status = .active ∧ ∃ t ∈ p.expiresAt, t ≤ now

instance (p : Penalty) (now : Instant) : Decidable (p.IsDue now) :=
  inferInstanceAs (Decidable (p.status = .active ∧ ∃ t ∈ p.expiresAt, t ≤ now))

theorem isDue_iff : p.IsDue t ↔ p.status = .active ∧ p.hasElapsed t = true := by
  unfold IsDue hasElapsed
  cases p.expiresAt <;> simp

theorem lapse_of_isDue (h : p.IsDue t) : p.lapse t = p.withStatus .expired :=
  if_pos (isDue_iff.mp h)

theorem lapse_of_not_isDue (h : ¬ p.IsDue t) : p.lapse t = p :=
  if_neg fun hp => h (isDue_iff.mpr hp)

theorem IsDue.of_le (h : p.IsDue t) (htu : t ≤ u) : p.IsDue u := by
  rw [isDue_iff] at *
  exact ⟨h.1, hasElapsed_of_le htu h.2⟩

theorem not_isDue_expired : ¬ (p.withStatus .expired).IsDue t := fun h => Status.noConfusion h.1

theorem not_isDue_lapse (htu : t ≤ u) : ¬ (p.lapse u).IsDue t := by
  by_cases h : p.IsDue u
  · rw [lapse_of_isDue h]
    exact not_isDue_expired
  · rw [lapse_of_not_isDue h]
    exact fun ht => h (ht.of_le htu)

theorem lapse_lapse_of_ge (htu : t ≤ u) : (p.lapse u).lapse t = p.lapse u :=
  lapse_of_not_isDue (not_isDue_lapse htu)

theorem lapse_lapse_of_le (htu : t ≤ u) : (p.lapse t).lapse u = p.lapse u := by
  by_cases h : p.IsDue t
  · rw [lapse_of_isDue h, lapse_of_not_isDue not_isDue_expired, lapse_of_isDue (h.of_le htu)]
  · rw [lapse_of_not_isDue h]

end Penalty

namespace Store

variable {s : Store} {t u : Instant}

theorem duePenalties_eq (s : Store) (t : Instant) :
    s.duePenalties t = s.penalties.rows.filter fun p => p.IsDue t := by
  unfold duePenalties
  apply List.filter_congr
  intro p _
  rw [Bool.eq_iff_iff, Bool.and_eq_true, decide_eq_true_eq, decide_eq_true_eq]
  exact Penalty.isDue_iff.symm

theorem swept_eq (s : Store) (t : Instant) : s.swept t =
    { s with penalties := s.penalties.mapRows fun p =>
      if p.IsDue t then { p with status := .expired } else p } := by
  unfold swept
  congr 2
  funext p
  split
  · next h => exact Penalty.lapse_of_isDue h
  · next h => exact Penalty.lapse_of_not_isDue h

theorem swept_swept_of_ge (htu : t ≤ u) : (s.swept u).swept t = s.swept u := by
  unfold swept
  rw [Table.mapRows_mapRows]
  congr 1
  exact Table.mapRows_congr fun p _ => Penalty.lapse_lapse_of_ge htu

theorem swept_swept_of_le (htu : t ≤ u) : (s.swept t).swept u = s.swept u := by
  unfold swept
  rw [Table.mapRows_mapRows]
  congr 1
  exact Table.mapRows_congr fun p _ => Penalty.lapse_lapse_of_le htu

theorem duePenalties_swept_of_ge (htu : t ≤ u) : (s.swept u).duePenalties t = [] := by
  rw [duePenalties_eq, List.filter_eq_nil_iff]
  intro q hq
  obtain ⟨p, -, rfl⟩ := List.mem_map.mp hq
  simpa using Penalty.not_isDue_lapse htu

theorem length_duePenalties_swept (htu : t ≤ u) :
    (s.duePenalties t).length + ((s.swept t).duePenalties u).length = (s.duePenalties u).length := by
  simp only [duePenalties_eq, ← List.countP_eq_length_filter]
  unfold swept
  rw [Table.mapRows_rows]
  induction s.penalties.rows with
  | nil => rfl
  | cons p ps ih =>
    simp only [List.map_cons, List.countP_cons, decide_eq_true_eq]
    by_cases h : p.IsDue t
    · rw [Penalty.lapse_of_isDue h, if_pos h, if_neg Penalty.not_isDue_expired,
        if_pos (h.of_le htu)]
      omega
    · rw [Penalty.lapse_of_not_isDue h, if_neg h]
      omega

end Store

namespace Call

theorem run_sweep {s : Store} (h : s.docket.Sound) (systemId : Int) (now : Instant) :
    sweep.run systemId now s = (.ok (.count (s.duePenalties now).length), s.swept now) := by
  rw [run_of_effect? h rfl]
  rfl

end Call

namespace Session

/-- Whatever has happened, a sweep expires the active penalties of all users whose end has come, says
how many there were, and changes nothing else. At the same instant and at earlier ones, there is
nothing left to expire. A sweep at an earlier instant and one now come to the same as the one now. -/
theorem sweep_expires_what_is_due (systemId : Option Int) (start : Instant) (index : Bool)
    (as : List Action) (now : Instant) :
    let f := (fresh systemId start index).after as
    let sweep (t : Instant) (s : Store) := Call.sweep.run f.systemId t s
    let swept := (sweep now f.store).2
    let due := f.store.penalties.rows.countP fun p => p.IsDue now
    (sweep now f.store).1 = .ok (.count due) ∧
    swept = { f.store with penalties := { f.store.penalties with
      rows := f.store.penalties.rows.map fun p =>
        if p.IsDue now then { p with status := .expired } else p } } ∧
    (∀ t, t ≤ now → sweep t swept = (.ok (.count 0), swept)) ∧
    ∀ t, t ≤ now → ∃ early late, (sweep t f.store).1 = .ok (.count early) ∧
      sweep now (sweep t f.store).2 = (.ok (.count late), swept) ∧ early + late = due := by
  intro f sweep swept due
  have h : f.store.docket.Sound := sound_run systemId start index as
  have hsweep : ∀ t, sweep t f.store =
      (.ok (.count (f.store.duePenalties t).length), f.store.swept t) := Call.run_sweep h f.systemId
  have hagain : ∀ t u, sweep u (f.store.swept t) =
      (.ok (.count ((f.store.swept t).duePenalties u).length), (f.store.swept t).swept u) := by
    intro t
    have hlater : (f.store.swept t).docket.Sound := h.lapse t
    exact Call.run_sweep hlater f.systemId
  have hswept : swept = f.store.swept now := congrArg Prod.snd (hsweep now)
  have hdue : (f.store.duePenalties now).length = due := by
    rw [Store.duePenalties_eq, ← List.countP_eq_length_filter]
  refine ⟨?_, ?_, fun t ht => ?_, fun t ht => ?_⟩
  · rw [hsweep, hdue]
  · rw [hswept]
    exact f.store.swept_eq now
  · rw [hswept, hagain, Store.duePenalties_swept_of_ge ht, Store.swept_swept_of_ge ht]
    rfl
  · refine ⟨(f.store.duePenalties t).length, ((f.store.swept t).duePenalties now).length,
      congrArg Prod.fst (hsweep t), ?_, ?_⟩
    · rw [hsweep, hagain, Store.swept_swept_of_le ht, hswept]
    · rw [Store.length_duePenalties_swept ht, hdue]

/-- Four bans: for a day, for a week, for ever, and one for a day that is being appealed. -/
def fourBans : List Action :=
  [.write (.createUser { username := "first" }), .write (.createUser { username := "second" }),
    .write (.createUser { username := "third" }), .write (.createUser { username := "fourth" }),
    .call (.issue ⟨2, .dayBan, "spam", 1, [], false⟩),
    .call (.issue ⟨3, .weekBan, "spam", 1, [], false⟩),
    .call (.issue ⟨4, .permanentBan, "spam", 1, [], false⟩),
    .call (.issue ⟨5, .dayBan, "spam", 1, [], false⟩), .call (.submitAppeal 4 5 "sorry")]

/-- A week later two of them are due. A sweep after a day, at the very end of the shorter one, expires
that one, and leaves the other one to the sweep after a week. -/
theorem four_bans_swept_twice :
    let f := (fresh (some 1) ⟨1748779200, 0⟩ true).after fourBans
    let sweep (t : Instant) (s : Store) := Call.sweep.run f.systemId t s
    let day : Instant := ⟨1748865600, 0⟩
    let week : Instant := ⟨1749384000, 0⟩
    day ≤ week ∧ (sweep week f.store).1 = .ok (.count 2) ∧
      (sweep day (sweep week f.store).2).1 = .ok (.count 0) ∧
      (sweep day f.store).1 = .ok (.count 1) ∧
      sweep week (sweep day f.store).2 = (.ok (.count 1), (sweep week f.store).2) := by
  intro f sweep day week
  have hle : day ≤ week := by decide
  have hweek : (sweep week f.store).1 = .ok (.count 2) := by decide +kernel
  have hday : (sweep day f.store).1 = .ok (.count 1) := by decide +kernel
  obtain ⟨hcount, -, hagain, hboth⟩ :=
    sweep_expires_what_is_due (some 1) ⟨1748779200, 0⟩ true fourBans week
  obtain ⟨early, late, hearly, hlate, hsum⟩ := hboth day hle
  rw [Answer.count.inj (Except.ok.inj (hcount.symm.trans hweek))] at hsum
  obtain rfl : early = 1 := Answer.count.inj (Except.ok.inj (hearly.symm.trans hday))
  obtain rfl : late = 1 := by omega
  exact ⟨hle, hweek, congrArg Prod.fst (hagain day hle), hday, hlate⟩

end Session

end CivicForum
