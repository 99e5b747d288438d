import CivicForum.Penalty.Escalation
import Mathlib.Data.List.MinMax

/-! # One step above the worst offence

The recommendation goes through the levels of the ladder, each with a lookback of its own, and stops
at the first one that a penalty of the history reached.

* `Penalty.qualifies`: a penalty counts by its own kind, whatever the others are.
* `Penalty.worst?`: the most severe penalty of a history that qualifies.
* `Penalty.lt_severity_nextKind`: which penalties make the recommendation more severe than a level.
* `Penalty.severity_nextKind_le_of_forall`: a history without worse offences leads to no more severe
  recommendation.
* `Penalty.one_step_above_worst`: the recommendation lies one step above the worst offence; it does
  not depend on the order of the history, and revoking makes it no more severe.
-/

set_option autoImplicit false

namespace CivicForum.Penalty

/-- The penalty was not overturned, there is a more severe kind, and it was issued within the
lookback of its own kind. -/
def qualifies (p : Penalty) (now : Instant) : Bool :=
  p.status ≠ .revoked && p.kind ≠ .permanentBan && now.minus p.kind.lookback ≤ p.issuedAt

/-- The most severe penalty that qualifies, if any does. -/
def worst? (history : List Penalty) (now : Instant) : Option Penalty :=
  (history.filter fun p => p.qualifies now).argmax fun p => p.kind.severity

/-! ## The ladder -/

theorem Kind.severity_injective {k l : Kind} (h : k.severity = l.severity) : k = l := by
  cases k <;> cases l <;> first | rfl | cases h

theorem Kind.severity_escalate {k : Kind} (h : k ≠ .permanentBan) :
    k.escalate.severity = k.severity + 1 := by
  cases k <;> first | rfl | exact absurd rfl h

theorem mem_levels {k : Kind} : k ∈ levels ↔ k ≠ .permanentBan := by
  cases k <;> decide

theorem levels_descend : levels.Pairwise fun k l => l.severity < k.severity := by decide

/-! ## What the search finds -/

variable {history history' : List Penalty} {now now' : Instant} {p : Penalty}

theorem qualifies_eq_true : p.qualifies now = true ↔
    p.status ≠ .revoked ∧ p.kind ≠ .permanentBan ∧ now.minus p.kind.lookback ≤ p.issuedAt := by
  simp [qualifies, and_assoc]

/-- A penalty counts for one level of the ladder at most, which is its own kind. -/
theorem countsFor_iff {level : Kind} (hlevel : level ∈ levels) :
    p.countsFor level now = true ↔ p.kind = level ∧ p.qualifies now = true := by
  have hbelow := mem_levels.mp hlevel
  simp only [countsFor, qualifies_eq_true, Bool.and_eq_true, decide_eq_true_eq]
  constructor
  · rintro ⟨⟨rfl, hstatus⟩, hrecent⟩
    exact ⟨rfl, hstatus, hbelow, hrecent⟩
  · rintro ⟨rfl, hstatus, -, hrecent⟩
    exact ⟨⟨rfl, hstatus⟩, hrecent⟩

theorem any_countsFor {level : Kind} (hlevel : level ∈ levels) :
    (history.any fun p => p.countsFor level now) = true ↔
      ∃ p ∈ history, p.kind = level ∧ p.qualifies now = true := by
  simp only [List.any_eq_true, countsFor_iff hlevel]

/-- Nothing qualifies, or some penalty that does is one step below the recommendation. -/
theorem nextKind_cases (history : List Penalty) (now : Instant) :
    nextKind history now = .warning ∨
      ∃ p ∈ history, p.qualifies now = true ∧ nextKind history now = p.kind.escalate := by
  unfold nextKind
  rcases hfind : levels.find? fun level => history.any fun p => p.countsFor level now with - | level
  · exact .inl rfl
  · have hlevel := List.mem_of_find?_eq_some hfind
    have hany : (history.any fun p => p.countsFor level now) = true :=
      List.find?_some (p := fun level => history.any fun p => p.countsFor level now) hfind
    obtain ⟨p, hp, rfl, hqualifies⟩ := (any_countsFor hlevel).mp hany
    exact .inr ⟨p, hp, hqualifies, rfl⟩

/-- The search does not go past the level of a penalty that qualifies. -/
theorem severity_lt_nextKind (hp : p ∈ history) (hqualifies : p.qualifies now = true) :
    p.kind.severity < (nextKind history now).severity := by
  have hlevel : p.kind ∈ levels := mem_levels.mpr (qualifies_eq_true.mp hqualifies).2.1
  have hany := (any_countsFor hlevel).mpr ⟨p, hp, rfl, hqualifies⟩
  unfold nextKind
  rcases hfind : levels.find? fun level => history.any fun p => p.countsFor level now with - | found
  · exact absurd hany (List.find?_eq_none.mp hfind p.kind hlevel)
  · have hfound := mem_levels.mp (List.mem_of_find?_eq_some hfind)
    obtain ⟨-, before, after, hsplit, hbefore⟩ := List.find?_eq_some_iff_append.mp hfind
    have hdescend := levels_descend
    rw [hsplit] at hlevel hdescend
    have hle : p.kind.severity ≤ found.severity := by
      rcases List.mem_append.mp hlevel with hpassed | hrest
      · exact absurd hany (by simpa using hbefore p.kind hpassed)
      · rcases List.mem_cons.mp hrest with heq | hlower
        · rw [heq]
        · exact Nat.le_of_lt
            (List.rel_of_pairwise_cons (List.pairwise_append.mp hdescend).2.1 hlower)
    show p.kind.severity < found.escalate.severity
    rw [Kind.severity_escalate hfound]
    exact Nat.lt_succ_of_le hle

/-- The recommendation lies above a level exactly when a penalty that qualifies has reached it. -/
theorem lt_severity_nextKind {n : Nat} : n < (nextKind history now).severity ↔
    ∃ p ∈ history, p.qualifies now = true ∧ n ≤ p.kind.severity := by
  constructor
  · intro hn
    rcases nextKind_cases history now with hnone | ⟨p, hp, hqualifies, hnext⟩
    · rw [hnone] at hn
      cases hn
    · rw [hnext, Kind.severity_escalate (qualifies_eq_true.mp hqualifies).2.1] at hn
      exact ⟨p, hp, hqualifies, Nat.le_of_lt_succ hn⟩
  · rintro ⟨p, hp, hqualifies, hn⟩
    exact Nat.lt_of_le_of_lt hn (severity_lt_nextKind hp hqualifies)

/-! ## Comparing histories -/

/-- A history is no worse than another one when for each of its penalties that qualifies, the other
one has at least as severe a one. -/
theorem severity_nextKind_le_of_forall
    (h : ∀ p ∈ history, p.qualifies now = true →
      ∃ q ∈ history', q.qualifies now' = true ∧ p.kind.severity ≤ q.kind.severity) :
    (nextKind history now).severity ≤ (nextKind history' now').severity := by
  refine Nat.le_of_not_lt fun hlt => ?_
  obtain ⟨p, hp, hqualifies, hreached⟩ := lt_severity_nextKind.mp hlt
  obtain ⟨q, hq, hqqualifies, hle⟩ := h p hp hqualifies
  exact Nat.lt_irrefl _
    (lt_severity_nextKind.mpr ⟨q, hq, hqqualifies, Nat.le_trans hreached hle⟩)

theorem severity_nextKind_le_of_subset (h : history ⊆ history') :
    (nextKind history now).severity ≤ (nextKind history' now).severity :=
  severity_nextKind_le_of_forall fun p hp hqualifies => ⟨p, h hp, hqualifies, Nat.le_refl _⟩

theorem severity_nextKind_insert_le (before after : List Penalty) (p : Penalty) :
    (nextKind (before ++ after) now).severity ≤ (nextKind (before ++ p :: after) now).severity :=
  severity_nextKind_le_of_subset ((List.sublist_cons_self p after).append_left before).subset

/-- A penalty that was overturned might as well be left out. -/
theorem severity_nextKind_revoked_le (before after : List Penalty) (hp : p.status = .revoked) :
    (nextKind (before ++ p :: after) now).severity ≤ (nextKind (before ++ after) now).severity := by
  refine severity_nextKind_le_of_forall fun q hq hqualifies => ⟨q, ?_, hqualifies, Nat.le_refl _⟩
  rcases List.mem_append.mp hq with hq | hq
  · exact List.mem_append_left _ hq
  rcases List.mem_cons.mp hq with rfl | hq
  · exact absurd hp (qualifies_eq_true.mp hqualifies).1
  · exact List.mem_append_right _ hq

theorem nextKind_eq_of_perm (h : history.Perm history') :
    nextKind history' now = nextKind history now :=
  Kind.severity_injective (Nat.le_antisymm (severity_nextKind_le_of_subset h.symm.subset)
    (severity_nextKind_le_of_subset h.subset))

theorem nextKind_eq (history : List Penalty) (now : Instant) :
    nextKind history now = ((worst? history now).map fun p => p.kind.escalate).getD .warning := by
  rcases hworst : worst? history now with - | p
  · have hnone := List.filter_eq_nil_iff.mp (List.argmax_eq_none.mp hworst)
    rcases nextKind_cases history now with hwarning | ⟨p, hp, hqualifies, -⟩
    · exact hwarning
    · exact absurd hqualifies (hnone p hp)
  · obtain ⟨hp, hqualifies⟩ := List.mem_filter.mp (List.argmax_mem hworst)
    have hkind := (qualifies_eq_true.mp hqualifies).2.1
    refine Kind.severity_injective (Nat.le_antisymm ?_ ?_)
    · rcases nextKind_cases history now with hwarning | ⟨q, hq, hqqualifies, hnext⟩
      · rw [hwarning]
        exact Nat.zero_le _
      · have hle : q.kind.severity ≤ p.kind.severity :=
          List.le_of_mem_argmax (f := fun p : Penalty => p.kind.severity)
            (List.mem_filter.mpr ⟨hq, hqqualifies⟩) hworst
        rw [hnext, Kind.severity_escalate (qualifies_eq_true.mp hqqualifies).2.1, Option.map_some,
          Option.getD_some, Kind.severity_escalate hkind]
        exact Nat.succ_le_succ hle
    · have hlt := severity_lt_nextKind hp hqualifies
      rw [Option.map_some, Option.getD_some, Kind.severity_escalate hkind]
      exact hlt

/-- The recommendation lies one step above the most severe penalty that qualifies by its own
lookback, and is a warning when none does. The order of the history does not matter; one more
penalty never makes the recommendation less severe, and revoking one never makes it more severe. -/
theorem one_step_above_worst (history : List Penalty) (now : Instant) :
    nextKind history now = ((worst? history now).map fun p => p.kind.escalate).getD .warning ∧
    (∀ other, history.Perm other → nextKind other now = nextKind history now) ∧
    (∀ before after p, (nextKind (before ++ after) now).severity ≤
      (nextKind (before ++ p :: after) now).severity) ∧
    ∀ before after p, (nextKind (before ++ { p with status := .revoked } :: after) now).severity ≤
      (nextKind (before ++ p :: after) now).severity := by
  refine ⟨nextKind_eq history now, fun other hother => nextKind_eq_of_perm hother,
    severity_nextKind_insert_le, fun before after p => ?_⟩
  exact Nat.le_trans (severity_nextKind_revoked_le before after rfl)
    (severity_nextKind_insert_le before after p)

/-- The oldest penalty decides: the latest one was overturned, the warning is less severe, and the
ban for a week was issued too long ago. -/
theorem oldest_offence_decides :
    let now : Instant := ⟨1748779200, 0⟩
    let offence (kind : Kind) (status : Status) (days : Int) : Penalty :=
      ⟨1, 2, kind, status, "spam", 1, now.minus (.ofDays days), none, [], none, none, none⟩
    let history := [offence .permanentBan .revoked 1, offence .warning .active 2,
      offence .weekBan .expired 31, offence .monthBan .expired 60]
    history.Perm history.reverse ∧ worst? history now = some (offence .monthBan .expired 60) ∧
      nextKind history.reverse now = .permanentBan := by
  intro now offence history
  have hperm : history.Perm history.reverse := (List.reverse_perm history).symm
  have hworst : worst? history now = some (offence .monthBan .expired 60) := by decide
  obtain ⟨hnext, horder, -⟩ := one_step_above_worst history now
  refine ⟨hperm, hworst, (horder _ hperm).trans ?_⟩
  rw [hnext, hworst]
  rfl

end CivicForum.Penalty
