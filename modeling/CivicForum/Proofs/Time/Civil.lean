import CivicForum.Proofs.Time

/-! # Days that pass across leap seconds

A leap second counts toward the length of time between two instants only when the other one lies
later in the day, so that the length itself can drop by a second as time passes.

* `Instant.IsCivil`: a time that a clock can show, with leap seconds only at the end of a minute.
* `Instant.FallsBehind`: a later reading that comes before the end of a leap second.
* `Instant.nanos_since`: the length of time between two instants.
* `Instant.wholeDays_since_mono`: unless the later reading falls behind, the whole days since an
  instant do not get fewer.
* `Instant.minus_le_minus`: nor do instants that lie as far back change their order.
-/

set_option autoImplicit false

namespace CivicForum.Instant

variable {t u r : Instant}

/-! ## Readings -/

/-- A time that a clock can show. A leap second follows the last second of a minute. -/
def IsCivil (t : Instant) : Prop :=
  t.IsReading ∧ (t.inLeapSecond = true → t.seconds % 60 = 59)

instance (t : Instant) : Decidable t.IsCivil :=
  inferInstanceAs (Decidable (t.IsReading ∧ (t.inLeapSecond = true → t.seconds % 60 = 59)))

/-- The first reading lies in a leap second, the other one in the very next second, at an earlier
fraction. -/
def FallsBehind (t u : Instant) : Prop :=
  t.inLeapSecond = true ∧ u.seconds = t.seconds + 1 ∧ u.nanos + 1000000000 < t.nanos

instance (t u : Instant) : Decidable (t.FallsBehind u) :=
  inferInstanceAs (Decidable (t.inLeapSecond = true ∧ u.seconds = t.seconds + 1 ∧
    u.nanos + 1000000000 < t.nanos))

/-- The nanoseconds since 1970, a leap second counted on top of the second that it follows. -/
def total (t : Instant) : Int := t.seconds * 1000000000 + t.nanos

theorem inLeapSecond_eq_true : t.inLeapSecond = true ↔ 1000000000 ≤ t.nanos := decide_eq_true_iff

theorem inLeapSecond_eq_false : t.inLeapSecond = false ↔ t.nanos < 1000000000 := by
  rw [inLeapSecond, decide_eq_false_iff_not, Nat.not_le]

theorem total_le (h : t ≤ u) (ht : t.IsReading) (hahead : ¬ t.FallsBehind u) :
    t.total ≤ u.total := by
  unfold IsReading at ht
  unfold FallsBehind at hahead
  rw [inLeapSecond_eq_true] at hahead
  rw [le_iff] at h
  unfold total
  omega

/-! ## Days and times of day -/

theorem seconds_eq (t : Instant) : t.seconds = t.dayNumber * 86400 + t.secondOfDay :=
  (Int.ediv_mul_add_emod t.seconds 86400).symm

theorem secondOfDay_bounds (t : Instant) : 0 ≤ t.secondOfDay ∧ t.secondOfDay ≤ 86399 := by
  unfold secondOfDay
  omega

theorem IsCivil.nanos_lt (h : t.IsCivil) : t.nanos < 2000000000 := h.1

theorem IsCivil.secondOfDay (h : t.IsCivil) (hleap : t.inLeapSecond = true) :
    t.secondOfDay % 60 = 59 := by
  have hsecond := h.2 hleap
  unfold Instant.secondOfDay
  omega

/-- The seconds by which a leap second changes the length of time from `r` to `t`. -/
def leapSince (t r : Instant) : Int :=
  if r.secondOfDay < t.secondOfDay ∧ r.inLeapSecond then 1
  else if t.secondOfDay < r.secondOfDay ∧ t.inLeapSecond then -1
  else 0

theorem nanos_since (t r : Instant) :
    (t.since r).nanos = t.total - r.total + leapSince t r * 1000000000 := by
  unfold since leapSince total
  dsimp only
  omega

theorem leapSince_cases (t r : Instant) :
    (r.secondOfDay < t.secondOfDay ∧ r.inLeapSecond = true ∧ leapSince t r = 1) ∨
    (t.secondOfDay < r.secondOfDay ∧ t.inLeapSecond = true ∧ leapSince t r = -1) ∨
    ((r.secondOfDay < t.secondOfDay → r.inLeapSecond = false) ∧
      (t.secondOfDay < r.secondOfDay → t.inLeapSecond = false) ∧ leapSince t r = 0) := by
  unfold leapSince
  split
  · next hafter => exact .inl ⟨hafter.1, hafter.2, rfl⟩
  · next hafter =>
    split
    · next hbefore => exact .inr (.inl ⟨hbefore.1, hbefore.2, rfl⟩)
    · next hbefore =>
      refine .inr (.inr ⟨fun hlater => ?_, fun hearlier => ?_, rfl⟩)
      · exact eq_false_of_ne_true fun hleap => hafter ⟨hlater, hleap⟩
      · exact eq_false_of_ne_true fun hleap => hbefore ⟨hearlier, hleap⟩

/-! ## Whole days -/

/-- Two lengths of time are in order once a number of days separates them. -/
theorem days_le_of_between {a b : Int} (k : Int) (ha : a < (k + 1) * 86400000000000)
    (hb : k * 86400000000000 ≤ b) : max a 0 / 86400000000000 ≤ max b 0 / 86400000000000 := by
  omega

theorem wholeDays_since_mono (h : t ≤ u) (ht : t.IsReading) (hu : u.IsCivil) (hr : r.IsCivil)
    (hahead : ¬ t.FallsBehind u) :
    max (t.since r).wholeDays 0 ≤ max (u.since r).wholeDays 0 := by
  have htotal := total_le h ht hahead
  rw [max_wholeDays_zero, max_wholeDays_zero, nanos_since, nanos_since]
  by_cases hleap : leapSince t r ≤ leapSince u r
  · omega
  have hts := t.seconds_eq
  have hus := u.seconds_eq
  have hrs := r.seconds_eq
  have htday := t.secondOfDay_bounds
  have huday := u.secondOfDay_bounds
  have hrday := r.secondOfDay_bounds
  have htn : t.nanos < 2000000000 := ht
  have hrn := hr.nanos_lt
  rw [le_iff] at h
  unfold total at *
  rcases leapSince_cases t r with ⟨hafter, hrleap, hone⟩ | ⟨-, -, hone⟩ | ⟨hlate, hearly, hone⟩
  · have hrsecond := hr.secondOfDay hrleap
    have hrnanos := inLeapSecond_eq_true.mp hrleap
    refine days_le_of_between (t.dayNumber - r.dayNumber) (by omega) ?_
    rcases leapSince_cases u r with ⟨-, -, hnow⟩ | ⟨hbefore, huleap, hnow⟩ | ⟨hnot, -, hnow⟩
    · omega
    · have husecond := hu.secondOfDay huleap
      have hday : t.dayNumber + 1 ≤ u.dayNumber := by omega
      omega
    · have hbefore : u.secondOfDay ≤ r.secondOfDay := by
        refine Int.not_lt.mp fun hlater => ?_
        rw [hnot hlater] at hrleap
        cases hrleap
      have hday : t.dayNumber + 1 ≤ u.dayNumber := by omega
      omega
  · rcases leapSince_cases u r with ⟨-, -, hnow⟩ | ⟨-, -, hnow⟩ | ⟨-, -, hnow⟩ <;> omega
  · rcases leapSince_cases u r with ⟨-, -, hnow⟩ | ⟨hbefore, huleap, hnow⟩ | ⟨-, -, hnow⟩
    · omega
    · have husecond := hu.secondOfDay huleap
      have hunanos := inLeapSecond_eq_true.mp huleap
      refine days_le_of_between (u.dayNumber - r.dayNumber - 1) ?_ (by omega)
      by_cases hday : t.dayNumber < u.dayNumber
      · omega
      · have htearly : t.secondOfDay < r.secondOfDay := by omega
        have htnanos := inLeapSecond_eq_false.mp (hearly htearly)
        omega
    · omega

/-! ## Looking back -/

theorem total_minus_ofSeconds {n : Int} (hn : 0 < n) (t : Instant) :
    (t.minus (.ofSeconds n)).total = t.total - n * 1000000000 := by
  rw [minus_ofSeconds_of_pos hn]
  unfold normalized total
  split
  · dsimp only
    omega
  · dsimp only
    omega

theorem le_of_total_le (h : t.total ≤ u.total) (hu : u.nanos < 1000000000) : t ≤ u := by
  rw [le_iff]
  unfold total at h
  omega

theorem minus_le_minus {n : Int} (hn : 0 < n) (h : t.total ≤ u.total) :
    t.minus (.ofSeconds n) ≤ u.minus (.ofSeconds n) := by
  have hnormal : (u.minus (.ofSeconds n)).nanos < 1000000000 := by
    rw [minus_ofSeconds_of_pos hn]
    split
    · exact nanos_normalized_lt _ _
    · exact nanos_normalized_lt _ _
  refine le_of_total_le ?_ hnormal
  rw [total_minus_ofSeconds hn, total_minus_ofSeconds hn]
  omega

end CivicForum.Instant
