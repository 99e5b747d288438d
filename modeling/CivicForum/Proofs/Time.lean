import CivicForum.Time.Instant

/-! # Instants that are moved

* `Instant.IsReading`: a time that a clock can show.
* `Instant.isReading_plus`: a clock that is moved shows such a time again.
* `Instant.not_plus_le`, `Instant.seconds_plus_le`, `Instant.seconds_minus_le`: where an instant
  comes to lie when it is moved by whole seconds; `Instant.plus_lt_plus`: one that is moved further.
* `Instant.wholeDays_since_le`: as time passes, the whole days since an instant do not get fewer.
-/

set_option autoImplicit false

namespace CivicForum

/-! ## Spans of whole seconds -/

namespace Span

@[simp] theorem wholeSeconds_ofSeconds (n : Int) : (ofSeconds n).wholeSeconds = n :=
  Int.mul_tdiv_cancel n (by decide)

@[simp] theorem restNanos_ofSeconds (n : Int) : (ofSeconds n).restNanos = 0 :=
  Int.mul_tmod_left n _

theorem neg_ofSeconds (n : Int) : -ofSeconds n = ofSeconds (-n) :=
  congrArg Span.mk (Int.neg_mul n _).symm

end Span

namespace Instant

variable {t u r : Instant} {n : Int}

/-! ## Order -/

theorem le_iff : t ≤ u ↔ t.seconds < u.seconds ∨ t.seconds = u.seconds ∧ t.nanos ≤ u.nanos :=
  Iff.rfl

theorem lt_iff : t < u ↔ t.seconds < u.seconds ∨ t.seconds = u.seconds ∧ t.nanos < u.nanos :=
  Iff.rfl

theorem le_refl (t : Instant) : t ≤ t := .inr ⟨rfl, Nat.le_refl _⟩

theorem le_trans (h : t ≤ u) (h' : u ≤ r) : t ≤ r := by
  rw [le_iff] at *
  omega

theorem lt_of_not_le (h : ¬ t ≤ u) : u < t := by
  rw [le_iff] at h
  rw [lt_iff]
  omega

/-! ## Moving -/

/-- A time that a clock can show: a second, or the leap second that follows one. -/
def IsReading (t : Instant) : Prop := t.nanos < 2000000000

instance (t : Instant) : Decidable t.IsReading :=
  inferInstanceAs (Decidable (t.nanos < 2000000000))

@[simp] theorem seconds_normalized (seconds nanos : Int) :
    (normalized seconds nanos).seconds = seconds + nanos / 1000000000 := rfl

theorem nanos_normalized_lt (seconds nanos : Int) :
    (normalized seconds nanos).nanos < 1000000000 := by
  unfold normalized
  dsimp only
  omega

theorem isReading_normalized (seconds nanos : Int) : (normalized seconds nanos).IsReading :=
  Nat.lt_trans (nanos_normalized_lt seconds nanos) (by decide)

/-- A clock that is moved shows a time again. -/
theorem isReading_plus (h : t.IsReading) (s : Span) : (t.plus s).IsReading := by
  unfold plus
  dsimp only
  split
  · split
    · exact isReading_normalized _ _
    · split
      · exact isReading_normalized _ _
      · unfold IsReading at *
        dsimp only
        omega
  · exact isReading_normalized _ _

theorem plus_ofSeconds_of_pos (h : 0 < n) :
    t.plus (.ofSeconds n) =
      normalized (t.seconds + n) (t.nanos - if t.inLeapSecond then 1000000000 else 0) := by
  unfold plus
  simp only [Span.wholeSeconds_ofSeconds, Span.restNanos_ofSeconds, h, true_or, if_true,
    Int.add_zero]
  split <;> simp

theorem minus_ofSeconds_of_pos (h : 0 < n) :
    t.minus (.ofSeconds n) = if t.inLeapSecond then
      normalized (t.seconds + 1 - n) (t.nanos - 1000000000) else
      normalized (t.seconds - n) t.nanos := by
  have hneg : ¬ 0 < -n := by omega
  have hback : -n < 0 := by omega
  unfold minus plus
  simp only [Span.neg_ofSeconds, Span.wholeSeconds_ofSeconds, Span.restNanos_ofSeconds, hneg,
    hback, Int.lt_irrefl, false_and, or_self, if_false, if_true, Int.add_zero]
  rfl

/-- What moves forward does not stay where it was, nor before. -/
theorem not_plus_le (h : 0 < n) : ¬ t.plus (.ofSeconds n) ≤ t := by
  rw [plus_ofSeconds_of_pos h, le_iff, seconds_normalized]
  have hleap : 0 ≤ (t.nanos : Int) - if t.inLeapSecond then 1000000000 else 0 := by
    split
    · next hl =>
      have : 1000000000 ≤ t.nanos := by simpa [inLeapSecond] using hl
      omega
    · omega
  omega

theorem seconds_plus_le (ht : t.IsReading) (h : 0 < n) :
    (t.plus (.ofSeconds n)).seconds ≤ t.seconds + n := by
  unfold IsReading at ht
  rw [plus_ofSeconds_of_pos h, seconds_normalized]
  split
  · omega
  · next hl =>
    have : t.nanos < 1000000000 := by simpa [inLeapSecond] using hl
    omega

theorem le_seconds_plus (h : 0 < n) : t.seconds + n ≤ (t.plus (.ofSeconds n)).seconds := by
  rw [plus_ofSeconds_of_pos h, seconds_normalized]
  split
  · next hl =>
    have : 1000000000 ≤ t.nanos := by simpa [inLeapSecond] using hl
    omega
  · omega

/-- What is moved further from a later instant comes to lie later. -/
theorem plus_lt_plus {m : Int} (ht : t.IsReading) (h : t ≤ u) (hm : 0 < m) (hmn : m < n) :
    t.plus (.ofSeconds m) < u.plus (.ofSeconds n) := by
  have hearly := seconds_plus_le ht hm
  have hlate := le_seconds_plus (t := u) (Int.lt_trans hm hmn)
  rw [le_iff] at h
  rw [lt_iff]
  omega

theorem seconds_minus_le (ht : t.IsReading) (h : 0 < n) :
    (t.minus (.ofSeconds n)).seconds ≤ t.seconds + 1 - n := by
  unfold IsReading at ht
  rw [minus_ofSeconds_of_pos h]
  split
  · rw [seconds_normalized]
    omega
  · next hl =>
    have : t.nanos < 1000000000 := by simpa [inLeapSecond] using hl
    rw [seconds_normalized]
    omega

/-- What is moved by some seconds and lies ahead was not longer ago than a second more. -/
theorem minus_le_of_lt_plus {l : Int} (ht : t.IsReading) (hu : u.IsReading) (hn : 0 < n)
    (hl : n + 1 < l) (h : u < t.plus (.ofSeconds n)) : u.minus (.ofSeconds l) ≤ t := by
  have hplus := seconds_plus_le ht hn
  have hminus := seconds_minus_le hu (show 0 < l by omega)
  rw [lt_iff] at h
  rw [le_iff]
  omega

/-! ## Days that have passed -/

/-- The whole days of a span, none if it is negative. -/
theorem max_wholeDays_zero (s : Span) : max s.wholeDays 0 = max s.nanos 0 / 86400000000000 := by
  unfold Span.wholeDays
  rcases Int.le_total 0 s.nanos with hs | hs
  · have hdays := Int.tdiv_nonneg hs (show (0 : Int) ≤ 86400000000000 by decide)
    rw [Int.max_eq_left hdays, Int.max_eq_left hs, Int.tdiv_eq_ediv_of_nonneg hs]
  · have hdays := Int.tdiv_nonneg (Int.neg_nonneg_of_nonpos hs)
      (show (0 : Int) ≤ 86400000000000 by decide)
    rw [Int.neg_tdiv] at hdays
    rw [Int.max_eq_right (Int.neg_nonneg.mp hdays), Int.max_eq_right hs]
    rfl

theorem nanos_since_of_not_leap (ht : t.inLeapSecond = false) (hr : r.inLeapSecond = false) :
    (t.since r).nanos = (t.seconds - r.seconds) * 1000000000 + (t.nanos - r.nanos) := by
  unfold since
  simp [ht, hr]

/-- As time passes, the whole days since an instant do not get fewer. A leap second that is left
counts for nothing any more, so the earlier reading must not lie in one. -/
theorem wholeDays_since_le (h : t ≤ u) (ht : t.inLeapSecond = false)
    (hr : r.inLeapSecond = false) :
    max (t.since r).wholeDays 0 ≤ max (u.since r).wholeDays 0 := by
  have htn : t.nanos < 1000000000 := by simpa [inLeapSecond] using ht
  have hrn : r.nanos < 1000000000 := by simpa [inLeapSecond] using hr
  rw [max_wholeDays_zero, max_wholeDays_zero, nanos_since_of_not_leap ht hr]
  unfold since
  rw [le_iff] at h
  simp only [hr, Bool.false_eq_true, and_false, if_false]
  split
  · next hleap =>
    obtain ⟨hday, hun⟩ := hleap
    have hun : 1000000000 ≤ u.nanos := by simpa [inLeapSecond] using hun
    unfold secondOfDay at hday
    omega
  · omega

end Instant

end CivicForum
