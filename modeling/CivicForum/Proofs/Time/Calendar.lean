import CivicForum.Time.Calendar
import Mathlib.Data.List.Basic
import Mathlib.Tactic.IntervalCases

/-! # Dates and their numbers

* `Time.Splits`: how a cycle of 400 years is made of centuries, of four years each, and of years.
* `Time.Date.fromMarch`: a date by its year, counted from March, and its day in that year.
* `Time.Date.dayNumber_ofDayNumber`, `Time.Date.isValid_ofDayNumber`: every number is that of a date
  that exists.
* `Time.Date.count`: the days up to a date, counted year by year and month by month;
  `Time.Date.dayNumber_eq_count`: its number is how many that are since the start of 1970.
-/

set_option autoImplicit false

namespace CivicForum.Time

theorem isLeapYear_iff {y : Int} :
    isLeapYear y = true ↔ y % 4 = 0 ∧ (y % 100 ≠ 0 ∨ y % 400 = 0) := by
  simp [isLeapYear]

/-! ## Years of a cycle -/

/-- The year of a cycle of 400 years, counted from March, that a day of the cycle lies in. -/
def yearOfCycle (n : Int) : Int := (n - n / 1460 + n / 36524 - n / 146096) / 365

/-- The days of a cycle before a year of it. -/
def daysBeforeYear (y : Int) : Int := 365 * y + y / 4 - y / 100

/-- A day of a cycle lies in the century `a`, there in the four years `b`, there in the year `c`, and
`d` days after its start. Only a year with a leap day has a day 365. -/
structure Splits (n a b c d : Int) : Prop where
  sum : n = 36524 * a + 1461 * b + 365 * c + d
  century : 0 ≤ a ∧ a ≤ 3
  four : 0 ≤ b ∧ b ≤ 24
  one : 0 ≤ c ∧ c ≤ 3
  day : 0 ≤ d ∧ d ≤ 365
  leap : d = 365 → c = 3 ∧ (b = 24 → a = 3)

section Cycle

variable {n a b c d : Int}

theorem exists_splits (h : 0 ≤ n) (h' : n ≤ 146096) : ∃ a b c d, Splits n a b c d := by
  obtain ⟨a, ha⟩ : ∃ a, a = min (n / 36524) 3 := ⟨_, rfl⟩
  obtain ⟨b, hb⟩ : ∃ b, b = (n - 36524 * a) / 1461 := ⟨_, rfl⟩
  obtain ⟨c, hc⟩ : ∃ c, c = min ((n - 36524 * a - 1461 * b) / 365) 3 := ⟨_, rfl⟩
  refine ⟨a, b, c, n - 36524 * a - 1461 * b - 365 * c, ?_, ?_, ?_, ?_, ?_, ?_⟩ <;> omega

theorem Splits.yearOfCycle_eq (h : Splits n a b c d) : yearOfCycle n = 100 * a + 4 * b + c := by
  obtain ⟨hn, ha, hb, hc, hd, hleap⟩ := h
  have hcentury : n / 36524 - n / 146096 = a := by
    rcases Int.lt_or_le n 146096 with hlt | hle
    · have hzero : n / 146096 = 0 := by omega
      have hfull : 1461 * b + 365 * c + d < 36524 := by omega
      omega
    · have ha : a = 3 := by omega
      have hlast : n = 146096 := by omega
      rw [ha, hlast]
      rfl
  unfold yearOfCycle
  rcases Int.lt_or_le (24 * a + b + 365 * c + d) 1460 with hlt | hle
  · have hdays : n / 1460 = 25 * a + b := by omega
    omega
  · have hdays : n / 1460 = 25 * a + b + 1 := by omega
    omega

theorem Splits.daysBeforeYear_eq (h : Splits n a b c d) :
    daysBeforeYear (yearOfCycle n) = n - d := by
  have hyear := h.yearOfCycle_eq
  obtain ⟨hn, -, hb, hc, -, -⟩ := h
  unfold daysBeforeYear
  omega

/-- The days `d` of the year `y`, from March on. -/
structure DayOfYear (y d : Int) : Prop where
  nonneg : 0 ≤ d
  le : d ≤ 365
  leap : d = 365 → isLeapYear (y + 1) = true

theorem exists_dayOfYear (h : 0 ≤ n) (h' : n ≤ 146096) :
    0 ≤ yearOfCycle n ∧ yearOfCycle n ≤ 399 ∧ ∀ cycle,
      DayOfYear (yearOfCycle n + cycle * 400) (n - daysBeforeYear (yearOfCycle n)) := by
  obtain ⟨a, b, c, d, hs⟩ := exists_splits h h'
  have hd : n - daysBeforeYear (yearOfCycle n) = d := by
    rw [hs.daysBeforeYear_eq]
    omega
  rw [hd, hs.yearOfCycle_eq]
  obtain ⟨-, ha, hb, hc, hd, hleap⟩ := hs
  refine ⟨by omega, by omega, fun cycle => ⟨hd.1, hd.2, fun hlast => ?_⟩⟩
  obtain ⟨hthree, hcentury⟩ := hleap hlast
  rw [isLeapYear_iff]
  omega

end Cycle

/-! ## Months -/

namespace Date

variable {y d n cycle : Int}

/-- The year that a date lies in, counted from March. -/
def marchYear (d : Date) : Int := if d.month ≤ 2 then d.year - 1 else d.year

/-- The months of that year before the one of a date. -/
def marchMonth (d : Date) : Int := ((d.month : Int) + 9) % 12

/-- The days of that year before a date. -/
def daysFromMarch (d : Date) : Int := (153 * d.marchMonth + 2) / 5 + (d.day : Int) - 1

theorem dayNumber_eq (d : Date) : d.dayNumber =
    d.marchYear / 400 * 146097 + (daysBeforeYear (d.marchYear % 400) + d.daysFromMarch) - 719468 := by
  unfold dayNumber daysFromMarch marchMonth marchYear daysBeforeYear
  dsimp only
  omega

/-- The date `d` days after the start of March in the year `y`. -/
def fromMarch (y d : Int) : Date :=
  let monthFromMarch := (5 * d + 2) / 153
  let month := if monthFromMarch < 10 then monthFromMarch + 3 else monthFromMarch - 9
  { year := if month ≤ 2 then y + 1 else y
    month := month.toNat
    day := (d - (153 * monthFromMarch + 2) / 5 + 1).toNat }

theorem ofDayNumber_eq (n : Int) :
    let k := (n + 719468) % 146097
    ofDayNumber n = fromMarch (yearOfCycle k + (n + 719468) / 146097 * 400)
      (k - daysBeforeYear (yearOfCycle k)) := rfl

section FromMarch

variable (hd : 0 ≤ d) (hd' : d ≤ 365)

include hd hd'

theorem marchYear_fromMarch : (fromMarch y d).marchYear = y := by
  unfold marchYear fromMarch
  dsimp only
  omega

theorem marchMonth_fromMarch : (fromMarch y d).marchMonth = (5 * d + 2) / 153 := by
  unfold marchMonth fromMarch
  dsimp only
  omega

theorem daysFromMarch_fromMarch : (fromMarch y d).daysFromMarch = d := by
  unfold daysFromMarch
  rw [marchMonth_fromMarch hd hd']
  unfold fromMarch
  dsimp only
  omega

end FromMarch

theorem dayNumber_ofDayNumber (n : Int) : (ofDayNumber n).dayNumber = n := by
  have hcycle : 0 ≤ (n + 719468) % 146097 ∧ (n + 719468) % 146097 ≤ 146096 := by omega
  obtain ⟨hy, hy', hday⟩ := exists_dayOfYear hcycle.1 hcycle.2
  obtain ⟨hd, hd', -⟩ := hday 0
  rw [ofDayNumber_eq, dayNumber_eq, marchYear_fromMarch hd hd', daysFromMarch_fromMarch hd hd',
    Int.add_mul_emod_self_right, Int.emod_eq_of_lt hy (by omega),
    Int.add_mul_ediv_right _ _ (by decide)]
  omega

/-- Counted from March, the months start where the formula says, and only the last one, February,
depends on the year. -/
theorem daysInMonth_eq {m : Nat} (h : 1 ≤ m) (h' : m ≤ 12) :
    (daysInMonth y m : Int) = if m = 2 then (if isLeapYear y then 29 else 28) else
      (153 * (((m : Int) + 9) % 12 + 1) + 2) / 5 - (153 * (((m : Int) + 9) % 12) + 2) / 5 := by
  by_cases hm : m = 2
  · rw [if_pos hm, hm]
    show ((if isLeapYear y then 29 else 28 : Nat) : Int) = if isLeapYear y then 29 else 28
    split <;> rfl
  · rw [if_neg hm]
    interval_cases m
    case «2» => exact absurd rfl hm
    all_goals
      simp only [daysInMonth]
      omega

theorem day_fromMarch (h : DayOfYear y d) :
    1 ≤ (fromMarch y d).day ∧
      (fromMarch y d).day ≤ daysInMonth (fromMarch y d).year (fromMarch y d).month := by
  obtain ⟨hd, hd', hleap⟩ := h
  have hmonth : 1 ≤ (fromMarch y d).month ∧ (fromMarch y d).month ≤ 12 := by
    unfold fromMarch
    dsimp only
    omega
  have hday : ((fromMarch y d).day : Int) = d - (153 * ((5 * d + 2) / 153) + 2) / 5 + 1 := by
    unfold fromMarch
    dsimp only
    omega
  have hmarch := marchMonth_fromMarch (y := y) hd hd'
  have hlength := daysInMonth_eq (y := (fromMarch y d).year) hmonth.1 hmonth.2
  unfold marchMonth at hmarch
  rw [hmarch] at hlength
  split at hlength
  · next htwo =>
    have hyear : (fromMarch y d).year = y + 1 := by
      have hmarchYear := marchYear_fromMarch (y := y) hd hd'
      unfold marchYear at hmarchYear
      rw [htwo, if_pos (by decide)] at hmarchYear
      omega
    rw [hyear] at hlength ⊢
    split at hlength
    · omega
    · next hcommon =>
      have : d ≠ 365 := fun hlast => hcommon (hleap hlast)
      omega
  · omega

theorem isValid_eq_true {d : Date} : d.isValid = true ↔
    (minYear ≤ d.year ∧ d.year ≤ maxYear) ∧ 1 ≤ d.day ∧ d.day ≤ daysInMonth d.year d.month := by
  unfold isValid
  simp only [Bool.and_eq_true, decide_eq_true_eq, and_assoc]

theorem daysInMonth_bounds (y : Int) (m : Nat) :
    daysInMonth y m ≤ 31 ∧ (0 < daysInMonth y m → 1 ≤ m ∧ m ≤ 12) := by
  unfold daysInMonth
  split <;> (try split) <;> simp

theorem month_day_of_isValid {d : Date} (h : d.isValid = true) :
    1 ≤ d.month ∧ d.month ≤ 12 ∧ 1 ≤ d.day ∧ d.day ≤ 31 := by
  obtain ⟨-, hday, hday'⟩ := isValid_eq_true.mp h
  obtain ⟨hlength, hmonth⟩ := daysInMonth_bounds d.year d.month
  obtain ⟨hm, hm'⟩ := hmonth (Nat.lt_of_lt_of_le hday hday')
  exact ⟨hm, hm', hday, Nat.le_trans hday' hlength⟩

theorem isValid_ofDayNumber (hmin : minYear ≤ (ofDayNumber n).year)
    (hmax : (ofDayNumber n).year ≤ maxYear) : (ofDayNumber n).isValid = true := by
  obtain ⟨-, -, hday⟩ := exists_dayOfYear (n := (n + 719468) % 146097) (by omega) (by omega)
  refine isValid_eq_true.mpr ⟨⟨hmin, hmax⟩, ?_⟩
  rw [ofDayNumber_eq]
  exact day_fromMarch (hday _)

/-! ## Days counted one by one -/

/-- The days of a year before a month of it. -/
def daysBeforeMonth (y : Int) (m : Nat) : Nat := ((List.range m).map (daysInMonth y)).sum

/-- The days from the start of year 0 to the start of a year. -/
def daysBefore (y : Nat) : Nat := ((List.range y).map fun y : Nat => daysBeforeMonth y 13).sum

/-- The days from the start of year 0 to a date. -/
def count (d : Date) : Nat :=
  daysBefore d.year.toNat + daysBeforeMonth d.year d.month + (d.day - 1)

theorem daysBeforeMonth_succ (y : Int) (m : Nat) :
    daysBeforeMonth y (m + 1) = daysBeforeMonth y m + daysInMonth y m := by
  unfold daysBeforeMonth
  rw [List.range_succ, List.map_append, List.sum_append, List.map_singleton, List.sum_singleton]

theorem daysBefore_succ (y : Nat) : daysBefore (y + 1) = daysBefore y + daysBeforeMonth y 13 := by
  unfold daysBefore
  rw [List.range_succ, List.map_append, List.sum_append, List.map_singleton, List.sum_singleton]

theorem daysBeforeMonth_three (y : Int) :
    daysBeforeMonth y 3 = if isLeapYear y then 60 else 59 := by
  show 0 + (31 + ((if isLeapYear y then 29 else 28) + 0)) = _
  split <;> rfl

theorem daysBeforeMonth_eq {m : Nat} (h : 3 ≤ m) (h' : m ≤ 13) :
    (daysBeforeMonth y m : Int) =
      (if isLeapYear y then 60 else 59) + (153 * ((m : Int) - 3) + 2) / 5 := by
  induction m, h using Nat.le_induction with
  | base =>
    rw [daysBeforeMonth_three]
    split <;> omega
  | succ m hm ih =>
    have hlength := daysInMonth_eq (y := y) (Nat.le_trans (by decide) hm) (by omega : m ≤ 12)
    have hprev := ih (by omega)
    have hmarch : ((m : Int) + 9) % 12 = m - 3 := by omega
    rw [if_neg (by omega), hmarch] at hlength
    rw [daysBeforeMonth_succ]
    omega

/-- The leap days up to the end of a year. -/
def leapDays (y : Int) : Int := y / 4 - y / 100 + y / 400

theorem leapDays_eq (y : Int) :
    leapDays y = leapDays (y - 1) + if isLeapYear y then 1 else 0 := by
  have hfour : (y - 1) / 4 = if y % 4 = 0 then y / 4 - 1 else y / 4 := by omega
  have hcentury : (y - 1) / 100 = if y % 100 = 0 then y / 100 - 1 else y / 100 := by omega
  have hcycle : (y - 1) / 400 = if y % 400 = 0 then y / 400 - 1 else y / 400 := by omega
  unfold leapDays
  rw [hfour, hcentury, hcycle]
  simp only [isLeapYear_iff]
  omega

theorem daysBefore_eq (y : Nat) : (daysBefore y : Int) = 365 * y + leapDays (y - 1) + 1 := by
  induction y with
  | zero => rfl
  | succ y ih =>
    have hyear := daysBeforeMonth_eq (y := y) (m := 13) (by decide) (by decide)
    have hleap := leapDays_eq y
    have hlast : ((y + 1 : Nat) : Int) - 1 = y := by omega
    rw [daysBefore_succ, hlast, hleap]
    split at hyear
    · next h =>
      rw [if_pos h]
      omega
    · next h =>
      rw [if_neg h]
      omega

theorem daysBeforeYear_emod (y : Int) :
    y / 400 * 146097 + daysBeforeYear (y % 400) = 365 * y + leapDays y := by
  have hfour : y / 4 = 100 * (y / 400) + y % 400 / 4 := by omega
  have hcentury : y / 100 = 4 * (y / 400) + y % 400 / 100 := by omega
  unfold daysBeforeYear leapDays
  omega

theorem dayNumber_add_eq {d : Date} (hyear : 0 ≤ d.year) (hmonth : 1 ≤ d.month)
    (hmonth' : d.month ≤ 12) (hday : 1 ≤ d.day) : d.dayNumber + 719528 = d.count := by
  obtain ⟨k, hk⟩ := Int.eq_ofNat_of_zero_le hyear
  have hbefore := daysBefore_eq k
  have hmarch := daysBeforeYear_emod d.marchYear
  rw [dayNumber_eq]
  unfold count
  rw [hk, Int.toNat_natCast]
  unfold daysFromMarch marchMonth
  by_cases h : d.month ≤ 2
  · have hyear : d.marchYear = k - 1 := by
      rw [marchYear, if_pos h, hk]
    rw [hyear] at hmarch ⊢
    have hmonths : daysBeforeMonth k d.month = 31 * (d.month - 1) := by
      obtain h1 | h2 : d.month = 1 ∨ d.month = 2 := by omega
      · simp [h1, daysBeforeMonth, daysInMonth]
      · simp [h2, daysBeforeMonth, daysInMonth, List.range_succ]
    omega
  · have hyear : d.marchYear = k := by
      rw [marchYear, if_neg h, hk]
    rw [hyear] at hmarch ⊢
    have hmonths := daysBeforeMonth_eq (y := k) (m := d.month) (by omega) (by omega)
    have hleap := leapDays_eq k
    have hfirst : ((d.month : Int) + 9) % 12 = d.month - 3 := by omega
    rw [hfirst]
    split at hmonths
    · next h =>
      rw [if_pos h] at hleap
      omega
    · next h =>
      rw [if_neg h] at hleap
      omega

theorem dayNumber_eq_count {d : Date} (h : d.isValid = true) (hyear : 0 ≤ d.year) :
    d.dayNumber = (d.count : Int) - count ⟨1970, 1, 1⟩ := by
  obtain ⟨hmonth, hmonth', hday, -⟩ := month_day_of_isValid h
  have hdate := dayNumber_add_eq hyear hmonth hmonth' hday
  have hepoch : (0 : Int) + 719528 = count ⟨1970, 1, 1⟩ :=
    dayNumber_add_eq (d := ⟨1970, 1, 1⟩) (by decide) (by decide) (by decide) (by decide)
  omega

end Date

end CivicForum.Time
