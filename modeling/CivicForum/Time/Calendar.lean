/-! # The proleptic Gregorian calendar

* `Time.Date`: a year, a month and a day of the month.
* `Time.Date.isValid`: the date exists, in the years that timestamps may have.
* `Time.Date.dayNumber`: days since 1970-01-01.
* `Time.Date.ofDayNumber`: the date with that number.
-/

set_option autoImplicit false

namespace CivicForum.Time

/-- A date of the proleptic Gregorian calendar; the year before year 1 is year 0. -/
structure Date where
  year : Int
  month : Nat
  day : Nat
  deriving Repr, DecidableEq

def isLeapYear (y : Int) : Bool := y % 4 = 0 && (y % 100 ≠ 0 || y % 400 = 0)

/-- The length of a month; 0 for a month that does not exist. -/
def daysInMonth (y : Int) (m : Nat) : Nat :=
  match m with
  | 1 | 3 | 5 | 7 | 8 | 10 | 12 => 31
  | 4 | 6 | 9 | 11 => 30
  | 2 => if isLeapYear y then 29 else 28
  | _ => 0

namespace Date

/-- The years that timestamps may have. -/
def minYear : Int := -262143
def maxYear : Int := 262142

/-- The date exists, and its year is one that timestamps may have. -/
def isValid (d : Date) : Bool :=
  minYear ≤ d.year && d.year ≤ maxYear && 1 ≤ d.day && d.day ≤ daysInMonth d.year d.month

/-- Days since 1970-01-01. Years are counted from March, so that a leap day ends its year, and in
cycles of 400 years, which all have 146097 days. -/
def dayNumber (d : Date) : Int :=
  let y : Int := if d.month ≤ 2 then d.year - 1 else d.year
  let cycle := y / 400
  let yearOfCycle := y % 400
  let monthFromMarch : Int := ((d.month : Int) + 9) % 12
  let dayOfYear := (153 * monthFromMarch + 2) / 5 + (d.day : Int) - 1
  let dayOfCycle := yearOfCycle * 365 + yearOfCycle / 4 - yearOfCycle / 100 + dayOfYear
  cycle * 146097 + dayOfCycle - 719468

/-- The date that lies this many days after 1970-01-01. -/
def ofDayNumber (n : Int) : Date :=
  let z := n + 719468
  let cycle := z / 146097
  let dayOfCycle := z % 146097
  let yearOfCycle :=
    (dayOfCycle - dayOfCycle / 1460 + dayOfCycle / 36524 - dayOfCycle / 146096) / 365
  let dayOfYear := dayOfCycle - (365 * yearOfCycle + yearOfCycle / 4 - yearOfCycle / 100)
  let monthFromMarch := (5 * dayOfYear + 2) / 153
  let day := dayOfYear - (153 * monthFromMarch + 2) / 5 + 1
  let month := if monthFromMarch < 10 then monthFromMarch + 3 else monthFromMarch - 9
  let year := yearOfCycle + cycle * 400
  { year := if month ≤ 2 then year + 1 else year, month := month.toNat, day := day.toNat }

end Date

end CivicForum.Time
