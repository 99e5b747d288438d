import CivicForum.Time.Calendar

/-! # Instants and spans

* `Instant`: a second since 1970-01-01 00:00:00 UTC and the nanoseconds in it. Nanoseconds of a
  thousand million and more lie in a leap second, which follows the second it is counted with.
* `Span`: a length of time in nanoseconds.
* `Instant.plus`, `Instant.minus`: an instant moved by a span; moving out of a leap second leaves
  it behind.
* `Instant.since`, `Span.wholeDays`: the length between two instants, in days rounded toward zero.
-/

set_option autoImplicit false

namespace CivicForum

/-- A point in time; `nanos` runs below 2·10⁹, from 10⁹ on inside a leap second. The range of the
date library, about 262,000 years either way with a panic beyond, is not modelled: there is no first
and no last instant. -/
structure Instant where
  seconds : Int
  nanos : Nat
  deriving Repr, DecidableEq, Inhabited

/-- A length of time. -/
structure Span where
  nanos : Int
  deriving Repr, DecidableEq, Inhabited

namespace Span

def ofSeconds (s : Int) : Span := ⟨s * 1000000000⟩
def ofHours (h : Int) : Span := ofSeconds (h * 3600)
def ofDays (d : Int) : Span := ofSeconds (d * 86400)

/-- The whole seconds of a span, rounded toward zero. -/
def wholeSeconds (s : Span) : Int := s.nanos.tdiv 1000000000

/-- What `wholeSeconds` leaves over, with the sign of the span. -/
def restNanos (s : Span) : Int := s.nanos.tmod 1000000000

/-- The whole days of a span, rounded toward zero. -/
def wholeDays (s : Span) : Int := s.nanos.tdiv 86400000000000

instance : Neg Span := ⟨fun s => ⟨-s.nanos⟩⟩

end Span

namespace Instant

/-- Earlier or equal. -/
protected def le (a b : Instant) : Prop :=
  a.seconds < b.seconds ∨ a.seconds = b.seconds ∧ a.nanos ≤ b.nanos

/-- Strictly earlier. -/
protected def lt (a b : Instant) : Prop :=
  a.seconds < b.seconds ∨ a.seconds = b.seconds ∧ a.nanos < b.nanos

instance : LE Instant := ⟨Instant.le⟩
instance : LT Instant := ⟨Instant.lt⟩

instance (a b : Instant) : Decidable (a ≤ b) :=
  inferInstanceAs (Decidable (a.seconds < b.seconds ∨ a.seconds = b.seconds ∧ a.nanos ≤ b.nanos))

instance (a b : Instant) : Decidable (a < b) :=
  inferInstanceAs (Decidable (a.seconds < b.seconds ∨ a.seconds = b.seconds ∧ a.nanos < b.nanos))

/-- The instant lies in a leap second. -/
def inLeapSecond (t : Instant) : Bool := 1000000000 ≤ t.nanos

/-- The second of the day, from 0 to 86399. -/
def secondOfDay (t : Instant) : Int := t.seconds % 86400

/-- The day the instant lies in, counted from 1970-01-01. -/
def dayNumber (t : Instant) : Int := t.seconds / 86400

/-- A second and a number of nanoseconds that may lie outside it. -/
def normalized (seconds nanos : Int) : Instant :=
  { seconds := seconds + nanos / 1000000000, nanos := (nanos % 1000000000).toNat }

/-- The instant moved by a span. An instant in a leap second stays there when it moves by less than
a second and not beyond its end; otherwise it counts as the second before when it moves forward,
and as the second after when it moves back. -/
def plus (t : Instant) (s : Span) : Instant :=
  let whole := s.wholeSeconds
  let rest := s.restNanos
  if t.inLeapSecond then
    if 0 < whole ∨ 0 < rest ∧ 2000000000 ≤ (t.nanos : Int) + rest then
      normalized (t.seconds + whole) (t.nanos - 1000000000 + rest)
    else if whole < 0 then
      normalized (t.seconds + 1 + whole) (t.nanos - 1000000000 + rest)
    else { seconds := t.seconds, nanos := ((t.nanos : Int) + rest).toNat }
  else normalized (t.seconds + whole) (t.nanos + rest)

/-- The instant moved back by a span. -/
def minus (t : Instant) (s : Span) : Instant := t.plus (-s)

/-- The length of time from `u` to `t`. A leap second counts when one of the two instants lies in
it and the other one later in the day. -/
def since (t u : Instant) : Span :=
  let leap : Int :=
    if u.secondOfDay < t.secondOfDay ∧ u.inLeapSecond then 1
    else if t.secondOfDay < u.secondOfDay ∧ t.inLeapSecond then -1
    else 0
  ⟨(t.seconds - u.seconds + leap) * 1000000000 + ((t.nanos : Int) - u.nanos)⟩

end Instant

end CivicForum
