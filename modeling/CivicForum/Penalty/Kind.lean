import CivicForum.Named
import CivicForum.Time.Instant

/-! # Kinds of penalties

* `Penalty.Kind`: the sanctions, from least to most severe.
* `Penalty.Kind.severity`: the position on that ladder.
* `Penalty.Kind.length?`: how long a timed ban lasts.
* `Penalty.Kind.lookback`: how long an offence of the kind counts toward escalation.
* `Penalty.Kind.escalate`: the next step up the ladder.
-/

set_option autoImplicit false

namespace CivicForum.Penalty

/-- A sanction, declared from least to most severe. -/
inductive Kind where
  | warning
  | dayBan
  | weekBan
  | monthBan
  | permanentBan
  deriving Repr, DecidableEq, Inhabited

namespace Kind

instance named : Named Kind where
  all := [.warning, .dayBan, .weekBan, .monthBan, .permanentBan]
  wire
    | .warning => "warning"
    | .dayBan => "temp_ban_24h"
    | .weekBan => "temp_ban_7d"
    | .monthBan => "temp_ban_30d"
    | .permanentBan => "permanent_ban"
  title
    | .warning => "Warning"
    | .dayBan => "TempBan24h"
    | .weekBan => "TempBan7d"
    | .monthBan => "TempBan30d"
    | .permanentBan => "PermanentBan"

/-- Every kind, in order of severity. -/
def all : List Kind := Named.all

/-- The position on the ladder of sanctions; a higher one is more severe. -/
def severity : Kind → Nat
  | .warning => 0
  | .dayBan => 1
  | .weekBan => 2
  | .monthBan => 3
  | .permanentBan => 4

/-- The length of a timed ban. A warning bars nobody, and a permanent ban never ends. -/
def length? : Kind → Option Span
  | .warning => none
  | .dayBan => some (.ofHours 24)
  | .weekBan => some (.ofHours 168)
  | .monthBan => some (.ofHours 720)
  | .permanentBan => none

/-- How far back a penalty of this kind counts toward escalation. -/
def lookback : Kind → Span
  | .warning | .dayBan | .weekBan => .ofDays 30
  | .monthBan | .permanentBan => .ofDays 90

/-- The next step up the ladder; a permanent ban is the last. -/
def escalate : Kind → Kind
  | .warning => .dayBan
  | .dayBan => .weekBan
  | .weekBan => .monthBan
  | .monthBan => .permanentBan
  | .permanentBan => .permanentBan

/-- Whether the kind bars its user; only a warning does not. -/
def isBan : Kind → Bool
  | .warning => false
  | .dayBan | .weekBan | .monthBan | .permanentBan => true

end Kind

end CivicForum.Penalty
