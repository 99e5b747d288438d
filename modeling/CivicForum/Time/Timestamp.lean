import CivicForum.Time.Instant
import CivicForum.Text.Blank
import CivicForum.Text.Number

/-! # Timestamps as text

* `Timestamp.read?`: the instant that a stored timestamp means. A text in the form of RFC 3339
  carries its offset; a text in one of the `naiveLayouts` is taken as UTC.
* `Timestamp.write`: an instant in the form of RFC 3339, in UTC, marked `Z`.
* `Timestamp.writeWithOffset`: the same with the offset written `+00:00`.
* `Timestamp.writePlain`: an instant to the second, without an offset.
* `Timestamp.Clock`: a date and a time of day, before the offset is taken off.
-/

set_option autoImplicit false

namespace CivicForum.Timestamp

open Text Time

/-! ## Date and time of day -/

/-- A date, a time of day and a fraction of a second, as they stand in a timestamp. Second 60 is a
leap second. -/
structure Clock where
  date : Date
  hour : Nat
  minute : Nat
  second : Nat
  nanos : Nat
  deriving Repr, DecidableEq

/-- The date exists, and so does the time of day. -/
def Clock.isValid (c : Clock) : Bool :=
  c.date.isValid && c.hour ≤ 23 && c.minute ≤ 59 && c.second ≤ 60

/-- The instant of a date and time of day that are `offset` seconds ahead of UTC. -/
def Clock.toInstant (c : Clock) (offset : Int) : Instant :=
  let leap := c.second = 60
  let second : Nat := if leap then 59 else c.second
  { seconds := c.date.dayNumber * 86400 + (c.hour * 3600 + c.minute * 60 + second : Nat) - offset
    nanos := c.nanos + if leap then 1000000000 else 0 }

/-- The date and time of day of an instant, in UTC. -/
def Clock.ofInstant (t : Instant) : Clock :=
  let s := t.secondOfDay.toNat
  { date := Date.ofDayNumber t.dayNumber
    hour := s / 3600
    minute := s / 60 % 60
    second := s % 60 + if t.inLeapSecond then 1 else 0
    nanos := if t.inLeapSecond then t.nanos - 1000000000 else t.nanos }

/-! ## Numbers in timestamps -/

/-- A run of decimal digits, at least one and at most `most`; the number must fit in 64 bits. -/
def readDigits (most : Nat) (cs : List Char) : Option (Nat × List Char) :=
  let ds := (cs.take most).takeWhile isDigit
  if ds = [] then none
  else
    let n := ofDigits ds
    if (n : Int) ≤ wordMax then some (n, cs.drop ds.length) else none

/-- Exactly `width` decimal digits. -/
def readExactly (width : Nat) (cs : List Char) : Option (Nat × List Char) :=
  let ds := cs.take width
  if ds.length = width ∧ ds.all isDigit then some (ofDigits ds, cs.drop width) else none

/-- The nanoseconds written by the digits of a fraction; digits after the ninth are cut off. -/
def ofFraction (ds : List Char) : Nat :=
  let kept := ds.take 9
  ofDigits kept * Nat.pow 10 (9 - kept.length)

/-- The fraction after a second, if there is one: a point and at least one digit. -/
def readFraction (cs : List Char) : Option (Nat × List Char) :=
  match cs with
  | '.' :: rest =>
    let ds := rest.takeWhile isDigit
    if ds = [] then none else some (ofFraction ds, rest.dropWhile isDigit)
  | _ => some (0, cs)

def readMark (c : Char) : List Char → Option (List Char)
  | d :: rest => if d = c then some rest else none
  | [] => none

/-! ## The form of RFC 3339 -/

/-- The greatest offset from UTC, in seconds: 23 hours and 59 minutes. -/
def maxOffset : Int := 86340

/-- An offset from UTC in seconds: `Z`, `z`, or a sign with hours and minutes. -/
def readOffset (cs : List Char) : Option (Int × List Char) :=
  match cs with
  | [] => none
  | c :: rest =>
    if c = 'Z' ∨ c = 'z' then some (0, rest)
    else do
      let sign : Int ←
        if c = '+' then some 1
        else if c = '-' ∨ c = '\u2212' then some (-1)
        else none
      let (hours, rest) ← readExactly 2 rest
      let rest ← readMark ':' rest
      let (minutes, rest) ← readExactly 2 rest
      if minutes ≤ 59 then
        let offset := sign * (hours * 3600 + minutes * 60 : Nat)
        if -maxOffset ≤ offset ∧ offset ≤ maxOffset then some (offset, rest) else none
      else none

/-- A date and a time of day with an offset, fields of fixed width. -/
def readZoned (cs : List Char) : Option Instant := do
  let (year, cs) ← readExactly 4 cs
  let cs ← readMark '-' cs
  let (month, cs) ← readExactly 2 cs
  let cs ← readMark '-' cs
  let (day, cs) ← readExactly 2 cs
  let cs ←
    match cs with
    | c :: rest => if c = 'T' ∨ c = 't' ∨ c = ' ' then some rest else none
    | [] => none
  let (hour, cs) ← readExactly 2 cs
  let cs ← readMark ':' cs
  let (minute, cs) ← readExactly 2 cs
  let cs ← readMark ':' cs
  let (second, cs) ← readExactly 2 cs
  let (nanos, cs) ← readFraction cs
  let (offset, cs) ← readOffset cs
  let clock : Clock := ⟨⟨year, month, day⟩, hour, minute, second, nanos⟩
  if clock.isValid ∧ cs = [] then some (clock.toInstant offset) else none

/-! ## Layouts without an offset -/

/-- A piece of a layout. White space may stand before every number. -/
inductive Piece where
  | year
  | month
  | day
  | hour
  | minute
  | second
  /-- An optional fraction of a second. -/
  | fraction
  /-- Any white space, also none. -/
  | gap
  | mark (c : Char)
  deriving Repr, DecidableEq

/-- A year: up to four digits, or a sign and any number of digits. -/
def readYear (cs : List Char) : Option (Int × List Char) :=
  match trimStart cs with
  | '-' :: rest => do
    let (n, rest) ← readDigits rest.length rest
    return (-(n : Int), rest)
  | '+' :: rest => do
    let (n, rest) ← readDigits rest.length rest
    return ((n : Int), rest)
  | cs => do
    let (n, rest) ← readDigits 4 cs
    return ((n : Int), rest)

/-- One or two digits. -/
def readPair (cs : List Char) : Option (Nat × List Char) := readDigits 2 (trimStart cs)

/-- Takes a piece off the front of a text and notes its value. -/
def Piece.read (p : Piece) (c : Clock) (cs : List Char) : Option (Clock × List Char) :=
  match p with
  | .year => (readYear cs).map fun (y, rest) => ({ c with date.year := y }, rest)
  | .month => (readPair cs).map fun (m, rest) => ({ c with date.month := m }, rest)
  | .day => (readPair cs).map fun (d, rest) => ({ c with date.day := d }, rest)
  | .hour => (readPair cs).map fun (h, rest) => ({ c with hour := h }, rest)
  | .minute => (readPair cs).map fun (m, rest) => ({ c with minute := m }, rest)
  | .second => (readPair cs).map fun (s, rest) => ({ c with second := s }, rest)
  | .fraction => (readFraction cs).map fun (n, rest) => ({ c with nanos := n }, rest)
  | .gap => some (c, trimStart cs)
  | .mark m => (readMark m cs).map fun rest => (c, rest)

/-- A layout: the pieces of a timestamp in order. -/
abbrev Layout := List Piece

/-- The pieces of a layout one after the other. -/
def Layout.readFrom : Layout → Clock → List Char → Option (Clock × List Char)
  | [], c, cs => some (c, cs)
  | p :: ps, c, cs => do
    let (c, cs) ← p.read c cs
    readFrom ps c cs

/-- A whole text in this layout, taken as UTC. -/
def Layout.read? (l : Layout) (cs : List Char) : Option Instant :=
  match l.readFrom ⟨⟨0, 0, 0⟩, 0, 0, 0, 0⟩ cs with
  | some (clock, []) => if clock.isValid then some (clock.toInstant 0) else none
  | _ => none

def dateLayout : Layout := [.year, .mark '-', .month, .mark '-', .day]
def timeLayout : Layout := [.hour, .mark ':', .minute, .mark ':', .second]

/-- The layouts of timestamps without an offset, in the order they are tried. -/
def naiveLayouts : List Layout :=
  [dateLayout ++ [.gap] ++ timeLayout ++ [.fraction],
   dateLayout ++ [.mark 'T'] ++ timeLayout ++ [.fraction],
   dateLayout ++ [.gap] ++ timeLayout,
   dateLayout ++ [.mark 'T'] ++ timeLayout]

/-- The instant of a timestamp, read with an offset if it has one and else in the first of the
layouts that fits. -/
def readWith? (layouts : List Layout) (cs : List Char) : Option Instant :=
  let cs := trim cs
  (readZoned cs).orElse fun _ => layouts.findSome? fun l => l.read? cs

/-- The instant that a stored timestamp means, if it can be read. -/
def read? (s : String) : Option Instant := readWith? naiveLayouts s.toList

/-! ## Writing -/

/-- A year: four digits from 0 to 9999, else a sign and at least four digits. -/
def writeYear (y : Int) : List Char :=
  if 0 ≤ y ∧ y ≤ 9999 then padded 4 y.toNat
  else (if y < 0 then '-' else '+') :: padded 4 y.natAbs

/-- The fraction of a second with 0, 3, 6 or 9 digits, the fewest that are exact. -/
def writeFraction (nanos : Nat) : List Char :=
  if nanos = 0 then []
  else if nanos % 1000000 = 0 then '.' :: padded 3 (nanos / 1000000)
  else if nanos % 1000 = 0 then '.' :: padded 6 (nanos / 1000)
  else '.' :: padded 9 nanos

/-- A date and a time of day, without an offset. -/
def writeClock (c : Clock) : List Char :=
  writeYear c.date.year ++ '-' :: padded 2 c.date.month ++ '-' :: padded 2 c.date.day ++
  'T' :: padded 2 c.hour ++ ':' :: padded 2 c.minute ++ ':' :: padded 2 c.second ++
  writeFraction c.nanos

/-- An instant in the form of RFC 3339, in UTC. -/
def write (t : Instant) : String := String.ofList (writeClock (.ofInstant t) ++ ['Z'])

/-- An instant in the form of RFC 3339, in UTC, with its offset in digits. -/
def writeWithOffset (t : Instant) : String :=
  String.ofList (writeClock (.ofInstant t) ++ ['+', '0', '0', ':', '0', '0'])

/-- An instant in UTC to the second, with a blank between the date and the time of day. -/
def writePlain (t : Instant) : String :=
  let c : Clock := .ofInstant { t with nanos := 0 }
  String.ofList ((writeClock c).map fun d => if d = 'T' then ' ' else d)

end CivicForum.Timestamp
