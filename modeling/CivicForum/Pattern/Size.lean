import CivicForum.Pattern.Expr

/-! # The size of compiled patterns

A pattern is refused when the machine that recognises it would take too much memory.

* `Pattern.byteRanges`: a set of characters as sequences of ranges of bytes.
* `Expr.size`: the bytes that the machine of an expression takes.
* `Expr.maxSize`: the most that is allowed.
-/

set_option autoImplicit false

namespace CivicForum.Pattern

/-! ## Sets of characters as bytes -/

/-- The bytes of a code point in UTF-8. -/
def utf8Bytes (n : Nat) : List Nat :=
  if n < 0x80 then [n]
  else if n < 0x800 then [0xC0 + n / 0x40, 0x80 + n % 0x40]
  else if n < 0x10000 then [0xE0 + n / 0x1000, 0x80 + n / 0x40 % 0x40, 0x80 + n % 0x40]
  else
    [0xF0 + n / 0x40000, 0x80 + n / 0x1000 % 0x40, 0x80 + n / 0x40 % 0x40, 0x80 + n % 0x40]

/-- Where to cut a range of code points, so that both parts come closer to one sequence of ranges
of bytes: after the last code point of a length, or at the end of a block of 64, 4096 or 262144. -/
def cut? (lo hi : Nat) : Option (Nat × Nat) :=
  let afterLength := [0x7F, 0x7FF, 0xFFFF].find? fun m => lo ≤ m && m < hi
  match afterLength with
  | some m => some (m, m + 1)
  | none =>
    if hi < 0x80 then none
    else
      [0x40, 0x1000, 0x40000].findSome? fun block =>
        if lo / block = hi / block then none
        else if lo % block ≠ 0 then
          some (lo / block * block + block - 1, lo / block * block + block)
        else if hi % block ≠ block - 1 then some (hi / block * block - 1, hi / block * block)
        else none

/-- The sequences of ranges of bytes for a range of code points. -/
def splitRange : Nat → Nat → Nat → List (List (Nat × Nat))
  | 0, _, _ => []
  | fuel + 1, lo, hi =>
    match cut? lo hi with
    | some (a, b) => splitRange fuel lo a ++ splitRange fuel b hi
    | none => [List.zip (utf8Bytes lo) (utf8Bytes hi)]

/-- The sequences of ranges of bytes for a set, surrogates left out. -/
def byteRanges (s : CharSet) : List (List (Nat × Nat)) :=
  let scalar := s.ranges.flatMap fun r =>
    if r.1 < 0xE000 ∧ 0xD7FF < r.2 then
      (if r.1 ≤ 0xD7FF then [(r.1, 0xD7FF)] else []) ++
        (if 0xE000 ≤ r.2 then [(0xE000, r.2)] else [])
    else [r]
  scalar.flatMap fun r => splitRange 64 r.1 r.2

/-- The length of the common front of two lists. -/
def commonFront : List (Nat × Nat) → List (Nat × Nat) → Nat
  | a :: as, b :: bs => if a = b then commonFront as bs + 1 else 0
  | _, _ => 0

/-- The states for sequences that share their fronts with the sequence before. -/
def sharedStates (previous : List (Nat × Nat)) : List (List (Nat × Nat)) → Nat
  | [] => 0
  | s :: rest => (s.length - commonFront previous s) + sharedStates s rest

/-- The bytes that one state takes. -/
def stateSize : Nat := 32

/-- The bytes that the states for a set of characters take. -/
def setSize (s : CharSet) : Nat :=
  match s.ranges with
  | [(lo, hi)] =>
    if lo = hi then stateSize * (utf8Bytes lo).length
    else if s.isAscii then 2 * stateSize + 8
    else
      let seqs := byteRanges s
      stateSize * (2 + sharedStates [] seqs) + 4 * seqs.length
  | _ =>
    if s.isAscii then 2 * stateSize + 8 * s.ranges.length
    else
      let seqs := byteRanges s
      stateSize * (2 + sharedStates [] seqs) + 4 * seqs.length

/-! ## Expressions -/

namespace Expr

/-- The bytes that the machine of an expression takes. -/
def size : Expr → Nat
  | .empty => stateSize
  | .set s => setSize s
  | .look _ => stateSize
  | .concat a b => a.size + b.size
  | .alt a b => a.size + b.size + stateSize + 8
  | .repetition e min max =>
    let one := e.size
    match max with
    | none => (Nat.max min 1) * one + stateSize + 8
    | some k => min * one + (if k = min then 0 else stateSize + (k - min) * (stateSize + 8 + one))
  | .capture e => e.size + 2 * stateSize

/-- The most that the machine of a pattern may take. -/
def maxSize : Nat := 10485760

end Expr

end CivicForum.Pattern
