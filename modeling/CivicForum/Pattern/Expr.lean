import CivicForum.Text.CharSet
import CivicForum.Text.Property

/-! # Regular expressions

* `Expr`: a regular expression over sets of characters and conditions on positions.
* `Expr.ends`: the positions where a match can end, given the positions where it can start. A set
  of positions is a list of truth values, one for each place between characters.
* `Expr.occursIn`: some part of a text matches.
* `Look.holds`: a condition on the characters around a position.
-/

set_option autoImplicit false

namespace CivicForum.Pattern

/-! ## Positions -/

/-- A condition on a position in a text. For those on words, `unicode` tells whether words hold the
letters of all scripts or those of ASCII alone. -/
inductive Look where
  | textStart
  | textEnd
  | lineStart
  | lineEnd
  /-- Like `lineStart`, with carriage returns ending lines too. -/
  | crlfStart
  | crlfEnd
  | wordBoundary (unicode : Bool)
  | notWordBoundary (unicode : Bool)
  | wordStart (unicode : Bool)
  | wordEnd (unicode : Bool)
  | wordStartHalf (unicode : Bool)
  | wordEndHalf (unicode : Bool)
  deriving Repr, DecidableEq

/-- The character is part of a word. -/
def isWordChar (unicode : Bool) (c : Char) : Bool :=
  if c.toNat < 0x80 then c.isAlphanum || c = '_' else unicode && Text.wordChars.contains c

namespace Look

/-- The condition holds between these characters; none stands for an end of the text. -/
def holds (l : Look) (before after : Option Char) : Bool :=
  match l with
  | .textStart => before.isNone
  | .textEnd => after.isNone
  | .lineStart => before.isNone || before = some '\n'
  | .lineEnd => after.isNone || after = some '\n'
  | .crlfStart =>
    before.isNone || before = some '\n' || before = some '\r' && after ≠ some '\n'
  | .crlfEnd => after.isNone || after = some '\r' || after = some '\n' && before ≠ some '\r'
  | .wordBoundary u => before.any (isWordChar u) != after.any (isWordChar u)
  | .notWordBoundary u => before.any (isWordChar u) == after.any (isWordChar u)
  | .wordStart u => !before.any (isWordChar u) && after.any (isWordChar u)
  | .wordEnd u => before.any (isWordChar u) && !after.any (isWordChar u)
  | .wordStartHalf u => !before.any (isWordChar u)
  | .wordEndHalf u => !after.any (isWordChar u)

end Look

/-! ## Expressions -/

/-- A regular expression. -/
inductive Expr where
  | empty
  /-- One character of a set. -/
  | set (s : CharSet)
  | look (l : Look)
  | concat (a b : Expr)
  | alt (a b : Expr)
  /-- At least `min` and at most `max` times. -/
  | repetition (e : Expr) (min : Nat) (max : Option Nat)
  /-- A group whose extent is remembered; it matches like the expression in it. -/
  | capture (e : Expr)
  deriving Repr

/-! ## Sets of positions -/

/-- Which places between characters are in the set, from the start of the text to its end. -/
abbrev Marks := List Bool

namespace Marks

def or (a b : Marks) : Marks := List.zipWith (· || ·) a b

/-- The places of the first set that are not in the second. -/
def minus (a b : Marks) : Marks := List.zipWith (fun x y => x && !y) a b

def isEmpty (m : Marks) : Bool := !m.any id

end Marks

/-- The characters before and after each place. -/
def neighbours (before : Option Char) : List Char → List (Option Char × Option Char)
  | [] => [(before, none)]
  | c :: rest => (before, some c) :: neighbours (some c) rest

/-- Steps over a character of the set from each marked place. -/
def stepOver (s : CharSet) (text : List Char) (m : Marks) : Marks :=
  false :: List.zipWith (fun c b => b && s.contains c) text m

/-- Keeps the marked places where a condition holds. -/
def keep (l : Look) (text : List Char) (m : Marks) : Marks :=
  List.zipWith (fun p b => b && l.holds p.1 p.2) (neighbours none text) m

/-- Applies a step `n` times, or until no place is left. -/
def repeatStep (f : Marks → Marks) : Nat → Marks → Marks
  | 0, m => m
  | n + 1, m => if m.isEmpty then m else repeatStep f n (f m)

/-- The places that at most `n` steps reach. `seen` holds the places reached so far, and `fresh`
those of them that no step has been taken from. -/
def reach (f : Marks → Marks) : Nat → Marks → Marks → Marks
  | 0, seen, _ => seen
  | n + 1, seen, fresh =>
    if fresh.isEmpty then seen
    else
      let next := f fresh
      reach f n (seen.or next) (next.minus seen)

namespace Expr

/-- The places where a match can end that starts at a marked one. Beyond the number of places, more
steps of a repetition reach the same places. -/
def ends (text : List Char) : Expr → Marks → Marks
  | .empty, m => m
  | .set s, m => stepOver s text m
  | .look l, m => keep l text m
  | .concat a b, m => ends text b (ends text a m)
  | .alt a b, m => (ends text a m).or (ends text b m)
  | .repetition e min max, m =>
    let places := text.length + 1
    let first := repeatStep (ends text e) (Nat.min min places) m
    let more := match max with
      | none => places
      | some k => Nat.min (k - min) places
    reach (ends text e) more first first
  | .capture e, m => ends text e m

/-- Some part of the text matches. -/
def occursIn (e : Expr) (text : List Char) : Bool :=
  (e.ends text (List.replicate (text.length + 1) true)).any id

/-- The expressions one after the other. -/
def concatAll : List Expr → Expr
  | [] => .empty
  | [e] => e
  | e :: es => .concat e (concatAll es)

/-- Any of the expressions; at least one is given. -/
def altAll : List Expr → Expr
  | [] => .set .empty
  | [e] => e
  | e :: es => .alt e (altAll es)

end Expr

end CivicForum.Pattern
