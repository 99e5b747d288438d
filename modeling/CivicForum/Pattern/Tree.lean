/-! # Patterns as they are written

* `Pattern.Tree`: a pattern after reading, group by group.
* `Pattern.ClassTree`: a bracketed character class after reading.
* `Pattern.Tree.depth`: how deep groups, repetitions, classes and sequences nest.
-/

set_option autoImplicit false

namespace CivicForum.Pattern

/-! ## Switches -/

/-- A switch that a pattern can set for the rest of a group. -/
inductive Switch where
  | caseless
  | multiLine
  | dotMatchesAll
  | swapGreed
  | unicode
  | crlf
  | spaced
  deriving Repr, DecidableEq

/-- Switches in the order they are written, each turned on or off. -/
abbrev Changes := List (Switch × Bool)

/-! ## Single characters and positions -/

inductive PerlClass where
  | digit
  | space
  | word
  deriving Repr, DecidableEq

/-- A Unicode property, by one name or by the name of a property and a value. -/
inductive PropertyName where
  | single (name : String)
  | valued (property value : String)
  deriving Repr, DecidableEq

/-- A condition on a position. -/
inductive Assertion where
  | lineStart
  | lineEnd
  | textStart
  | textEnd
  | wordBoundary
  | notWordBoundary
  | wordStart
  | wordEnd
  | wordStartHalf
  | wordEndHalf
  deriving Repr, DecidableEq

/-- What an escape can stand for. -/
inductive Atom where
  /-- A character; `isByte` marks one written as two hexadecimal digits. -/
  | literal (c : Char) (isByte : Bool)
  | assertion (a : Assertion)
  | perl (k : PerlClass) (negated : Bool)
  | property (p : PropertyName) (negated : Bool)
  deriving Repr, DecidableEq

/-- The named classes of ASCII characters. -/
inductive AsciiClass where
  | alnum
  | alpha
  | ascii
  | blank
  | cntrl
  | digit
  | graph
  | lower
  | print
  | punct
  | space
  | upper
  | word
  | xdigit
  deriving Repr, DecidableEq

/-! ## Bracketed classes -/

inductive SetOp where
  | inter
  | diff
  | symmDiff
  deriving Repr, DecidableEq

/-- A bracketed class. -/
inductive ClassTree where
  | literal (c : Char) (isByte : Bool)
  | range (lo : Char) (loByte : Bool) (hi : Char) (hiByte : Bool)
  | ascii (k : AsciiClass) (negated : Bool)
  | perl (k : PerlClass) (negated : Bool)
  | property (p : PropertyName) (negated : Bool)
  | bracketed (negated : Bool) (inner : ClassTree)
  | union (items : List ClassTree)
  | op (k : SetOp) (lhs rhs : ClassTree)
  deriving Repr, Inhabited

namespace ClassTree

/-- Items side by side; a single one stands for itself. -/
def ofItems : List ClassTree → ClassTree
  | [t] => t
  | ts => .union ts

mutual

/-- How deep brackets, lists of items and operations nest. -/
def depth : ClassTree → Nat
  | .literal _ _ | .range _ _ _ _ | .ascii _ _ | .perl _ _ | .property _ _ => 0
  | .bracketed _ inner => inner.depth + 1
  | .union [] => 0
  | .union (t :: ts) => max t.depth (depthOfItems ts) + 1
  | .op _ lhs rhs => max lhs.depth rhs.depth + 1

def depthOfItems : List ClassTree → Nat
  | [] => 0
  | t :: ts => max t.depth (depthOfItems ts)

end

end ClassTree

/-! ## Patterns -/

/-- A pattern. -/
inductive Tree where
  | empty
  /-- Switches for the rest of the group. -/
  | switch (changes : Changes)
  | dot
  | atom (a : Atom)
  | bracketed (negated : Bool) (inner : ClassTree)
  | repetition (t : Tree) (min : Nat) (max : Option Nat)
  | group (changes : Changes) (captures : Bool) (t : Tree)
  | alternation (ts : List Tree)
  | sequence (ts : List Tree)
  deriving Repr, Inhabited

namespace Tree

/-- Patterns one after the other; a single one stands for itself. -/
def ofSequence : List Tree → Tree
  | [] => .empty
  | [t] => t
  | ts => .sequence ts

/-- Alternatives; a single one stands for itself. -/
def ofAlternatives : List Tree → Tree
  | [] => .empty
  | [t] => t
  | ts => .alternation ts

mutual

/-- How deep groups, repetitions, classes and lists of patterns nest. -/
def depth : Tree → Nat
  | .empty | .switch _ | .dot | .atom _ => 0
  | .bracketed _ inner => inner.depth + 1
  | .repetition t _ _ => t.depth + 1
  | .group _ _ t => t.depth + 1
  | .alternation ts => depthOfList ts + 1
  | .sequence ts => depthOfList ts + 1

def depthOfList : List Tree → Nat
  | [] => 0
  | t :: ts => max t.depth (depthOfList ts)

end

end Tree

end CivicForum.Pattern
