import CivicForum.Pattern.Bracket
import CivicForum.Text.Category
import CivicForum.Text.Property

/-! # Reading patterns

* `Pattern.Tree.parse?`: the pattern that a text writes, if it is one.
* `Pattern.Level`: what has been read of a group.
-/

set_option autoImplicit false

namespace CivicForum.Pattern

/-! ## Switches -/

def Switch.ofLetter? : Char → Option Switch
  | 'i' => some .caseless
  | 'm' => some .multiLine
  | 's' => some .dotMatchesAll
  | 'U' => some .swapGreed
  | 'u' => some .unicode
  | 'R' => some .crlf
  | 'x' => some .spaced
  | _ => none

/-- Switches up to a colon or a closing parenthesis. A dash turns off the ones after it; it comes
at most once and not last, and no switch comes twice. -/
def readChanges (on : Bool) (dangling : Bool) (seen : Changes) :
    List Char → Option (Changes × List Char)
  | [] => none
  | c :: rest =>
    if c = ':' ∨ c = ')' then
      if dangling then none else some (seen, c :: rest)
    else if c = '-' then
      if on then readChanges false true seen rest else none
    else
      match Switch.ofLetter? c with
      | none => none
      | some s =>
        if seen.any fun p => p.1 = s then none
        else readChanges on false (seen ++ [(s, on)]) rest

/-- Whether blanks are ignored after some changes. -/
def spacedAfter (changes : Changes) (spaced : Bool) : Bool :=
  (changes.lookup .spaced).getD spaced

/-! ## Names of groups -/

/-- The letters and numbers of all scripts. -/
def letters : CharSet := (Text.property? "alphabetic").getD .empty
def numbers : CharSet := Text.ofCategories ["Nd", "Nl", "No"]

/-- The character may stand in the name of a group. -/
def isNameChar (first : Bool) (c : Char) : Bool :=
  if c = '_' then true
  else if first then letters.contains c
  else c = '.' || c = '[' || c = ']' || letters.contains c || numbers.contains c

/-- The name of a group, up to the closing angle. -/
def readGroupName (cs : List Char) : Option (List Char × List Char) :=
  let name := cs.takeWhile (· ≠ '>')
  match name, cs.dropWhile (· ≠ '>') with
  | c :: more, '>' :: rest =>
    if isNameChar true c && more.all (isNameChar false) then some (name, rest) else none
  | _, _ => none

/-! ## Groups -/

/-- What opens at a parenthesis. -/
inductive Opening where
  | switches (changes : Changes)
  | group (changes : Changes) (captures : Bool) (name : Option (List Char))

/-- What opens after an opening parenthesis. -/
def readOpening (spaced : Bool) (cs : List Char) : Option (Opening × List Char) :=
  match skipIgnored spaced cs with
  | '?' :: '=' :: _ => none
  | '?' :: '!' :: _ => none
  | '?' :: '<' :: '=' :: _ => none
  | '?' :: '<' :: '!' :: _ => none
  | '?' :: 'P' :: '<' :: rest =>
    (readGroupName rest).map fun (name, rest) => (.group [] true (some name), rest)
  | '?' :: '<' :: rest =>
    (readGroupName rest).map fun (name, rest) => (.group [] true (some name), rest)
  | '?' :: rest =>
    match readChanges true false [] rest with
    | some (changes, ')' :: after) =>
      if rest.head? = some ')' then none else some (.switches changes, after)
    | some (changes, _ :: rest) => some (.group changes false none, rest)
    | _ => none
  | cs => some (.group [] true none, cs)

/-! ## Repetitions -/

/-- The digits of a number, blanks left out between them if the pattern is spaced. -/
def readCountDigits (spaced : Bool) : Nat → List Char → List Char × List Char
  | 0, cs => ([], cs)
  | _ + 1, [] => ([], [])
  | fuel + 1, c :: rest =>
    if Text.isDigit c then
      let (ds, rest) := readCountDigits spaced fuel (skipIgnored spaced rest)
      (c :: ds, rest)
    else ([], c :: rest)

/-- A number of repetitions, of 32 bits, blanks around it allowed. -/
def readCount (spaced : Bool) (cs : List Char) : Option (Nat × List Char) :=
  let cs := Text.trimStart cs
  let (ds, rest) := readCountDigits spaced (cs.length + 1) cs
  let n := Text.ofDigits ds
  if ds ≠ [] ∧ n < 4294967296 then
    let rest := if spaced then dropIgnored rest else rest
    some (n, Text.trimStart rest)
  else none

/-- The question mark that makes a repetition reluctant. -/
def dropReluctant : List Char → List Char
  | '?' :: rest => rest
  | cs => cs

/-- The bounds of a counted repetition, from after its opening brace to its end. -/
def readBounds (spaced : Bool) (cs : List Char) : Option (Nat × Option Nat × List Char) := do
  let (min, rest) ← readCount spaced (skipIgnored spaced cs)
  let finish (max : Option Nat) (rest : List Char) : Option (Nat × Option Nat × List Char) :=
    if max.all (min ≤ ·) then some (min, max, dropReluctant (skipIgnored spaced rest)) else none
  match rest with
  | '\x7d' :: rest => finish (some min) rest
  | ',' :: rest =>
    match skipIgnored spaced rest with
    | '\x7d' :: rest => finish none rest
    | rest => do
      let (max, rest) ← readCount spaced rest
      match rest with
      | '\x7d' :: rest => finish (some max) rest
      | _ => none
  | _ => none

/-! ## Groups being read -/

/-- A group being read: the alternatives that are complete, and the parts of the current one, both
latest first. -/
structure Level where
  alternatives : List Tree := []
  items : List Tree := []

namespace Level

def push (l : Level) (t : Tree) : Level := { l with items := t :: l.items }

/-- Ends an alternative. -/
def divide (l : Level) : Level where
  alternatives := .ofSequence l.items.reverse :: l.alternatives

/-- The pattern of the group. -/
def close (l : Level) : Tree := .ofAlternatives (l.divide.alternatives.reverse)

/-- Repeats the last part of the current alternative; a switch cannot be repeated. -/
def repeatLast (l : Level) (min : Nat) (max : Option Nat) : Option Level :=
  match l.items with
  | [] => none
  | .empty :: _ => none
  | .switch _ :: _ => none
  | t :: rest => some { l with items := .repetition t min max :: rest }

end Level

/-- A group that waits for the one inside it to close. -/
structure Waiting where
  outer : Level
  changes : Changes
  captures : Bool
  /-- Whether blanks were ignored outside. -/
  spaced : Bool

/-- Where reading stands: the innermost open group, the ones around it from the inside out, whether
blanks are ignored, and the names of groups so far. -/
structure Reader where
  level : Level := {}
  waiting : List Waiting := []
  spaced : Bool := false
  names : List (List Char) := []

namespace Reader

def push (r : Reader) (t : Tree) : Reader := { r with level := r.level.push t }

/-- Repeats the last part. -/
def repeatLast (r : Reader) (min : Nat) (max : Option Nat) : Option Reader :=
  (r.level.repeatLast min max).map fun l => { r with level := l }

/-- Opens a group, or sets switches for the rest of the current one. -/
def enter (r : Reader) : Opening → Option Reader
  | .switches changes =>
    some { r.push (.switch changes) with spaced := spacedAfter changes r.spaced }
  | .group changes captures name =>
    if name.any (· ∈ r.names) then none
    else
      some {
        level := {}
        waiting := ⟨r.level, changes, captures, r.spaced⟩ :: r.waiting
        spaced := spacedAfter changes r.spaced
        names := name.toList ++ r.names }

/-- Closes the innermost group. -/
def leave (r : Reader) : Option Reader :=
  match r.waiting with
  | [] => none
  | w :: rest =>
    some { r with
      level := w.outer.push (.group w.changes w.captures r.level.close)
      waiting := rest
      spaced := w.spaced }

/-- Reads on to the end of the text. -/
def run : Nat → Reader → List Char → Option Tree
  | 0, _, _ => none
  | fuel + 1, r, cs =>
    match skipIgnored r.spaced cs with
    | [] => if r.waiting.isEmpty then some r.level.close else none
    | c :: rest =>
      match c with
      | '(' => do
        let (opening, rest) ← readOpening r.spaced rest
        run fuel (← r.enter opening) rest
      | ')' => do run fuel (← r.leave) rest
      | '|' => run fuel { r with level := r.level.divide } rest
      | '[' => do
        let (t, rest) ← readBracket r.spaced rest
        run fuel (r.push t) rest
      | '?' => do run fuel (← r.repeatLast 0 (some 1)) (dropReluctant rest)
      | '*' => do run fuel (← r.repeatLast 0 none) (dropReluctant rest)
      | '+' => do run fuel (← r.repeatLast 1 none) (dropReluctant rest)
      | '\x7b' => do
        let (min, max, rest) ← readBounds r.spaced rest
        run fuel (← r.repeatLast min max) rest
      | '\\' => do
        let (a, rest) ← readEscape r.spaced rest
        run fuel (r.push (.atom a)) rest
      | '.' => run fuel (r.push .dot) rest
      | '^' => run fuel (r.push (.atom (.assertion .lineStart))) rest
      | '$' => run fuel (r.push (.atom (.assertion .lineEnd))) rest
      | c => run fuel (r.push (.atom (.literal c false))) rest

end Reader

/-- The deepest nesting that a pattern may have. -/
def maxDepth : Nat := 250

/-- The pattern that a text writes, if it is one and does not nest too deep. -/
def Tree.parse? (cs : List Char) : Option Tree := do
  let t ← Reader.run (cs.length + 1) {} cs
  if t.depth ≤ maxDepth then some t else none

end CivicForum.Pattern
