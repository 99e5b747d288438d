import CivicForum.Pattern.Escape

/-! # Bracketed classes in patterns

* `Pattern.readBracket`: a class, from after its opening bracket to its closing one.
-/

set_option autoImplicit false

namespace CivicForum.Pattern

/-! ## Named ASCII classes -/

def AsciiClass.ofName? : String → Option AsciiClass
  | "alnum" => some .alnum
  | "alpha" => some .alpha
  | "ascii" => some .ascii
  | "blank" => some .blank
  | "cntrl" => some .cntrl
  | "digit" => some .digit
  | "graph" => some .graph
  | "lower" => some .lower
  | "print" => some .print
  | "punct" => some .punct
  | "space" => some .space
  | "upper" => some .upper
  | "word" => some .word
  | "xdigit" => some .xdigit
  | _ => none

/-- A named class, from after its opening bracket; anything else is left to be read as a class
within the class. -/
def readAsciiClass (cs : List Char) : Option (ClassTree × List Char) :=
  match cs with
  | ':' :: rest =>
    let (negated, rest) : Bool × List Char :=
      match rest with
      | '^' :: r => (true, r)
      | r => (false, r)
    let name := rest.takeWhile (· ≠ ':')
    match rest.dropWhile (· ≠ ':') with
    | ':' :: ']' :: rest =>
      (AsciiClass.ofName? (String.ofList name)).map fun k => (.ascii k negated, rest)
    | _ => none
  | _ => none

/-! ## Items -/

/-- One item of a class: an escape, or a character that stands for itself. -/
def readItem (spaced : Bool) : List Char → Option (Atom × List Char)
  | [] => none
  | '\\' :: rest => readEscape spaced rest
  | c :: rest => some (.literal c false, rest)

/-- The class of an item that is no end of a range. -/
def itemClass : Atom → Option ClassTree
  | .literal c isByte => some (.literal c isByte)
  | .perl k negated => some (.perl k negated)
  | .property p negated => some (.property p negated)
  | .assertion _ => none

/-- The character after the next one, blanks left out if the pattern is spaced. -/
def peekAfter (spaced : Bool) (rest : List Char) : Option Char :=
  if spaced then
    match rest.dropWhile Text.isBlank with
    | '#' :: r => (r.dropWhile Text.isBlank).head?
    | r => r.head?
  else rest.head?

/-- An item, or a range between two characters. A dash before a closing bracket or before another
dash makes no range. -/
def readRange (spaced : Bool) (cs : List Char) : Option (ClassTree × List Char) := do
  let (first, rest) ← readItem spaced cs
  match skipIgnored spaced rest with
  | [] => none
  | c :: after =>
    if c ≠ '-' ∨ peekAfter spaced after = some ']' ∨ peekAfter spaced after = some '-' then
      return (← itemClass first, c :: after)
    else
      match skipIgnored spaced after with
      | [] => none
      | after => do
        let (last, rest) ← readItem spaced after
        match first, last with
        | .literal lo loByte, .literal hi hiByte =>
          if lo ≤ hi then some (.range lo loByte hi hiByte, rest) else none
        | _, _ => none

/-! ## Classes -/

/-- The dashes at the front of a class, which stand for themselves. -/
def readDashes (spaced : Bool) : Nat → List Char → List ClassTree × List Char
  | 0, cs => ([], cs)
  | fuel + 1, cs =>
    match cs with
    | '-' :: rest =>
      let (ts, rest) := readDashes spaced fuel (skipIgnored spaced rest)
      (.literal '-' false :: ts, rest)
    | _ => ([], cs)

/-- The front of a class after its opening bracket: negation, dashes, and a closing bracket that
stands for itself because it comes first. -/
def readFront (spaced : Bool) (cs : List Char) : Bool × List ClassTree × List Char :=
  let cs := skipIgnored spaced cs
  let (negated, cs) : Bool × List Char :=
    match cs with
    | '^' :: rest => (true, skipIgnored spaced rest)
    | _ => (false, cs)
  let (dashes, cs) := readDashes spaced (cs.length + 1) cs
  match dashes, cs with
  | [], ']' :: rest => (negated, [.literal ']' false], skipIgnored spaced rest)
  | _, _ => (negated, dashes, cs)

/-- Joins the items read so far, given latest first, to the operation that waits for them. -/
def closeItems (pending : Option (SetOp × ClassTree)) (items : List ClassTree) : ClassTree :=
  let rhs := ClassTree.ofItems items.reverse
  match pending with
  | some (k, lhs) => .op k lhs rhs
  | none => rhs

/-- The operation at the front of a text, written as a character twice. -/
def setOp? : List Char → Option (SetOp × List Char)
  | '&' :: '&' :: rest => some (.inter, rest)
  | '-' :: '-' :: rest => some (.diff, rest)
  | '~' :: '~' :: rest => some (.symmDiff, rest)
  | _ => none

/-- The items of a class up to its closing bracket. `pending` is the operation that waits for its
right side, and `items` the items read so far, latest first. -/
def readItems (spaced : Bool) :
    Nat → Option (SetOp × ClassTree) → List ClassTree → List Char → Option (ClassTree × List Char)
  | 0, _, _, _ => none
  | fuel + 1, pending, items, cs =>
    match skipIgnored spaced cs with
    | [] => none
    | ']' :: rest => some (closeItems pending items, rest)
    | '[' :: rest =>
      match readAsciiClass rest with
      | some (t, rest) => readItems spaced fuel pending (t :: items) rest
      | none => do
        let (negated, front, rest) := readFront spaced rest
        let (inner, rest) ← readItems spaced fuel none front.reverse rest
        readItems spaced fuel pending (.bracketed negated inner :: items) rest
    | cs =>
      match setOp? cs with
      | some (k, rest) => readItems spaced fuel (some (k, closeItems pending items)) [] rest
      | none => do
        let (t, rest) ← readRange spaced cs
        readItems spaced fuel pending (t :: items) rest

/-- A class, from after its opening bracket to its closing one. -/
def readBracket (spaced : Bool) (cs : List Char) : Option (Tree × List Char) := do
  let (negated, front, rest) := readFront spaced cs
  let (inner, rest) ← readItems spaced (2 * cs.length + 2) none front.reverse rest
  return (.bracketed negated inner, rest)

end CivicForum.Pattern
