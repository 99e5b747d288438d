import CivicForum.Pattern.Tree
import CivicForum.Text.Blank
import CivicForum.Text.Number

/-! # Escapes in patterns

* `Pattern.skipIgnored`: blanks and comments, which a pattern may hold when it is `spaced`.
* `Pattern.readEscape`: what follows a backslash.
* `Pattern.isMeta`, `Pattern.isEscapable`: the characters that a backslash makes literal.
-/

set_option autoImplicit false

namespace CivicForum.Pattern

/-! ## Blanks and comments -/

mutual

/-- Drops blanks and comments. -/
def dropIgnored : List Char → List Char
  | [] => []
  | c :: rest =>
    if Text.isBlank c then dropIgnored rest
    else if c = '#' then dropComment rest
    else c :: rest

/-- Drops the rest of a comment, and blanks and comments after it. -/
def dropComment : List Char → List Char
  | [] => []
  | c :: rest => if c = '\n' then dropIgnored rest else dropComment rest

end

def skipIgnored (spaced : Bool) (cs : List Char) : List Char :=
  if spaced then dropIgnored cs else cs

/-! ## Characters by code point -/

/-- The character with a code point. -/
def charOf? (n : Nat) : Option Char :=
  if n.isValidChar then some (Char.ofNat n) else none

def ofHexDigits (ds : List Nat) : Nat := ds.foldl (fun acc d => acc * 16 + d) 0

/-- A fixed number of hexadecimal digits. -/
def readHexDigits (spaced : Bool) : Nat → List Char → Option (List Nat × List Char)
  | 0, cs => some ([], cs)
  | n + 1, c :: cs => do
    let d ← Text.hexValue? c
    let (ds, rest) ← readHexDigits spaced n (skipIgnored spaced cs)
    return (d :: ds, rest)
  | _ + 1, [] => none

/-- Hexadecimal digits up to a closing brace. -/
def readHexBrace (spaced : Bool) : Nat → List Char → Option (List Nat × List Char)
  | 0, _ => none
  | fuel + 1, cs =>
    match skipIgnored spaced cs with
    | [] => none
    | c :: rest =>
      if c = '\x7d' then some ([], skipIgnored spaced rest)
      else do
        let d ← Text.hexValue? c
        let (ds, rest) ← readHexBrace spaced fuel rest
        return (d :: ds, rest)

/-- A character by its code point: that many hexadecimal digits, or any number between braces. -/
def readHex (spaced : Bool) (width : Nat) (cs : List Char) : Option (Atom × List Char) :=
  match skipIgnored spaced cs with
  | [] => none
  | '\x7b' :: rest => do
    let (ds, rest) ← readHexBrace spaced (rest.length + 1) rest
    if ds = [] then none
    let c ← charOf? (ofHexDigits ds)
    return (.literal c false, rest)
  | cs => do
    let (ds, rest) ← readHexDigits spaced width cs
    let c ← charOf? (ofHexDigits ds)
    return (.literal c (width = 2), rest)

/-! ## Properties -/

/-- The characters up to a closing brace. -/
def readBraced (spaced : Bool) : Nat → List Char → Option (List Char × List Char)
  | 0, _ => none
  | fuel + 1, cs =>
    match skipIgnored spaced cs with
    | [] => none
    | c :: rest =>
      if c = '\x7d' then some ([], rest)
      else do
        let (name, rest) ← readBraced spaced fuel rest
        return (c :: name, rest)

/-- Splits a text at the first of the marks that occurs in it, marks tried in order. -/
def splitAtFirst? (mark : List Char) : List Char → Option (List Char × List Char)
  | [] => none
  | c :: rest =>
    if mark.isPrefixOf (c :: rest) then some ([], (c :: rest).drop mark.length)
    else (splitAtFirst? mark rest).map fun (a, b) => (c :: a, b)

/-- A property between braces: one name, or a property and its value. -/
def propertyOf (name : List Char) : PropertyName :=
  match (splitAtFirst? ['!', '='] name).orElse fun _ => (splitAtFirst? [':'] name).orElse fun _ =>
      splitAtFirst? ['='] name with
  | some (p, v) => .valued (String.ofList p) (String.ofList v)
  | none => .single (String.ofList name)

/-- A property: one letter, or a name between braces. -/
def readProperty (spaced negated : Bool) (cs : List Char) : Option (Atom × List Char) :=
  match skipIgnored spaced cs with
  | [] => none
  | '\x7b' :: rest => do
    let (name, rest) ← readBraced spaced (rest.length + 1) rest
    return (.property (propertyOf name) negated, rest)
  | '\\' :: _ => none
  | c :: rest => some (.property (.single (String.singleton c)) negated, rest)

/-! ## Word boundaries -/

def isBoundaryLetter (c : Char) : Bool :=
  'a' ≤ c && c ≤ 'z' || 'A' ≤ c && c ≤ 'Z' || c = '-'

/-- The name of a word boundary and the text after it. -/
def readBoundaryName (spaced : Bool) : Nat → List Char → List Char × List Char
  | 0, cs => ([], cs)
  | _ + 1, [] => ([], [])
  | fuel + 1, c :: rest =>
    if isBoundaryLetter c then
      let (name, rest) := readBoundaryName spaced fuel (skipIgnored spaced rest)
      (c :: name, rest)
    else ([], c :: rest)

/-- What follows the letter of a word boundary: a name between braces, unless the braces hold a
number of repetitions. -/
def readBoundary (spaced : Bool) (cs : List Char) : Option (Atom × List Char) :=
  match cs with
  | '\x7b' :: rest =>
    match skipIgnored spaced rest with
    | [] => none
    | c :: inner =>
      if isBoundaryLetter c then
        match readBoundaryName spaced (inner.length + 1) (c :: inner) with
        | (name, '\x7d' :: rest) =>
          match String.ofList name with
          | "start" => some (.assertion .wordStart, rest)
          | "end" => some (.assertion .wordEnd, rest)
          | "start-half" => some (.assertion .wordStartHalf, rest)
          | "end-half" => some (.assertion .wordEndHalf, rest)
          | _ => none
        | _ => none
      else some (.assertion .wordBoundary, cs)
  | _ => some (.assertion .wordBoundary, cs)

/-! ## Escapes -/

/-- The characters with a meaning of their own in patterns. -/
def isMeta (c : Char) : Bool :=
  c ∈ ['\\', '.', '+', '*', '?', '(', ')', '|', '[', ']', '\x7b', '\x7d', '^', '$', '#', '&', '-',
    '~']

/-- The characters that a backslash makes literal: ASCII, without letters, digits and angles. -/
def isEscapable (c : Char) : Bool :=
  isMeta c || c.toNat < 0x80 && !c.isAlphanum && c ≠ '<' && c ≠ '>'

/-- What follows a backslash. -/
def readEscape (spaced : Bool) : List Char → Option (Atom × List Char)
  | [] => none
  | c :: rest =>
    match c with
    | 'x' => readHex spaced 2 rest
    | 'u' => readHex spaced 4 rest
    | 'U' => readHex spaced 8 rest
    | 'p' => readProperty spaced false rest
    | 'P' => readProperty spaced true rest
    | 'd' => some (.perl .digit false, rest)
    | 'D' => some (.perl .digit true, rest)
    | 's' => some (.perl .space false, rest)
    | 'S' => some (.perl .space true, rest)
    | 'w' => some (.perl .word false, rest)
    | 'W' => some (.perl .word true, rest)
    | 'a' => some (.literal '\x07' false, rest)
    | 'f' => some (.literal '\x0c' false, rest)
    | 't' => some (.literal '\t' false, rest)
    | 'n' => some (.literal '\n' false, rest)
    | 'r' => some (.literal '\r' false, rest)
    | 'v' => some (.literal '\x0b' false, rest)
    | 'A' => some (.assertion .textStart, rest)
    | 'z' => some (.assertion .textEnd, rest)
    | 'b' => readBoundary spaced rest
    | 'B' => some (.assertion .notWordBoundary, rest)
    | '<' => some (.assertion .wordStart, rest)
    | '>' => some (.assertion .wordEnd, rest)
    | c => if isEscapable c then some (.literal c false, rest) else none

end CivicForum.Pattern
