import CivicForum.Pattern.Expr
import CivicForum.Pattern.Tree
import CivicForum.Text.Category
import CivicForum.Text.Folding
import CivicForum.Text.Script

/-! # What patterns mean

* `Mode`: the switches in force; patterns of the watchlist start caseless and over Unicode.
* `Pattern.propertyClass?`: the characters with a Unicode property.
* `ClassTree.set?`: the characters of a bracketed class.
* `Tree.expr?`: the regular expression of a pattern. Without the Unicode switch, what could match
  part of a character is refused.
-/

set_option autoImplicit false

namespace CivicForum.Pattern

/-! ## Switches in force -/

/-- The switches in force. -/
structure Mode where
  caseless : Bool := true
  multiLine : Bool := false
  dotMatchesAll : Bool := false
  unicode : Bool := true
  crlf : Bool := false
  deriving Repr, DecidableEq

def Mode.set (m : Mode) : Switch × Bool → Mode
  | (.caseless, on) => { m with caseless := on }
  | (.multiLine, on) => { m with multiLine := on }
  | (.dotMatchesAll, on) => { m with dotMatchesAll := on }
  | (.unicode, on) => { m with unicode := on }
  | (.crlf, on) => { m with crlf := on }
  | (.swapGreed, _) => m
  | (.spaced, _) => m

def Mode.apply (m : Mode) (changes : Changes) : Mode := changes.foldl Mode.set m

/-! ## Named classes -/

/-- A name without case, blanks, dashes and underscores, and without `is` in front of it. -/
def plainName (name : String) : String :=
  let cs := name.toList
  let (isPrefixed, cs) : Bool × List Char :=
    match cs with
    | a :: b :: rest =>
      if (a = 'i' || a = 'I') && (b = 's' || b = 'S') then (true, rest) else (false, cs)
    | _ => (false, cs)
  let kept := (cs.filter fun c => c.toNat < 0x80 && c ≠ ' ' && c ≠ '_' && c ≠ '-').map Char.toLower
  if isPrefixed && kept = ['c'] then "isc" else String.ofList kept

/-- The characters of a general category, or of one of the names that cover whole areas. -/
def categoryClass? (name : String) : Option CharSet :=
  match name with
  | "any" => some .full
  | "assigned" => some (Text.ofCategories ["Cn"]).compl
  | "ascii" => some ⟨[(0, 0x7F)]⟩
  | _ => Text.category? name

/-- The characters with a Unicode property. A single name is a property, a category or a script, in
this order; three names that belong to a category and a property stand for the category. -/
def propertyClass? : PropertyName → Option CharSet
  | .single name =>
    let n := plainName name
    let property := if n ∈ ["cf", "sc", "lc"] then none else Text.property? n
    (property.orElse fun _ => categoryClass? n).orElse fun _ => Text.script? n
  | .valued property value =>
    let v := plainName value
    match plainName property with
    | "gc" => categoryClass? v
    | "generalcategory" => categoryClass? v
    | "sc" => Text.script? v
    | "script" => Text.script? v
    | "scx" => Text.scriptExtension? v
    | "scriptextensions" => Text.scriptExtension? v
    | _ => none

def asciiRanges : AsciiClass → List (Char × Char)
  | .alnum => [('0', '9'), ('A', 'Z'), ('a', 'z')]
  | .alpha => [('A', 'Z'), ('a', 'z')]
  | .ascii => [('\x00', '\x7F')]
  | .blank => [('\t', '\t'), (' ', ' ')]
  | .cntrl => [('\x00', '\x1F'), ('\x7F', '\x7F')]
  | .digit => [('0', '9')]
  | .graph => [('!', '~')]
  | .lower => [('a', 'z')]
  | .print => [(' ', '~')]
  | .punct => [('!', '/'), (':', '@'), ('[', '`'), ('\x7b', '~')]
  | .space => [('\t', '\r'), (' ', ' ')]
  | .upper => [('A', 'Z')]
  | .word => [('0', '9'), ('A', 'Z'), ('_', '_'), ('a', 'z')]
  | .xdigit => [('0', '9'), ('A', 'F'), ('a', 'f')]

def asciiSet (k : AsciiClass) : CharSet :=
  ⟨(asciiRanges k).map fun r => (r.1.toNat, r.2.toNat)⟩

/-- The characters of a class written with one letter. -/
def perlSet (unicode : Bool) : PerlClass → CharSet
  | .digit => if unicode then Text.ofCategories ["Nd"] else asciiSet .digit
  | .space => if unicode then Text.blankChars else asciiSet .space
  | .word => if unicode then Text.wordChars else asciiSet .word

/-! ## Case -/

/-- The ASCII letters of a set in both cases. -/
def asciiCaseClosure (s : CharSet) : CharSet :=
  let moved (lo hi : Nat) (shift : Int) : List (Nat × Nat) :=
    (List.range (hi + 1 - lo)).filterMap fun i =>
      let n := lo + i
      if s.containsCode n then
        let m := ((n : Int) + shift).toNat
        some (m, m)
      else none
  s.union (.normalize (moved 0x41 0x5A 32 ++ moved 0x61 0x7A (-32)))

namespace Mode

/-- The set with the case variants that the mode asks for. -/
def folded (m : Mode) (s : CharSet) : CharSet :=
  if m.caseless then if m.unicode then s.caseClosure else asciiCaseClosure s else s

/-- The characters that are not in the set; only over Unicode. -/
def negated? (m : Mode) (negated : Bool) (s : CharSet) : Option CharSet :=
  if negated then if m.unicode then some s.compl else none else some s

/-- A character that stands for itself is one of the mode: without Unicode it must not be written
as a byte beyond ASCII. -/
def allowsByte (m : Mode) (c : Char) (isByte : Bool) : Bool :=
  m.unicode || !isByte || c.toNat < 0x80

/-- A character can be an item of a class; without Unicode, only an ASCII one. -/
def allowsItem (m : Mode) (c : Char) : Bool := m.unicode || c.toNat < 0x80

/-- The characters of a property; only over Unicode. -/
def propertySet? (m : Mode) (p : PropertyName) (negated : Bool) : Option CharSet :=
  if m.unicode then (propertyClass? p).bind fun s => m.negated? negated (m.folded s) else none

end Mode

/-! ## Classes -/

mutual

/-- The characters of a class. -/
def ClassTree.set? (m : Mode) : ClassTree → Option CharSet
  | .literal c _ => if m.allowsItem c then some (.single c) else none
  | .range lo _ hi _ =>
    if m.allowsItem lo && m.allowsItem hi then some ⟨[(lo.toNat, hi.toNat)]⟩ else none
  | .ascii k negated => m.negated? negated (m.folded (asciiSet k))
  | .perl k negated => m.negated? negated (perlSet m.unicode k)
  | .property p negated => m.propertySet? p negated
  | .bracketed negated inner => (inner.set? m).bind fun s => m.negated? negated (m.folded s)
  | .union items => ClassTree.setOfItems? m items
  | .op k lhs rhs => do
    let a := m.folded (← lhs.set? m)
    let b := m.folded (← rhs.set? m)
    match k with
    | .inter => return a.inter b
    | .diff => return a.diff b
    | .symmDiff => return a.symmDiff b

/-- The characters of some items together. -/
def ClassTree.setOfItems? (m : Mode) : List ClassTree → Option CharSet
  | [] => some .empty
  | t :: ts => do
    let a ← t.set? m
    let b ← ClassTree.setOfItems? m ts
    return a.union b

end

/-! ## Atoms -/

/-- The condition that an assertion makes in a mode. -/
def Assertion.look (m : Mode) : Assertion → Look
  | .lineStart => if m.multiLine then if m.crlf then .crlfStart else .lineStart else .textStart
  | .lineEnd => if m.multiLine then if m.crlf then .crlfEnd else .lineEnd else .textEnd
  | .textStart => .textStart
  | .textEnd => .textEnd
  | .wordBoundary => .wordBoundary m.unicode
  | .notWordBoundary => .notWordBoundary m.unicode
  | .wordStart => .wordStart m.unicode
  | .wordEnd => .wordEnd m.unicode
  | .wordStartHalf => .wordStartHalf m.unicode
  | .wordEndHalf => .wordEndHalf m.unicode

/-- A character in the cases that the mode asks for. -/
def literalSet (m : Mode) (c : Char) : CharSet :=
  if m.caseless then
    if m.unicode then .caseVariants c
    else if c.isAlpha then
      ⟨[(c.toUpper.toNat, c.toUpper.toNat), (c.toLower.toNat, c.toLower.toNat)]⟩
    else .single c
  else .single c

def Atom.expr? (m : Mode) : Atom → Option Expr
  | .literal c isByte => if m.allowsByte c isByte then some (.set (literalSet m c)) else none
  | .assertion a => some (.look (a.look m))
  | .perl k negated => (m.negated? negated (perlSet m.unicode k)).map .set
  | .property p negated => (m.propertySet? p negated).map .set

/-- What a dot matches; only over Unicode. -/
def dotSet? (m : Mode) : Option CharSet :=
  if !m.unicode then none
  else if m.dotMatchesAll then some .full
  else if m.crlf then some (CharSet.compl ⟨[(0x0A, 0x0A), (0x0D, 0x0D)]⟩)
  else some (CharSet.single '\n').compl

/-! ## Patterns -/

mutual

/-- The regular expression of a pattern in a mode, and the mode after it. -/
def Tree.expr? (m : Mode) : Tree → Option (Expr × Mode)
  | .empty => some (.empty, m)
  | .switch changes => some (.empty, m.apply changes)
  | .dot => (dotSet? m).map fun s => (.set s, m)
  | .atom a => (a.expr? m).map fun e => (e, m)
  | .bracketed negated inner =>
    ((inner.set? m).bind fun s => m.negated? negated (m.folded s)).map fun s => (.set s, m)
  | .repetition t min max => do
    let (e, m) ← t.expr? m
    return (.repetition e min max, m)
  | .group changes captures t => do
    let (e, _) ← t.expr? (m.apply changes)
    return (if captures then .capture e else e, m)
  | .alternation ts => do
    let (es, m) ← Tree.exprs? m ts
    return (.altAll es, m)
  | .sequence ts => do
    let (es, m) ← Tree.exprs? m ts
    return (.concatAll es, m)

/-- The regular expressions of patterns that follow one another, each in the mode that the one
before leaves. -/
def Tree.exprs? (m : Mode) : List Tree → Option (List Expr × Mode)
  | [] => some ([], m)
  | t :: ts => do
    let (e, m) ← t.expr? m
    let (es, m) ← Tree.exprs? m ts
    return (e :: es, m)

end

end CivicForum.Pattern
