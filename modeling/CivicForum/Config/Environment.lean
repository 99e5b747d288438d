import CivicForum.Json.Value
import CivicForum.Text.Blank
import CivicForum.Text.Number

/-! # Settings from the environment

A variable whose name starts with `CIVICMOD_` gives one setting: the rest of its name, in lower
case, with points between the names of nested records.

* `Environment.readText`: the value that the text of a variable writes. A text that is no number,
  truth value, quoted string, list or record stands for itself.
* `Environment.overlay`: settings with others laid over them; records are joined name by name, and
  lists are put one after the other.
* `Environment.settings`: the settings of all variables.
-/

set_option autoImplicit false

namespace CivicForum.Environment

open Text

/-! ## Values of variables -/

def isSpace (c : Char) : Bool := c = ' ' || c = '\t' || c = '\n' || c = '\r' || c = '\x0c'

def skipSpaces (cs : List Char) : List Char := cs.dropWhile isSpace

/-- The characters that end a bare value. -/
def isMark (c : Char) : Bool := c ∈ [',', '\x7b', '\x7d', '[', ']']

def isNameChar (c : Char) : Bool := c.isAlphanum || c = '_' || c = '-'

/-- Four or eight hexadecimal digits as a character. -/
def readCode (width : Nat) (cs : List Char) : Option (Char × List Char) := do
  if cs.length < width then none
  let ds ← (cs.take width).mapM hexValue?
  let n := ds.foldl (fun acc d => acc * 16 + d) 0
  if n.isValidChar then some (Char.ofNat n, cs.drop width) else none

/-- The characters of a string up to its closing quote. -/
def readQuoted : Nat → List Char → Option (List Char × List Char)
  | 0, _ => none
  | _, [] => none
  | _, '"' :: rest => some ([], rest)
  | fuel + 1, '\\' :: e :: rest => do
    let (c, rest) ←
      match e with
      | '"' => some ('"', rest)
      | '\\' => some ('\\', rest)
      | 'b' => some ('\x08', rest)
      | 'f' => some ('\x0c', rest)
      | 'n' => some ('\n', rest)
      | 'r' => some ('\r', rest)
      | 't' => some ('\t', rest)
      | 'u' => readCode 4 rest
      | 'U' => readCode 8 rest
      | _ => none
    let (s, rest) ← readQuoted fuel rest
    return (c :: s, rest)
  | fuel + 1, c :: rest => do
    let (s, rest) ← readQuoted fuel rest
    return (c :: s, rest)

/-- Digits with an optional point among them, and an optional exponent, form a number. -/
def isDecimal (cs : List Char) : Bool :=
  let unsigned (ds : List Char) : List Char :=
    match ds with
    | '-' :: ds => ds
    | '+' :: ds => ds
    | ds => ds
  let body := unsigned cs
  let whole := body.takeWhile isDigit
  let (fraction, rest) :=
    match body.dropWhile isDigit with
    | '.' :: rest => (rest.takeWhile isDigit, rest.dropWhile isDigit)
    | rest => ([], rest)
  whole ++ fraction ≠ [] &&
    match rest with
    | [] => true
    | e :: rest => (e = 'e' || e = 'E') && (readNat? (unsigned rest)).isSome

/-- A bare value: a number, or the text itself without blanks at its ends. -/
def bare (cs : List Char) : Json :=
  let cs := trim cs
  if '.' ∈ cs ∧ isDecimal cs then .decimal (String.ofList cs)
  else
    match cs with
    | '-' :: ds =>
      match readNat? ds with
      | some n => .int (-(n : Int))
      | none => .text (String.ofList cs)
    | cs =>
      let ds := if cs.head? = some '+' then cs.drop 1 else cs
      match readNat? ds with
      | some n => .int n
      | none => .text (String.ofList cs)

mutual

/-- A value at the front of a text, with the blanks around it. -/
def readValue : Nat → List Char → Option (Json × List Char)
  | 0, _ => none
  | fuel + 1, cs => do
    let (v, rest) ←
      match skipSpaces cs with
      | 't' :: 'r' :: 'u' :: 'e' :: rest => some (.truth true, rest)
      | 'f' :: 'a' :: 'l' :: 's' :: 'e' :: rest => some (.truth false, rest)
      | '\x7b' :: rest => (readRecord fuel rest).map fun (fs, rest) => (.record fs, rest)
      | '[' :: rest => (readList fuel rest).map fun (vs, rest) => (.list vs, rest)
      | '"' :: rest =>
        (readQuoted (rest.length + 1) rest).map fun (s, rest) => (.text (String.ofList s), rest)
      | '\'' :: c :: '\'' :: rest => some (.text (String.singleton c), rest)
      | cs =>
        if cs.head? = some '\'' then none
        else some (bare (cs.takeWhile (!isMark ·)), cs.dropWhile (!isMark ·))
    return (v, skipSpaces rest)

/-- The elements of a list up to its closing bracket. -/
def readList : Nat → List Char → Option (List Json × List Char)
  | 0, _ => none
  | _, ']' :: rest => some ([], rest)
  | fuel + 1, cs => do
    let (v, rest) ← readValue fuel cs
    match rest with
    | ',' :: rest =>
      let (vs, rest) ← readList fuel rest
      return (v :: vs, rest)
    | ']' :: rest => return ([v], rest)
    | _ => none

/-- The fields of a record up to its closing brace; of two with one name the later one counts. -/
def readRecord : Nat → List Char → Option (List (String × Json) × List Char)
  | 0, _ => none
  | _, '\x7d' :: rest => some ([], rest)
  | fuel + 1, cs => do
    let (name, rest) ←
      match skipSpaces cs with
      | '"' :: rest => readQuoted (rest.length + 1) rest
      | cs =>
        let name := cs.takeWhile isNameChar
        if name = [] then none else some (name, cs.dropWhile isNameChar)
    match skipSpaces rest with
    | '=' :: rest =>
      let (v, rest) ← readValue fuel rest
      match rest with
      | ',' :: rest =>
        let (fs, rest) ← readRecord fuel rest
        let name := String.ofList name
        return (if (fs.lookup name).isSome then fs else (name, v) :: fs, rest)
      | '\x7d' :: rest => return ([(String.ofList name, v)], rest)
      | _ => none
    | _ => none

end

/-- The value that the text of a variable writes. -/
def readText (s : String) : Json :=
  match readValue (2 * s.length + 2) s.toList with
  | some (v, []) => v
  | _ => .text s

/-! ## Laying settings over others -/

mutual

/-- A value with another one laid over it. -/
def overlay : Json → Json → Json
  | .record base, .record top => .record (overlayFields base top)
  | .list base, .list top => .list (base ++ top)
  | _, top => top

/-- The fields of a record with others laid over them, followed by the names that are new. -/
def overlayFields : List (String × Json) → List (String × Json) → List (String × Json)
  | [], top => top
  | (name, v) :: base, top =>
    let rest := overlayFields base (top.filter fun f => f.1 ≠ name)
    match top.lookup name with
    | some w => (name, overlay v w) :: rest
    | none => (name, v) :: rest

end

/-! ## Variables -/

/-- How the names of the service's variables start. -/
def mark : List Char := ['c', 'i', 'v', 'i', 'c', 'm', 'o', 'd', '_']

/-- The names of the setting that a variable gives, outermost first. -/
def path? (name : String) : Option (List String) :=
  let cs := name.toList.map Char.toLower
  if cs.take mark.length = mark then
    match trim (cs.drop mark.length) with
    | [] => none
    | cs => some ((String.ofList cs).splitOn ".")
  else none

/-- A value under nested names. -/
def nest (v : Json) : List String → Json
  | [] => v
  | name :: path => .record [(name, nest v path)]

/-- The settings of all variables, later ones laid over earlier ones. -/
def settings (vars : List (String × String)) : Json :=
  vars.foldl (fun acc (name, text) =>
    match path? name with
    | some path => overlay acc (nest (readText text) path)
    | none => acc) (.record [])

end CivicForum.Environment
