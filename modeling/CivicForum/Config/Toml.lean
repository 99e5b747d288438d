import CivicForum.Json.Value
import CivicForum.Text.Number

/-! # Reading TOML

A TOML document is read into the value that it means; its tables become records.

* `Toml.Scan`: a reader that takes something off the front of a text.
* `Toml.readKey`, `Toml.readString`, `Toml.readValue`: keys, strings and values.
* `Toml.Node`: a table under construction; what a table was made by decides what may still be added
  to it.
* `Toml.parse?`: the value of a whole document.
-/

set_option autoImplicit false

namespace CivicForum.Toml

open Text

/-- Takes something off the front of a text and returns the rest. -/
abbrev Scan (α : Type) := List Char → Option (α × List Char)

/-! ## Blanks and comments -/

def isBlank (c : Char) : Bool := c = ' ' || c = '\t'

def skipBlanks (cs : List Char) : List Char := cs.dropWhile isBlank

/-- A control character other than the tab stands in no string and no comment. -/
def isControl (c : Char) : Bool := c.toNat < 0x20 && c ≠ '\t' || c.toNat = 0x7F

/-- A line break at the front of a text. -/
def readBreak : List Char → Option (List Char)
  | '\n' :: rest => some rest
  | '\r' :: '\n' :: rest => some rest
  | _ => none

/-- The rest of a text after an optional comment. -/
def skipComment (cs : List Char) : List Char :=
  match cs with
  | '#' :: rest => rest.dropWhile fun c => !isControl c
  | cs => cs

/-- The end of a line: blanks and a comment up to a line break or the end of the text. -/
def readLineEnd (cs : List Char) : Option (List Char) :=
  match skipComment (skipBlanks cs) with
  | [] => some []
  | cs => readBreak cs

/-- Blanks, comments and line breaks. -/
def skipLines : Nat → List Char → List Char
  | 0, cs => cs
  | fuel + 1, cs =>
    let cs := skipComment (skipBlanks cs)
    match readBreak cs with
    | some rest => skipLines fuel rest
    | none => cs

/-! ## Strings -/

/-- The character that a number of hexadecimal digits at the front of a text write. -/
def readCode (width : Nat) (cs : List Char) : Option (Char × List Char) := do
  if cs.length < width then none
  let ds ← (cs.take width).mapM hexValue?
  let n := ds.foldl (fun acc d => acc * 16 + d) 0
  if n.isValidChar then some (Char.ofNat n, cs.drop width) else none

/-- The character that a backslash and what follows it write. -/
def readEscape : Scan Char
  | '"' :: rest => some ('"', rest)
  | '\\' :: rest => some ('\\', rest)
  | 'b' :: rest => some ('\x08', rest)
  | 'f' :: rest => some ('\x0c', rest)
  | 'n' :: rest => some ('\n', rest)
  | 'r' :: rest => some ('\r', rest)
  | 't' :: rest => some ('\t', rest)
  | 'u' :: rest => readCode 4 rest
  | 'U' :: rest => readCode 8 rest
  | _ => none

/-- A string on one line up to its quote; only between double quotes a backslash escapes. -/
def readLine (quote : Char) : Nat → Scan (List Char)
  | 0, _ => none
  | _, [] => none
  | fuel + 1, c :: rest =>
    if c = quote then some ([], rest)
    else if c = '\\' ∧ quote = '"' then do
      let (e, rest) ← readEscape rest
      let (s, rest) ← readLine quote fuel rest
      return (e :: s, rest)
    else if isControl c then none
    else do
      let (s, rest) ← readLine quote fuel rest
      return (c :: s, rest)

/-- The white space that a backslash at the end of a line swallows. -/
def skipFold (cs : List Char) : Option (List Char) := do
  let rest ← readBreak (skipBlanks cs)
  return rest.dropWhile fun c => isBlank c || c = '\n' || c = '\r'

/-- A string over several lines up to its three quotes; two more may belong to the string. -/
def readBlock (quote : Char) : Nat → Scan (List Char)
  | 0, _ => none
  | fuel + 1, cs => do
    let quotes := (cs.takeWhile (· = quote)).length
    if 3 ≤ quotes then
      if quotes ≤ 5 then some (List.replicate (quotes - 3) quote, cs.drop quotes) else none
    else
      match cs with
      | [] => none
      | '\r' :: '\n' :: rest =>
        let (s, rest) ← readBlock quote fuel rest
        return ('\n' :: s, rest)
      | '\n' :: rest =>
        let (s, rest) ← readBlock quote fuel rest
        return ('\n' :: s, rest)
      | c :: rest =>
        if c = '\\' ∧ quote = '"' then
          match skipFold rest with
          | some rest => readBlock quote fuel rest
          | none =>
            let (e, rest) ← readEscape rest
            let (s, rest) ← readBlock quote fuel rest
            return (e :: s, rest)
        else if isControl c then none
        else
          let (s, rest) ← readBlock quote fuel rest
          return (c :: s, rest)

/-- A string of any kind. -/
def readString (cs : List Char) : Option (List Char × List Char) :=
  let block (quote : Char) (rest : List Char) : Option (List Char × List Char) :=
    let rest := (readBreak rest).getD rest
    readBlock quote (rest.length + 1) rest
  match cs with
  | '"' :: '"' :: '"' :: rest => block '"' rest
  | '\'' :: '\'' :: '\'' :: rest => block '\'' rest
  | '"' :: rest => readLine '"' (rest.length + 1) rest
  | '\'' :: rest => readLine '\'' (rest.length + 1) rest
  | _ => none

/-! ## Keys -/

def isKeyChar (c : Char) : Bool := c.isAlphanum || c = '_' || c = '-'

/-- One name of a key: letters, digits, dashes and underscores, or a string on one line. -/
def readName (cs : List Char) : Option (String × List Char) :=
  match cs with
  | '"' :: rest => (readLine '"' (rest.length + 1) rest).map fun (s, r) => (String.ofList s, r)
  | '\'' :: rest => (readLine '\'' (rest.length + 1) rest).map fun (s, r) => (String.ofList s, r)
  | cs =>
    let name := cs.takeWhile isKeyChar
    if name = [] then none else some (String.ofList name, cs.dropWhile isKeyChar)

/-- Names with points between them. -/
def readKey : Nat → Scan (List String)
  | 0, _ => none
  | fuel + 1, cs => do
    let (name, rest) ← readName (skipBlanks cs)
    match skipBlanks rest with
    | '.' :: rest =>
      let (names, rest) ← readKey fuel rest
      return (name :: names, rest)
    | rest => return ([name], rest)

/-! ## Numbers and dates -/

/-- Digits of a base with single underscores between them. -/
def digits? (base : Nat) (cs : List Char) : Option Nat :=
  let rec go (acc : Nat) : List Char → Option Nat
    | [] => some acc
    | '_' :: d :: rest =>
      match hexValue? d with
      | some v => if v < base then go (acc * base + v) rest else none
      | none => none
    | d :: rest =>
      match hexValue? d with
      | some v => if v < base then go (acc * base + v) rest else none
      | none => none
  match cs with
  | [] => none
  | '_' :: _ => none
  | cs => go 0 cs

/-- Decimal digits without a zero in front. -/
def plainDigits? (cs : List Char) : Option Nat :=
  match cs with
  | '0' :: _ :: _ => none
  | cs => digits? 10 cs

/-- A whole number in decimal with a sign, or in another base without one. -/
def int? (cs : List Char) : Option Int :=
  match cs with
  | '0' :: 'x' :: ds => (digits? 16 ds).map (↑·)
  | '0' :: 'o' :: ds => (digits? 8 ds).map (↑·)
  | '0' :: 'b' :: ds => (digits? 2 ds).map (↑·)
  | '-' :: ds => (plainDigits? ds).map fun n => -(n : Int)
  | '+' :: ds => (plainDigits? ds).map (↑·)
  | ds => (plainDigits? ds).map (↑·)

/-- A text with a fraction, an exponent or both after its digits, or the name of a value that is no
number. -/
def isFloat (cs : List Char) : Bool :=
  let unsigned (ds : List Char) : List Char :=
    match ds with
    | '-' :: ds => ds
    | '+' :: ds => ds
    | ds => ds
  let body := unsigned cs
  let isPart (c : Char) : Bool := isDigit c || c = '_'
  let whole := body.takeWhile isPart
  if body = ['i', 'n', 'f'] ∨ body = ['n', 'a', 'n'] then true
  else
    let fraction? : Option (Bool × List Char) :=
      match body.dropWhile isPart with
      | '.' :: rest =>
        (digits? 10 (rest.takeWhile isPart)).map fun _ => (true, rest.dropWhile isPart)
      | rest => some (false, rest)
    match plainDigits? whole, fraction? with
    | some _, some (hasFraction, []) => hasFraction
    | some _, some (_, e :: rest) =>
      (e = 'e' || e = 'E') && (digits? 10 (unsigned rest)).isSome
    | _, _ => false

/-- A date, a time of day, or both with an optional offset, judged by the places of its marks. -/
def isDateTime (cs : List Char) : Bool :=
  let shape := cs.map fun c => if isDigit c then '0' else c
  let date := ['0', '0', '0', '0', '-', '0', '0', '-', '0', '0']
  let time := ['0', '0', ':', '0', '0', ':', '0', '0']
  let isZone (z : List Char) : Bool :=
    z = [] || z = ['Z'] || z = ['z'] || z = ['+', '0', '0', ':', '0', '0'] ||
      z = ['-', '0', '0', ':', '0', '0']
  let isTime (zoned : Bool) (t : List Char) : Bool :=
    t.take 8 = time &&
      match t.drop 8 with
      | '.' :: rest =>
        rest.head? = some '0' &&
          (rest.dropWhile (· = '0') = [] || zoned && isZone (rest.dropWhile (· = '0')))
      | rest => rest = [] || zoned && isZone rest
  isTime false shape || shape = date ||
    shape.take 10 = date &&
      match shape.drop 10 with
      | c :: rest => (c = 'T' || c = 't' || c = ' ') && isTime true rest
      | [] => false

/-- The value of a word that is no string: a truth value, a number or a date. A date is a record
with a field of its own. -/
def word? (cs : List Char) : Option Json :=
  if cs = ['t', 'r', 'u', 'e'] then some (.truth true)
  else if cs = ['f', 'a', 'l', 's', 'e'] then some (.truth false)
  else
    match int? cs with
    | some n => if isWord n then some (.int n) else none
    | none =>
      if isFloat cs then some (.decimal (String.ofList cs))
      else if isDateTime cs then some (.record [("datetime", .text (String.ofList cs))])
      else none

/-- A word; a blank belongs to it only between a date and a time of day. -/
def readWord (cs : List Char) : Option (Json × List Char) := do
  let isPart (c : Char) : Bool := c.isAlphanum || c ∈ ['_', '+', '-', '.', ':']
  let word := cs.takeWhile isPart
  let rest := cs.dropWhile isPart
  let joined : List Char × List Char :=
    match rest with
    | ' ' :: d :: more =>
      if isDateTime word && word.length = 10 && isDigit d then
        (word ++ ' ' :: (d :: more).takeWhile isPart, (d :: more).dropWhile isPart)
      else (word, rest)
    | rest => (word, rest)
  return (← word? joined.1, joined.2)

/-! ## Tables under construction -/

/-- What a table was made by. -/
inductive Origin where
  /-- A header of a table inside it. -/
  | implied
  /-- A header of its own. -/
  | header
  /-- A key with points. -/
  | dotted
  deriving DecidableEq, Repr

/-- What stands under a name. -/
inductive Node where
  | value (v : Json)
  | table (origin : Origin) (fields : List (String × Node))
  /-- A list of tables; the latest one comes first. -/
  | series (tables : List (List (String × Node)))

abbrev Fields := List (String × Node)

/-- Puts a node under a name, in place of what stands there. -/
def setField (name : String) (n : Node) : Fields → Fields
  | [] => [(name, n)]
  | (m, old) :: rest => if m = name then (name, n) :: rest else (m, old) :: setField name n rest

/-- Changes the table that a path leads to; tables on the way are made as needed. A key with points
does not enter a table that has a header. -/
def within (origin : Origin) (change : Fields → Option Fields) :
    List String → Fields → Option Fields
  | [], fields => change fields
  | name :: path, fields => do
    match fields.lookup name with
    | none => return setField name (.table origin (← within origin change path [])) fields
    | some (.table o inner) =>
      if origin = .dotted ∧ o = .header then none
      else return setField name (.table o (← within origin change path inner)) fields
    | some (.series (latest :: older)) =>
      if origin = .dotted then none
      else return setField name (.series ((← within origin change path latest) :: older)) fields
    | some _ => none

/-- Adds a value under a name that is still free. -/
def addValue (name : String) (v : Json) (fields : Fields) : Option Fields :=
  match fields.lookup name with
  | none => some (setField name (.value v) fields)
  | some _ => none

/-- Opens a table under a name; one that a header implied may be opened once. -/
def openTable (name : String) (fields : Fields) : Option Fields :=
  match fields.lookup name with
  | none => some (setField name (.table .header []) fields)
  | some (.table .implied inner) => some (setField name (.table .header inner) fields)
  | some _ => none

/-- Opens one more table of a list. -/
def openSeries (name : String) (fields : Fields) : Option Fields :=
  match fields.lookup name with
  | none => some (setField name (.series [[]]) fields)
  | some (.series tables) => some (setField name (.series ([] :: tables)) fields)
  | some _ => none

mutual

/-- The value that a node means. -/
def Node.toJson : Node → Json
  | .value v => v
  | .table _ fields => .record (fieldsJson fields)
  | .series tables => .list (seriesJson tables).reverse

def fieldsJson : List (String × Node) → List (String × Json)
  | [] => []
  | (name, n) :: rest => (name, n.toJson) :: fieldsJson rest

def seriesJson : List (List (String × Node)) → List Json
  | [] => []
  | fields :: rest => .record (fieldsJson fields) :: seriesJson rest

end

/-- Adds a value under a key with points to a table. -/
def addKey (key : List String) (v : Json) (fields : Fields) : Option Fields := do
  within .dotted (addValue (← key.getLast?) v) key.dropLast fields

/-! ## Values -/

mutual

/-- A value of any kind. -/
def readValue : Nat → Scan Json
  | 0, _ => none
  | fuel + 1, cs =>
    match cs with
    | '[' :: rest => do
      let (items, rest) ← readItems fuel rest
      return (.list items, rest)
    | '\x7b' :: rest =>
      match skipBlanks rest with
      | '\x7d' :: rest => some (.record [], rest)
      | rest => do
        let (fields, rest) ← readInline fuel [] rest
        return (.record (fieldsJson fields), rest)
    | '"' :: _ => (readString cs).map fun (s, rest) => (.text (String.ofList s), rest)
    | '\'' :: _ => (readString cs).map fun (s, rest) => (.text (String.ofList s), rest)
    | cs => readWord cs

/-- The elements of a list, which may span lines, up to its closing bracket. -/
def readItems : Nat → Scan (List Json)
  | 0, _ => none
  | fuel + 1, cs => do
    match skipLines cs.length cs with
    | ']' :: rest => return ([], rest)
    | cs =>
      let (v, rest) ← readValue fuel cs
      match skipLines rest.length rest with
      | ']' :: rest => return ([v], rest)
      | ',' :: rest =>
        let (items, rest) ← readItems fuel rest
        return (v :: items, rest)
      | _ => none

/-- The fields of a table on one line, up to its closing brace. -/
def readInline : Nat → Fields → Scan Fields
  | 0, _, _ => none
  | fuel + 1, fields, cs => do
    let (key, rest) ← readKey (cs.length + 1) cs
    match rest with
    | '=' :: rest =>
      let (v, rest) ← readValue fuel (skipBlanks rest)
      let fields ← addKey key v fields
      match skipBlanks rest with
      | '\x7d' :: rest => return (fields, rest)
      | ',' :: rest => readInline fuel fields rest
      | _ => none
    | _ => none

end

/-! ## Documents -/

/-- A document from the start of a line on; `path` is the table that its keys belong to. -/
def readLines : Nat → List String → Fields → List Char → Option Fields
  | 0, _, _, _ => none
  | fuel + 1, path, fields, cs => do
    match skipLines (cs.length + 1) cs with
    | [] => return fields
    | '[' :: '[' :: rest =>
      let (key, rest) ← readKey (rest.length + 1) rest
      match rest with
      | ']' :: ']' :: rest =>
        let fields ← within .implied (openSeries (← key.getLast?)) key.dropLast fields
        readLines fuel key fields (← readLineEnd rest)
      | _ => none
    | '[' :: rest =>
      let (key, rest) ← readKey (rest.length + 1) rest
      match rest with
      | ']' :: rest =>
        let fields ← within .implied (openTable (← key.getLast?)) key.dropLast fields
        readLines fuel key fields (← readLineEnd rest)
      | _ => none
    | cs =>
      let (key, rest) ← readKey (cs.length + 1) cs
      match rest with
      | '=' :: rest =>
        let (v, rest) ← readValue (rest.length + 1) (skipBlanks rest)
        let fields ← within .implied (addKey key v) path fields
        readLines fuel path fields (← readLineEnd rest)
      | _ => none

/-- The value of a whole document. -/
def parse? (s : String) : Option Json :=
  (readLines (s.length + 1) [] [] s.toList).map fun fields => .record (fieldsJson fields)

end CivicForum.Toml
