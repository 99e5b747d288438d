import CivicForum.Json.Value
import CivicForum.Text.Number

/-! # Reading JSON text

* `Json.Fault`: why a text is refused; `malformed` when it is no JSON, `misfit` when it is JSON of
  another form than the one asked for.
* `Json.Scan`: a reader that takes a value off the front of a text.
* `Json.readString`, `Json.readNumber`, `Json.readValue`: the readers of the JSON grammar.
* `Json.parse?`: a whole text as one value.
-/

set_option autoImplicit false

namespace CivicForum.Json

open Text

/-- Why a text is refused. -/
inductive Fault where
  | malformed
  | misfit
  deriving Repr, DecidableEq

/-- Takes a value off the front of a text and returns the rest. -/
abbrev Scan (α : Type) := List Char → Except Fault (α × List Char)

/-! ## Blanks and fixed words -/

def isSpace (c : Char) : Bool := c = ' ' || c = '\n' || c = '\t' || c = '\r'

def skipSpaces (cs : List Char) : List Char := cs.dropWhile isSpace

/-- The given characters, and nothing else, at the front of the text. -/
def expect : List Char → List Char → Except Fault (List Char)
  | [], cs => .ok cs
  | w :: ws, c :: cs => if w = c then expect ws cs else .error .malformed
  | _ :: _, [] => .error .malformed

/-! ## Strings -/

/-- The code unit written by four hexadecimal digits. -/
def codeUnit? (a b c d : Char) : Option Nat := do
  let a ← hexValue? a
  let b ← hexValue? b
  let c ← hexValue? c
  let d ← hexValue? d
  return ((a * 16 + b) * 16 + c) * 16 + d

def isHighSurrogate (n : Nat) : Bool := 0xD800 ≤ n && n ≤ 0xDBFF
def isLowSurrogate (n : Nat) : Bool := 0xDC00 ≤ n && n ≤ 0xDFFF

/-- The character that stands for a half of a surrogate pair in a text that is skipped. -/
def replacement : Char := '\uFFFD'

/-- The meaning of a one-letter escape. -/
def simpleEscape? (c : Char) : Option Char :=
  match c with
  | '"' => some '"'
  | '\\' => some '\\'
  | '/' => some '/'
  | 'b' => some '\x08'
  | 'f' => some '\x0c'
  | 'n' => some '\n'
  | 'r' => some '\r'
  | 't' => some '\t'
  | _ => none

/-- Puts a character before the text that a reader found. -/
def consTo (c : Char) : Except Fault (List Char × List Char) → Except Fault (List Char × List Char)
  | .ok (s, rest) => .ok (c :: s, rest)
  | .error e => .error e

/-- The characters up to the closing quote. Half a surrogate pair is refused, unless the text is
only skipped (`lenient`). -/
def readString (lenient : Bool) : Scan (List Char)
  | [] => .error .malformed
  | '"' :: rest => .ok ([], rest)
  | '\\' :: 'u' :: a :: b :: c :: d :: '\\' :: 'u' :: e :: f :: g :: h :: rest =>
    match codeUnit? a b c d with
    | none => .error .malformed
    | some hi =>
      if isHighSurrogate hi then
        match codeUnit? e f g h with
        | none => .error .malformed
        | some lo =>
          if isLowSurrogate lo then
            consTo (Char.ofNat (0x10000 + (hi - 0xD800) * 0x400 + (lo - 0xDC00)))
              (readString lenient rest)
          else if lenient then
            consTo replacement (readString lenient ('\\' :: 'u' :: e :: f :: g :: h :: rest))
          else .error .malformed
      else if isLowSurrogate hi then
        if lenient then
          consTo replacement (readString lenient ('\\' :: 'u' :: e :: f :: g :: h :: rest))
        else .error .malformed
      else
        consTo (Char.ofNat hi) (readString lenient ('\\' :: 'u' :: e :: f :: g :: h :: rest))
  | '\\' :: 'u' :: a :: b :: c :: d :: rest =>
    match codeUnit? a b c d with
    | none => .error .malformed
    | some unit =>
      if isHighSurrogate unit || isLowSurrogate unit then
        if lenient then consTo replacement (readString lenient rest) else .error .malformed
      else consTo (Char.ofNat unit) (readString lenient rest)
  | '\\' :: c :: rest =>
    match simpleEscape? c with
    | some e => consTo e (readString lenient rest)
    | none => .error .malformed
  | c :: rest => if c.toNat < 0x20 then .error .malformed else consTo c (readString lenient rest)

/-! ## Numbers -/

/-- A mantissa and a decimal exponent lie beyond the range of binary64: the value rounds to
infinity. -/
def overflows (mantissa : Nat) (exponent : Int) : Bool :=
  let limit := Nat.pow 2 1024 - Nat.pow 2 970
  if mantissa = 0 then false
  else
    let size := (writeNat mantissa).length + exponent
    if size > 320 then true
    else if size < 300 then false
    else if exponent ≥ 0 then limit ≤ mantissa * Nat.pow 10 exponent.toNat
    else limit * Nat.pow 10 (-exponent).toNat ≤ mantissa

/-- The exponent part of a number: its value and the text it was written in. -/
def readExponent (cs : List Char) : Except Fault (Int × List Char × List Char) :=
  match cs with
  | c :: rest =>
    if c = 'e' || c = 'E' then
      let (sign, digits) : List Char × List Char :=
        match rest with
        | '+' :: r => (['+'], r)
        | '-' :: r => (['-'], r)
        | r => ([], r)
      let ds := digits.takeWhile isDigit
      if ds = [] then .error .malformed
      else
        let n : Int := ofDigits ds
        .ok (if sign = ['-'] then -n else n, c :: sign ++ ds, digits.dropWhile isDigit)
    else .ok (0, [], cs)
  | [] => .ok (0, [], [])

/-- The fraction of a number: its digits, after a point. -/
def readFraction (cs : List Char) : Except Fault (List Char × List Char) :=
  match cs with
  | '.' :: rest =>
    let ds := rest.takeWhile isDigit
    if ds = [] then .error .malformed else .ok (ds, rest.dropWhile isDigit)
  | _ => .ok ([], cs)

/-- A number; one whose value is beyond binary64 is refused, unless it is only skipped. -/
def readNumber (lenient : Bool) : Scan Json := fun cs => do
  let (negative, body) : Bool × List Char :=
    match cs with
    | '-' :: rest => (true, rest)
    | _ => (false, cs)
  let whole := body.takeWhile isDigit
  let rest := body.dropWhile isDigit
  if whole = [] then throw .malformed
  if whole.length > 1 ∧ whole.head? = some '0' then throw .malformed
  let (fraction, rest') ← readFraction rest
  let (exponent, written, rest'') ← readExponent rest'
  let mantissa := ofDigits (whole ++ fraction)
  if !lenient && overflows mantissa (exponent - fraction.length) then throw .malformed
  if fraction = [] ∧ written = [] ∧ !(negative && mantissa = 0) then
    return (.int (if negative then -(mantissa : Int) else mantissa), rest'')
  else
    let sign := if negative then ['-'] else []
    let point := if fraction = [] then [] else '.' :: fraction
    return (.decimal (String.ofList (sign ++ whole ++ point ++ written)), rest'')

/-! ## Values -/

mutual

/-- A value of any form. -/
def readValue (lenient : Bool) : Nat → Scan Json
  | 0, _ => .error .malformed
  | fuel + 1, cs =>
    match skipSpaces cs with
    | [] => .error .malformed
    | 'n' :: rest => do return (.null, ← expect ['u', 'l', 'l'] rest)
    | 't' :: rest => do return (.truth true, ← expect ['r', 'u', 'e'] rest)
    | 'f' :: rest => do return (.truth false, ← expect ['a', 'l', 's', 'e'] rest)
    | '"' :: rest => do
      let (s, rest) ← readString lenient rest
      return (.text (String.ofList s), rest)
    | '[' :: rest =>
      match skipSpaces rest with
      | ']' :: rest => .ok (.list [], rest)
      | rest => do
        let (items, rest) ← readItems lenient fuel rest
        return (.list items, rest)
    | '\x7b' :: rest =>
      match skipSpaces rest with
      | '\x7d' :: rest => .ok (.record [], rest)
      | rest => do
        let (fields, rest) ← readFields lenient fuel rest
        return (.record fields, rest)
    | rest => readNumber lenient rest

/-- The elements of a non-empty list, up to its closing bracket. -/
def readItems (lenient : Bool) : Nat → Scan (List Json)
  | 0, _ => .error .malformed
  | fuel + 1, cs => do
    let (v, rest) ← readValue lenient fuel cs
    match skipSpaces rest with
    | ',' :: rest => do
      let (items, rest) ← readItems lenient fuel rest
      return (v :: items, rest)
    | ']' :: rest => return ([v], rest)
    | _ => throw .malformed

/-- The fields of a non-empty record, up to its closing brace. -/
def readFields (lenient : Bool) : Nat → Scan (List (String × Json))
  | 0, _ => .error .malformed
  | fuel + 1, cs =>
    match skipSpaces cs with
    | '"' :: rest => do
      let (name, rest) ← readString lenient rest
      match skipSpaces rest with
      | ':' :: rest => do
        let (v, rest) ← readValue lenient fuel rest
        match skipSpaces rest with
        | ',' :: rest => do
          let (fields, rest) ← readFields lenient fuel rest
          return ((String.ofList name, v) :: fields, rest)
        | '\x7d' :: rest => return ([(String.ofList name, v)], rest)
        | _ => throw .malformed
      | _ => throw .malformed
    | _ => .error .malformed

end

/-- A text that is one JSON value, blanks around it allowed. -/
def parse? (s : String) : Option Json :=
  match readValue false (2 * s.length + 2) s.toList with
  | .ok (v, rest) => if skipSpaces rest = [] then some v else none
  | .error _ => none

end CivicForum.Json
