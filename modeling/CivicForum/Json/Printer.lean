import CivicForum.Json.Value
import CivicForum.Text.Number

/-! # Compact JSON text

* `Json.write`: a value as JSON text without blanks, the characters in a list.
* `Json.compact`: the same text as a string.
* `Json.quoted`: a JSON string literal; a quote, a backslash and the control characters are
  escaped, everything else stands for itself.
-/

set_option autoImplicit false

namespace CivicForum.Json

/-- One character inside a string literal. -/
def escaped (c : Char) : List Char :=
  match c with
  | '"' => ['\\', '"']
  | '\\' => ['\\', '\\']
  | '\n' => ['\\', 'n']
  | '\r' => ['\\', 'r']
  | '\t' => ['\\', 't']
  | '\x08' => ['\\', 'b']
  | '\x0c' => ['\\', 'f']
  | c =>
    if c.toNat < 0x20 then
      ['\\', 'u', '0', '0'] ++ [Text.hexDigit (c.toNat / 16), Text.hexDigit (c.toNat % 16)]
    else [c]

def quoted (s : List Char) : List Char :=
  '"' :: (s.flatMap escaped ++ ['"'])

mutual

/-- The value as JSON text without blanks. -/
def write : Json → List Char
  | .null => ['n', 'u', 'l', 'l']
  | .truth true => ['t', 'r', 'u', 'e']
  | .truth false => ['f', 'a', 'l', 's', 'e']
  | .int n => Text.writeInt n
  | .decimal t => t.toList
  | .text s => quoted s.toList
  | .list items => '[' :: writeItems items
  | .record fields => '\x7b' :: writeFields fields

/-- The elements of a list and its closing bracket. -/
def writeItems : List Json → List Char
  | [] => [']']
  | [v] => v.write ++ [']']
  | v :: w :: rest => v.write ++ ',' :: writeItems (w :: rest)

/-- The fields of a record and its closing brace. -/
def writeFields : List (String × Json) → List Char
  | [] => ['\x7d']
  | [(name, v)] => quoted name.toList ++ ':' :: (v.write ++ ['\x7d'])
  | (name, v) :: f :: rest =>
    quoted name.toList ++ ':' :: (v.write ++ ',' :: writeFields (f :: rest))

end

/-- The value as compact JSON text. -/
def compact (v : Json) : String := String.ofList v.write

end CivicForum.Json
