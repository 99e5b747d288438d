import CivicForum.Text.Category
import CivicForum.Text.Property

/-! # Quoted text in messages

* `Text.quote`: a text between quotes, as it stands in messages. Quotes, backslashes and the usual
  controls are escaped by a letter; characters that do not show, or that attach to the one before,
  by their code point.
-/

set_option autoImplicit false

namespace CivicForum.Text

/-- The characters that attach to the one before. -/
def attaching : CharSet := (property? "graphemeextend").getD .empty

/-- The character attaches to the one before. -/
def attaches (c : Char) : Bool := 0x7F ≤ c.toNat && attaching.contains c

/-- A code point in hexadecimal digits between braces. -/
def codeEscape (c : Char) : List Char :=
  ['\\', 'u', '\x7b'] ++ writeHex c.toNat ++ ['\x7d']

/-- One character of a quoted text. -/
def quotedChar (c : Char) : List Char :=
  match c with
  | '"' => ['\\', '"']
  | '\\' => ['\\', '\\']
  | '\n' => ['\\', 'n']
  | '\r' => ['\\', 'r']
  | '\t' => ['\\', 't']
  | '\x00' => ['\\', '0']
  | c => if attaches c || !isPrintable c then codeEscape c else [c]

/-- The text between quotes. -/
def quote (s : String) : String :=
  String.ofList ('"' :: (s.toList.flatMap quotedChar ++ ['"']))

end CivicForum.Text
