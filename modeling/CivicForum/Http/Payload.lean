/-! # The content of requests

* `Http.bodyLimit`: how long the content of a request may be.
* `Http.encode`: the bytes of a text.
* `Http.decode`: the text that bytes stand for. Bytes that belong to no character are kept apart, so
  that a reader of JSON may pass over them in what it skips and refuses them everywhere else.
-/

set_option autoImplicit false

namespace CivicForum.Http

/-- The largest number of bytes that is read of a request. -/
def bodyLimit : Nat := 2097152

/-- The bytes of a text. -/
def encode (s : String) : List UInt8 := s.toUTF8.data.toList

/-- The text whose bytes these are. -/
def text? (bytes : List UInt8) : Option String := String.fromUTF8? ⟨bytes.toArray⟩

/-- How many bytes the character at the front takes. -/
def width? (bytes : List UInt8) : Option Nat :=
  [1, 2, 3, 4].find? fun n => (text? (bytes.take n)).isSome

/-- What stands for a byte that belongs to no character: half a surrogate pair between two letters,
which is no JSON outside a string literal and no text inside one. -/
def stray : List Char := ['x', '\\', 'u', 'd', '8', '0', '0', 'x']

/-- The characters that bytes stand for, with a mark for each byte that belongs to none. -/
def decodeChars : List UInt8 → List Char
  | [] => []
  | b :: rest =>
    match width? (b :: rest) with
    | some n =>
      ((text? ((b :: rest).take n)).map String.toList).getD [] ++ decodeChars (rest.drop (n - 1))
    | none => stray ++ decodeChars rest
termination_by bytes => bytes.length

/-- The text that bytes stand for. -/
def decode (bytes : List UInt8) : String :=
  (text? bytes).getD (String.ofList (decodeChars bytes))

end CivicForum.Http
