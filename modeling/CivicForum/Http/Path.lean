import CivicForum.Content.Basic
import CivicForum.Member.Basic
import CivicForum.Named
import CivicForum.Text.Number

/-! # Paths

* `Http.segments`: the parts of a path between slashes, the query left out.
* `Http.percentDecode?`: the text that a part of a path stands for.
* `Http.readId?`, `Http.readKind?`, `Http.readEvent?`: parameters of paths.
-/

set_option autoImplicit false

namespace CivicForum.Http

/-! ## Parts of a path -/

/-- The parts of a text between slashes. -/
def splitSlashes : List Char → List (List Char)
  | [] => [[]]
  | c :: rest =>
    if c = '/' then [] :: splitSlashes rest
    else
      match splitSlashes rest with
      | part :: parts => (c :: part) :: parts
      | [] => [[c]]

/-- The parts of the path of a request target, which starts with a slash; a query or a fragment is
left out. -/
def segments (target : String) : Option (List (List Char)) :=
  match target.toList.takeWhile fun c => c ≠ '?' && c ≠ '#' with
  | '/' :: rest => some (splitSlashes rest)
  | _ => none

/-! ## Escaped characters -/

/-- The bytes of a text in which a percent sign and two hexadecimal digits stand for a byte; any
other percent sign stands for itself. -/
def percentBytes : List Char → List UInt8
  | [] => []
  | '%' :: a :: b :: rest =>
    match Text.hexValue? a, Text.hexValue? b with
    | some x, some y => (x * 16 + y).toUInt8 :: percentBytes rest
    | _, _ => (String.singleton '%').toUTF8.toList ++ percentBytes (a :: b :: rest)
  | c :: rest => (String.singleton c).toUTF8.toList ++ percentBytes rest

/-- The text that a part of a path stands for; nothing when its bytes are no text. -/
def percentDecode? (cs : List Char) : Option (List Char) :=
  if '%' ∈ cs then (String.fromUTF8? ⟨(percentBytes cs).toArray⟩).map String.toList else some cs

/-! ## Parameters -/

/-- An identifier: a signed 64-bit number in decimal. -/
def readId? (part : List Char) : Option Int := (percentDecode? part).bind Text.readWord?

/-- A kind of content by name. -/
def readKind? (part : List Char) : Option Content.Kind :=
  (percentDecode? part).bind fun cs => Named.ofWire? (String.ofList cs)

/-- A reputation event by name. -/
def readEvent? (part : List Char) : Option Member.Counter :=
  (percentDecode? part).bind fun cs =>
    match String.ofList cs with
    | "comment_approved" => some .approvedComments
    | "flag_upheld" => some .upheldFlags
    | "report_validated" => some .validatedReports
    | _ => none

end CivicForum.Http
