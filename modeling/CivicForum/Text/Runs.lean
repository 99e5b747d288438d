import CivicForum.Text.CharSet
import CivicForum.Text.Number

/-! # Tables of character properties

Tables of code points are written as text, to keep them short.

* `Text.setOfRuns`: the set written as lengths in turn of a run outside the set and of one in it.
* `Text.labelledRuns`: the ranges written as lengths with a label each, which cover every code
  point in ascending order.
-/

set_option autoImplicit false

namespace CivicForum.Text

/-- The pieces of a text between blanks and line breaks, also the empty ones. -/
def piecesOf : List Char → List (List Char)
  | [] => [[]]
  | c :: rest =>
    if c = ' ' ∨ c = '\n' then [] :: piecesOf rest
    else
      match piecesOf rest with
      | w :: ws => (c :: w) :: ws
      | [] => [[c]]

/-- The words of a text, divided by blanks and line breaks. -/
def wordsOf (cs : List Char) : List (List Char) := (piecesOf cs).filter (· ≠ [])

/-- The ranges inside, from runs outside and inside in turn. -/
def rangesOfRuns (start : Nat) : List Nat → List (Nat × Nat)
  | outside :: inside :: rest =>
    (start + outside, start + outside + inside - 1) ::
      rangesOfRuns (start + outside + inside) rest
  | _ => []

def setOfRuns (s : String) : CharSet :=
  ⟨rangesOfRuns 0 ((wordsOf s.toList).map ofDigits)⟩

/-- The ranges with their labels, from lengths and labels in turn. -/
def labelled (start : Nat) : List (List Char) → List (Nat × Nat × String)
  | size :: label :: rest =>
    let next := start + ofDigits size
    (start, next - 1, String.ofList label) :: labelled next rest
  | _ => []

def labelledRuns (s : String) : List (Nat × Nat × String) := labelled 0 (wordsOf s.toList)

end CivicForum.Text
