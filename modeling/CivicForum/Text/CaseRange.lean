/-! # Tables of case mappings

* `Text.CaseRange`: code points at a fixed stride that all move by the same distance.
* `Text.CaseRange.image?`, `Text.CaseRange.preimage?`: where such a range sends a code point, and
  what it sends there.
-/

set_option autoImplicit false

namespace CivicForum.Text

/-- The code points `first`, `first + stride`, … up to `last`, each mapped `shift` further. -/
structure CaseRange where
  first : Nat
  last : Nat
  stride : Nat
  shift : Int
  deriving Repr, DecidableEq

namespace CaseRange

def contains (r : CaseRange) (n : Nat) : Bool :=
  r.first ≤ n && n ≤ r.last && (n - r.first) % r.stride = 0

/-- The image of a code point of the range. -/
def image? (r : CaseRange) (n : Nat) : Option Nat :=
  if r.contains n then some ((n : Int) + r.shift).toNat else none

/-- The code point of the range with this image. -/
def preimage? (r : CaseRange) (n : Nat) : Option Nat :=
  let m := (n : Int) - r.shift
  if 0 ≤ m ∧ r.contains m.toNat then some m.toNat else none

/-- Every code point of the range with its image. -/
def pairs (r : CaseRange) : List (Nat × Nat) :=
  (List.range ((r.last - r.first) / r.stride + 1)).map fun i =>
    let n := r.first + i * r.stride
    (n, ((n : Int) + r.shift).toNat)

end CaseRange

end CivicForum.Text
