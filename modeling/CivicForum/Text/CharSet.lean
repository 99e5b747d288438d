/-! # Sets of characters

* `CharSet`: a set of code points as closed ranges in ascending order.
* `CharSet.normalize`: the set of any list of ranges.
* `CharSet.union`, `CharSet.inter`, `CharSet.diff`, `CharSet.symmDiff`, `CharSet.compl`: the set
  operations.
-/

set_option autoImplicit false

namespace CivicForum

/-- A set of code points: closed ranges. -/
structure CharSet where
  ranges : List (Nat × Nat)
  deriving Repr, DecidableEq

namespace CharSet

/-- The last code point. -/
def maxCode : Nat := 0x10FFFF

def contains (s : CharSet) (c : Char) : Bool :=
  s.ranges.any fun r => r.1 ≤ c.toNat && c.toNat ≤ r.2

/-- Joins the ranges in ascending order that overlap or touch, the first one given apart. -/
def mergeInto (r : Nat × Nat) : List (Nat × Nat) → List (Nat × Nat)
  | [] => [r]
  | q :: rest => if q.1 ≤ r.2 + 1 then mergeInto (r.1, max r.2 q.2) rest else r :: mergeInto q rest

def merge : List (Nat × Nat) → List (Nat × Nat)
  | [] => []
  | r :: rest => mergeInto r rest

/-- The set of a list of ranges in any order. -/
def normalize (ranges : List (Nat × Nat)) : CharSet :=
  ⟨merge ((ranges.filter fun r => r.1 ≤ r.2).mergeSort fun a b => a.1 ≤ b.1)⟩

def empty : CharSet := ⟨[]⟩

/-- Every character. -/
def full : CharSet := ⟨[(0, maxCode)]⟩

def single (c : Char) : CharSet := ⟨[(c.toNat, c.toNat)]⟩

def union (s t : CharSet) : CharSet := normalize (s.ranges ++ t.ranges)

/-- The gaps between ranges in ascending order, from `start` on. -/
def gaps (start : Nat) : List (Nat × Nat) → List (Nat × Nat)
  | [] => if start ≤ maxCode then [(start, maxCode)] else []
  | r :: rest =>
    if start < r.1 then (start, r.1 - 1) :: gaps (r.2 + 1) rest else gaps (r.2 + 1) rest

/-- The characters that are not in the set. -/
def compl (s : CharSet) : CharSet := ⟨gaps 0 s.ranges⟩

def inter (s t : CharSet) : CharSet := (s.compl.union t.compl).compl

def diff (s t : CharSet) : CharSet := s.inter t.compl

def symmDiff (s t : CharSet) : CharSet := (s.union t).diff (s.inter t)

/-- Only ASCII characters are in the set. -/
def isAscii (s : CharSet) : Bool := s.ranges.all fun r => r.2 < 0x80

end CharSet

end CivicForum
