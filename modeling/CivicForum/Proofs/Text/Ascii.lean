import CivicForum.Text.Folding
import CivicForum.Text.Lowercase
import Mathlib.Data.List.Basic

/-! # Case in ASCII

Lower case and case folding are tables over all scripts. On ASCII texts both come down to the letters
from A to Z.

* `CharSet.contains_normalize`: the set of some ranges holds what one of the ranges holds.
* `Text.Ascii`: the text is in ASCII; `Text.lower_eq_map`: each of its characters is put in lower case
  by itself.
* `CharSet.contains_caseVariants`: the ASCII characters in the set of a character in either case are
  those with the same lower case.
-/

set_option autoImplicit false

namespace CivicForum

/-! ## Sets of ranges -/

namespace CharSet

/-- The code point lies in the range. -/
def InRange (n : Nat) (r : Nat × Nat) : Prop := r.1 ≤ n ∧ n ≤ r.2

theorem contains_eq_true {s : CharSet} {c : Char} :
    s.contains c = true ↔ ∃ r ∈ s.ranges, InRange c.toNat r := by
  unfold contains InRange
  simp only [List.any_eq_true, Bool.and_eq_true, decide_eq_true_eq]

variable {n : Nat} {r q : Nat × Nat}

/-- Two ranges that overlap or touch are joined. -/
theorem inRange_join (hle : r.1 ≤ q.1) (hnear : q.1 ≤ r.2 + 1) :
    InRange n (r.1, max r.2 q.2) ↔ InRange n r ∨ InRange n q := by
  unfold InRange
  dsimp only
  omega

theorem exists_mem_mergeInto {rest : List (Nat × Nat)}
    (hsorted : (r :: rest).Pairwise fun a b => a.1 ≤ b.1) :
    (∃ p ∈ mergeInto r rest, InRange n p) ↔ ∃ p ∈ r :: rest, InRange n p := by
  induction rest generalizing r with
  | nil => rfl
  | cons q rest ih =>
    obtain ⟨hfirst, hrest⟩ := List.pairwise_cons.mp hsorted
    rw [mergeInto]
    split
    · next hnear =>
      have hjoined : ((r.1, max r.2 q.2) :: rest).Pairwise fun a b => a.1 ≤ b.1 :=
        List.pairwise_cons.mpr ⟨fun p hp => hfirst p (List.mem_cons_of_mem q hp),
          (List.pairwise_cons.mp hrest).2⟩
      rw [ih hjoined]
      simp only [List.exists_mem_cons_iff, inRange_join (hfirst q List.mem_cons_self) hnear,
        or_assoc]
    · rw [List.exists_mem_cons_iff, ih hrest, List.exists_mem_cons_iff (a := r)]

theorem exists_mem_merge {ranges : List (Nat × Nat)}
    (hsorted : ranges.Pairwise fun a b => a.1 ≤ b.1) :
    (∃ p ∈ merge ranges, InRange n p) ↔ ∃ p ∈ ranges, InRange n p := by
  cases ranges with
  | nil => rfl
  | cons r rest => exact exists_mem_mergeInto hsorted

theorem contains_normalize {ranges : List (Nat × Nat)} {c : Char} :
    (normalize ranges).contains c = true ↔ ∃ r ∈ ranges, InRange c.toNat r := by
  have hsorted : ((ranges.filter fun r => r.1 ≤ r.2).mergeSort fun a b => a.1 ≤ b.1).Pairwise
      fun a b => decide (a.1 ≤ b.1) = true := by
    refine List.pairwise_mergeSort (fun a b d hab hbd => ?_) (fun a b => ?_) _
    · exact decide_eq_true (Nat.le_trans (of_decide_eq_true hab) (of_decide_eq_true hbd))
    · simpa using Nat.le_total a.1 b.1
  rw [contains_eq_true, normalize, exists_mem_merge (hsorted.imp of_decide_eq_true)]
  simp only [List.mem_mergeSort, List.mem_filter, decide_eq_true_eq]
  constructor
  · rintro ⟨r, ⟨hr, -⟩, hin⟩
    exact ⟨r, hr, hin⟩
  · rintro ⟨r, hr, hin⟩
    exact ⟨r, ⟨hr, Nat.le_trans hin.1 hin.2⟩, hin⟩

end CharSet

/-! ## ASCII -/

namespace Text

/-- The text is in ASCII. -/
def Ascii (cs : List Char) : Prop := ∀ c ∈ cs, c.toNat < 0x80

instance (cs : List Char) : Decidable (Ascii cs) := List.decidableBAll _ cs

theorem lowerAfter_eq_map {cs : List Char} (h : Ascii cs) (before : List Char) :
    lowerAfter before cs = cs.map Char.toLower := by
  induction cs generalizing before with
  | nil => rfl
  | cons c rest ih =>
    obtain ⟨hc, hrest⟩ := List.forall_mem_cons.mp h
    have hsigma : c ≠ '\u03A3' := by
      rintro rfl
      exact absurd hc (by decide)
    rw [lowerAfter, if_neg hsigma, lowerChar, if_pos hc, ih hrest]
    rfl

theorem lower_eq_map {cs : List Char} (h : Ascii cs) : lower cs = cs.map Char.toLower :=
  lowerAfter_eq_map h []

/-! ### Folding -/

/-- The capital letters of ASCII with their folding. -/
def asciiCapitals : CaseRange := ⟨0x41, 0x5A, 1, 32⟩

theorem foldRanges_eq : foldRanges = asciiCapitals :: foldRanges.tail := rfl

theorem le_first_of_mem_tail : ∀ r ∈ foldRanges.tail, 0x80 ≤ r.first := by decide +kernel

variable {m n : Nat} {r : CaseRange}

theorem contains_asciiCapitals : asciiCapitals.contains n = true ↔ 0x41 ≤ n ∧ n ≤ 0x5A := by
  unfold CaseRange.contains asciiCapitals
  simp only [Nat.mod_one, decide_true, Bool.and_true, Bool.and_eq_true, decide_eq_true_eq]

theorem not_contains_of_mem_tail (hr : r ∈ foldRanges.tail) (hn : n < 0x80) :
    ¬ r.contains n = true := by
  have hfirst := le_first_of_mem_tail r hr
  unfold CaseRange.contains
  simp only [Bool.and_eq_true, decide_eq_true_eq]
  omega

theorem fold_of_ascii (hn : n < 0x80) :
    fold n = if 0x41 ≤ n ∧ n ≤ 0x5A then n + 32 else n := by
  have htail : foldRanges.tail.findSome? (·.image? n) = none :=
    List.findSome?_eq_none_iff.mpr fun r hr => if_neg (not_contains_of_mem_tail hr hn)
  have hcapitals : asciiCapitals.image? n =
      if 0x41 ≤ n ∧ n ≤ 0x5A then some (n + 32) else none := by
    unfold CaseRange.image?
    simp only [contains_asciiCapitals]
    rfl
  unfold fold
  rw [foldRanges_eq, List.findSome?_cons, hcapitals]
  by_cases hcapital : 0x41 ≤ n ∧ n ≤ 0x5A
  · rw [if_pos hcapital, if_pos hcapital]
    rfl
  · rw [if_neg hcapital, if_neg hcapital, htail]
    rfl

theorem preimage?_asciiCapitals {t : Nat} :
    asciiCapitals.preimage? t = some n ↔ (0x41 ≤ n ∧ n ≤ 0x5A) ∧ t = n + 32 := by
  have hshift : asciiCapitals.shift = 32 := rfl
  unfold CaseRange.preimage?
  simp only [contains_asciiCapitals, hshift, Option.ite_none_right_eq_some, Option.some.injEq]
  omega

/-- Characters of ASCII differ in case only if they have the same folding. -/
theorem mem_orbit_of_ascii (hm : m < 0x80) (hn : n < 0x80) : n ∈ orbit m ↔ fold n = fold m := by
  have hother : ¬ ∃ r ∈ foldRanges.tail, r.preimage? (fold m) = some n := by
    rintro ⟨r, hr, hpre⟩
    unfold CaseRange.preimage? at hpre
    dsimp only at hpre
    split at hpre
    · next h =>
      rw [Option.some.inj hpre] at h
      exact not_contains_of_mem_tail hr hn h.2
    · cases hpre
  have hmember : n ∈ orbit m ↔ n = fold m ∨ (0x41 ≤ n ∧ n ≤ 0x5A) ∧ fold m = n + 32 := by
    unfold orbit
    rw [List.mem_cons, List.mem_filterMap, foldRanges_eq, List.exists_mem_cons_iff,
      preimage?_asciiCapitals, or_iff_left hother]
  rw [hmember, fold_of_ascii hn, fold_of_ascii hm]
  split <;> split <;> omega

theorem toNat_toLower (c : Char) :
    c.toLower.toNat = if 0x41 ≤ c.toNat ∧ c.toNat ≤ 0x5A then c.toNat + 32 else c.toNat := by
  unfold Char.toLower
  split
  · next h =>
    have hbounds : 0x41 ≤ c.toNat ∧ c.toNat ≤ 0x5A := h
    rw [if_pos hbounds]
    show (c.val + ('a'.val - 'A'.val)).toNat = c.val.toNat + 32
    rw [UInt32.toNat_add]
    have hval : c.val.toNat ≤ 0x5A := hbounds.2
    have hstep : ('a'.val - 'A'.val).toNat = 32 := rfl
    omega
  · next h => exact (if_neg h).symm

theorem fold_eq_fold_iff {c d : Char} (hc : c.toNat < 0x80) (hd : d.toNat < 0x80) :
    fold c.toNat = fold d.toNat ↔ c.toLower = d.toLower := by
  rw [fold_of_ascii hc, fold_of_ascii hd, ← toNat_toLower, ← toNat_toLower]
  exact ⟨fun h => Char.toNat_inj.mp h, fun h => h ▸ rfl⟩

end Text

/-- The characters of ASCII in a set in either case. -/
theorem CharSet.contains_caseVariants {c d : Char} (hc : c.toNat < 0x80) (hd : d.toNat < 0x80) :
    (CharSet.caseVariants c).contains d = true ↔ d.toLower = c.toLower := by
  rw [caseVariants, contains_normalize, ← Text.fold_eq_fold_iff hd hc,
    ← Text.mem_orbit_of_ascii hc hd]
  simp only [List.mem_map, InRange, exists_exists_and_eq_and, ← Nat.le_antisymm_iff,
    exists_eq_right]

end CivicForum
