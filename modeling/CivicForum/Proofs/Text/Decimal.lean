import CivicForum.Text.Number
import Mathlib.Algebra.Group.Nat.Defs
import Mathlib.Data.List.Basic
import Mathlib.Data.List.Induction

/-! # Numbers in decimal

* `Text.ofDigits_writeNat`: the digits of a number write the number.
* `Text.head?_writeNat`, `Text.length_writeNat_le`: no zero in front, no more digits than needed.
* `Text.ofDigits_padded`, `Text.length_padded`: zeros in front change the width, not the number.
* `Text.readWord?_writeInt`: a signed 64-bit number is read as it is written.
-/

set_option autoImplicit false

namespace CivicForum.Text

/-! ## Digits -/

theorem toNat_digit {n : Nat} (h : n < 10) : (digit n).toNat = '0'.toNat + n := by
  have hall : ∀ n, n < 10 → (digit n).toNat = '0'.toNat + n := by decide
  exact hall n h

theorem digit_mod (n : Nat) : digit (n % 10) = digit n := by
  unfold digit
  rw [Nat.mod_mod]

theorem isDigit_digit (n : Nat) : isDigit (digit n) = true := by
  have hall : ∀ n, n < 10 → isDigit (digit n) = true := by decide
  rw [← digit_mod]
  exact hall _ (Nat.mod_lt n (by decide))

theorem digitValue_digit (n : Nat) : digitValue (digit n) = n % 10 := by
  unfold digitValue
  rw [← digit_mod, toNat_digit (Nat.mod_lt n (by decide)), Nat.add_sub_cancel_left]

theorem writeNat_of_lt {n : Nat} (h : n < 10) : writeNat n = [digit n] := by
  rw [writeNat, if_pos h]

theorem writeNat_of_le {n : Nat} (h : 10 ≤ n) : writeNat n = writeNat (n / 10) ++ [digit n] := by
  rw [writeNat, if_neg (Nat.not_lt.mpr h)]

theorem writeNat_ne_nil (n : Nat) : writeNat n ≠ [] := by
  rw [writeNat]
  split <;> simp

theorem isDigit_of_mem_writeNat (n : Nat) : ∀ c ∈ writeNat n, isDigit c = true := by
  induction n using writeNat.induct with
  | case1 n h =>
    rw [writeNat_of_lt h]
    intro c hc
    rw [List.mem_singleton.mp hc]
    exact isDigit_digit n
  | case2 n h ih =>
    rw [writeNat_of_le (Nat.not_lt.mp h)]
    refine List.forall_mem_append.mpr ⟨ih, fun c hc => ?_⟩
    rw [List.mem_singleton.mp hc]
    exact isDigit_digit n

theorem exists_digit_writeNat (n : Nat) : ∃ c cs, writeNat n = c :: cs ∧ isDigit c = true := by
  obtain ⟨c, cs, hcs⟩ := List.exists_cons_of_ne_nil (writeNat_ne_nil n)
  exact ⟨c, cs, hcs, isDigit_of_mem_writeNat n c (hcs ▸ List.mem_cons_self)⟩

theorem ofDigits_append_singleton (ds : List Char) (c : Char) :
    ofDigits (ds ++ [c]) = ofDigits ds * 10 + digitValue c := by
  unfold ofDigits
  rw [List.foldl_append]
  rfl

theorem ofDigits_writeNat (n : Nat) : ofDigits (writeNat n) = n := by
  induction n using writeNat.induct with
  | case1 n h =>
    have hone := ofDigits_append_singleton [] (digit n)
    rw [List.nil_append, digitValue_digit, Nat.mod_eq_of_lt h] at hone
    rw [writeNat_of_lt h, hone]
    exact Nat.zero_add n
  | case2 n h ih =>
    rw [writeNat_of_le (Nat.not_lt.mp h), ofDigits_append_singleton, ih, digitValue_digit]
    exact Nat.div_add_mod' n 10

/-- A number other than zero has no zero in front. -/
theorem head?_writeNat {n : Nat} (h : 0 < n) : (writeNat n).head? ≠ some '0' := by
  induction n using writeNat.induct with
  | case1 n hn =>
    have hall : ∀ n, n < 10 → 0 < n → digit n ≠ '0' := by decide
    rw [writeNat_of_lt hn]
    exact fun heq => hall n hn h (Option.some.inj heq)
  | case2 n hn ih =>
    rw [writeNat_of_le (Nat.not_lt.mp hn), List.head?_append_of_ne_nil _ (writeNat_ne_nil _)]
    exact ih (Nat.div_pos (Nat.not_lt.mp hn) (by decide))

theorem length_writeNat_le {k : Nat} : ∀ {n : Nat}, n < 10 ^ (k + 1) →
    (writeNat n).length ≤ k + 1 := by
  induction k with
  | zero =>
    intro n h
    rw [writeNat_of_lt (by simpa using h)]
    exact Nat.le_refl 1
  | succ k ih =>
    intro n h
    by_cases hn : n < 10
    · rw [writeNat_of_lt hn]
      exact Nat.le_add_left 1 (k + 1)
    · rw [writeNat_of_le (Nat.not_lt.mp hn), List.length_append, List.length_singleton]
      refine Nat.succ_le_succ (ih (Nat.div_lt_of_lt_mul ?_))
      rwa [Nat.mul_comm, ← Nat.pow_succ]

/-! ## Leading zeros -/

theorem ofDigits_append (as bs : List Char) :
    ofDigits (as ++ bs) = ofDigits as * 10 ^ bs.length + ofDigits bs := by
  induction bs using List.reverseRecOn with
  | nil => simp [ofDigits]
  | append_singleton bs c ih =>
    rw [← List.append_assoc, ofDigits_append_singleton, ih, ofDigits_append_singleton,
      List.length_append, List.length_singleton, Nat.pow_succ, Nat.add_mul, Nat.mul_assoc,
      Nat.add_assoc]

theorem ofDigits_replicate_zero (k : Nat) : ofDigits (List.replicate k '0') = 0 := by
  induction k with
  | zero => rfl
  | succ k ih =>
    rw [List.replicate_succ', ofDigits_append_singleton, ih]
    rfl

theorem ofDigits_padded (width n : Nat) : ofDigits (padded width n) = n := by
  unfold padded
  rw [ofDigits_append, ofDigits_replicate_zero, ofDigits_writeNat, Nat.zero_mul, Nat.zero_add]

theorem isDigit_of_mem_padded (width n : Nat) : ∀ c ∈ padded width n, isDigit c = true := by
  refine List.forall_mem_append.mpr ⟨fun c hc => ?_, isDigit_of_mem_writeNat n⟩
  rw [List.eq_of_mem_replicate hc]
  decide

theorem length_padded {k n : Nat} (h : n < 10 ^ (k + 1)) : (padded (k + 1) n).length = k + 1 := by
  have hlength := length_writeNat_le h
  unfold padded
  rw [List.length_append, List.length_replicate]
  omega

theorem padded_ne_nil (width n : Nat) : padded width n ≠ [] :=
  List.append_ne_nil_of_right_ne_nil _ (writeNat_ne_nil n)

/-! ## Signed numbers -/

theorem isWord_eq_true {n : Int} : isWord n = true ↔ wordMin ≤ n ∧ n ≤ wordMax := by
  unfold isWord
  rw [Bool.and_eq_true, decide_eq_true_eq, decide_eq_true_eq]

/-- What stands in a number: digits, and a minus in front of some of them. -/
theorem mem_writeInt {n : Int} {c : Char} (hc : c ∈ writeInt n) : c = '-' ∨ isDigit c = true := by
  cases n with
  | ofNat m => exact .inr (isDigit_of_mem_writeNat m c hc)
  | negSucc m =>
    rcases List.mem_cons.mp hc with hminus | hdigit
    · exact .inl hminus
    · exact .inr (isDigit_of_mem_writeNat (m + 1) c hdigit)

theorem writeInt_ne_nil (n : Int) : writeInt n ≠ [] := by
  cases n with
  | ofNat m => exact writeNat_ne_nil m
  | negSucc m => exact List.cons_ne_nil _ _

theorem exists_head_writeInt (n : Int) :
    ∃ c cs, writeInt n = c :: cs ∧ (c = '-' ∨ isDigit c = true) := by
  obtain ⟨c, cs, hcs⟩ := List.exists_cons_of_ne_nil (writeInt_ne_nil n)
  exact ⟨c, cs, hcs, mem_writeInt (hcs ▸ List.mem_cons_self)⟩

theorem readNat?_writeNat (n : Nat) : readNat? (writeNat n) = some n := by
  have hdigits : writeNat n ≠ [] ∧ (writeNat n).all isDigit = true :=
    ⟨writeNat_ne_nil n, List.all_eq_true.mpr (isDigit_of_mem_writeNat n)⟩
  unfold readNat?
  rw [if_pos hdigits, ofDigits_writeNat]

theorem readWord?_writeInt {n : Int} (h : isWord n = true) : readWord? (writeInt n) = some n := by
  cases n with
  | ofNat m =>
    obtain ⟨c, cs, hcs, hc⟩ := exists_digit_writeNat m
    have hread : readNat? (c :: cs) = some m := hcs ▸ readNat?_writeNat m
    unfold readWord?
    rw [show writeInt (.ofNat m) = c :: cs from hcs]
    split
    · next hsign =>
      obtain ⟨rfl, -⟩ := List.cons.inj hsign
      exact absurd hc (by decide)
    · next hsign =>
      obtain ⟨rfl, -⟩ := List.cons.inj hsign
      exact absurd hc (by decide)
    · rw [hread]
      exact Option.filter_some_pos h
  | negSucc m =>
    have hread : readWord? ('-' :: writeNat (m + 1)) =
        (((readNat? (writeNat (m + 1))).bind fun k => some (k : Int)).map fun k => -k).filter
          isWord := rfl
    rw [writeInt, hread, readNat?_writeNat]
    exact Option.filter_some_pos h

end CivicForum.Text
