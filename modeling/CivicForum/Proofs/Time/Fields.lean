import CivicForum.Proofs.Text.Blank
import CivicForum.Proofs.Time.Reading

/-! # Fields of a timestamp

* `Timestamp.readExactly_padded`: a number of fixed width is read back, and what follows it is left.
* `Timestamp.readPair_of_readExactly`, `Timestamp.readYear_of_readExactly`: the lenient readers, which
  allow fewer digits and blanks before them, read it in the same way.
* `Timestamp.ofFraction_eq`: what the digits of a fraction come to in nanoseconds.
* `Timestamp.Zone`: the spellings of an offset from UTC; `Timestamp.readOffset_of_zone`: it is read
  back.
-/

set_option autoImplicit false

namespace CivicForum

open Text Time

theorem Text.isBlank_of_isDigit {c : Char} (h : isDigit c = true) : isBlank c = false := by
  unfold isDigit at h
  simp only [Bool.and_eq_true, decide_eq_true_eq] at h
  have hlow : 48 ≤ c.toNat := h.1
  have hhigh : c.toNat ≤ 57 := h.2
  refine eq_false_of_ne_true fun hblank => ?_
  unfold isBlank blankRanges at hblank
  simp only [List.any_cons, List.any_nil, Bool.or_false, Bool.or_eq_true, Bool.and_eq_true,
    decide_eq_true_eq] at hblank
  omega

theorem Text.solid_padded (width n : Nat) : Solid (padded width n) :=
  ⟨padded_ne_nil width n, fun c hc => isBlank_of_isDigit (isDigit_of_mem_padded width n c hc)⟩

namespace Timestamp

/-- A step of a reader that finds what it looks for. -/
theorem bind_of_eq_some {α β : Type} {o : Option α} {a : α} {f : α → Option β} {r : Option β}
    (h : o = some a) (hf : f a = r) : (o >>= f) = r := by
  rw [h]
  exact hf

/-! ## Numbers of fixed width -/

section Numbers

variable {k n : Nat} {cs rest : List Char}

theorem readExactly_padded (h : n < 10 ^ (k + 1)) (rest : List Char) :
    readExactly (k + 1) (padded (k + 1) n ++ rest) = some (n, rest) := by
  have hlength := length_padded h
  have hdigits : (padded (k + 1) n).all isDigit = true :=
    List.all_eq_true.mpr (isDigit_of_mem_padded (k + 1) n)
  unfold readExactly
  dsimp only
  rw [List.take_left' hlength, List.drop_left' hlength, if_pos ⟨hlength, hdigits⟩, ofDigits_padded]

theorem exists_digit_of_readExactly (h : readExactly (k + 1) cs = some (n, rest)) :
    ∃ c left, cs = c :: left ∧ isDigit c = true := by
  obtain ⟨⟨hlength, hdigits⟩, -⟩ := Option.ite_none_right_eq_some.mp h
  cases cs with
  | nil => cases hlength
  | cons c left => exact ⟨c, left, rfl, List.all_eq_true.mp hdigits c List.mem_cons_self⟩

theorem trimStart_of_readExactly (h : readExactly (k + 1) cs = some (n, rest)) :
    trimStart cs = cs := by
  obtain ⟨c, left, rfl, hc⟩ := exists_digit_of_readExactly h
  exact List.dropWhile_cons_of_neg (by simp [isBlank_of_isDigit hc])

theorem readDigits_of_readExactly (hk : k < 18)
    (h : readExactly (k + 1) cs = some (n, rest)) : readDigits (k + 1) cs = some (n, rest) := by
  obtain ⟨⟨hlength, hdigits⟩, heq⟩ := Option.ite_none_right_eq_some.mp h
  obtain ⟨rfl, rfl⟩ := Prod.mk.inj (Option.some.inj heq)
  have hall : ∀ c ∈ cs.take (k + 1), isDigit c = true := List.all_eq_true.mp hdigits
  have hword : (ofDigits (cs.take (k + 1)) : Int) ≤ wordMax := by
    have hlt := ofDigits_lt hall
    have hpow : 10 ^ (cs.take (k + 1)).length ≤ 10 ^ 18 :=
      Nat.pow_le_pow_right (by decide) (by omega)
    unfold wordMax
    omega
  unfold readDigits
  dsimp only
  rw [List.takeWhile_eq_self_iff.mpr hall, if_neg, if_pos hword, hlength]
  rintro hnil
  rw [hnil] at hlength
  cases hlength

theorem readPair_of_readExactly (h : readExactly 2 cs = some (n, rest)) :
    readPair cs = some (n, rest) := by
  rw [readPair, trimStart_of_readExactly h]
  exact readDigits_of_readExactly (by decide) h

theorem readYear_of_readExactly (h : readExactly 4 cs = some (n, rest)) :
    readYear cs = some ((n : Int), rest) := by
  have hdigits := readDigits_of_readExactly (by decide) h
  obtain ⟨c, left, rfl, hc⟩ := exists_digit_of_readExactly h
  rw [readYear, trimStart_of_readExactly h]
  split
  · next hsign =>
    obtain ⟨rfl, -⟩ := List.cons.inj hsign
    exact absurd hc (by decide)
  · next hsign =>
    obtain ⟨rfl, -⟩ := List.cons.inj hsign
    exact absurd hc (by decide)
  · rw [hdigits]
    rfl

theorem readPair_of_mark {c : Char} (hblank : isBlank c = false) (hdigit : isDigit c = false)
    (rest : List Char) : readPair (c :: rest) = none := by
  have hstart : trimStart (c :: rest) = c :: rest := List.dropWhile_cons_of_neg (by simp [hblank])
  unfold readPair
  rw [hstart]
  unfold readDigits
  dsimp only
  rw [List.take_succ_cons, List.takeWhile_cons_of_neg (by simp [hdigit]), if_pos rfl]

end Numbers

theorem readMark_cons (c : Char) (rest : List Char) : readMark c (c :: rest) = some rest :=
  if_pos rfl

/-! ## Fractions -/

/-- The digits of a fraction behind a point, if there are any. -/
def pointed (ds : List Char) : List Char := if ds = [] then [] else '.' :: ds

/-- The fraction is cut off after the nanosecond. -/
theorem ofFraction_eq {ds : List Char} (h : ∀ c ∈ ds, isDigit c = true) :
    ofFraction ds = ofDigits ds * 10 ^ 9 / 10 ^ ds.length := by
  unfold ofFraction
  dsimp only
  rcases Nat.le_total ds.length 9 with hshort | hlong
  · rw [List.take_of_length_le hshort, Nat.mul_div_assoc _ (Nat.pow_dvd_pow 10 hshort),
      Nat.pow_div hshort (by decide)]
    rfl
  · have hkept : (ds.take 9).length = 9 := List.length_take_of_le hlong
    have hcut : ofDigits (ds.drop 9) < 10 ^ (ds.drop 9).length :=
      ofDigits_lt fun c hc => h c (List.mem_of_mem_drop hc)
    have hsplit := ofDigits_append (ds.take 9) (ds.drop 9)
    have hlength : ds.length = (ds.drop 9).length + 9 := by
      rw [List.length_drop]
      omega
    rw [List.take_append_drop] at hsplit
    rw [hkept, hlength, Nat.pow_add, Nat.mul_div_mul_right _ _ (by decide), hsplit,
      Nat.mul_comm (ofDigits _) (10 ^ _), Nat.mul_add_div (Nat.pow_pos (by decide)),
      Nat.div_eq_of_lt hcut, Nat.add_zero]
    exact Nat.mul_one _

theorem readFraction_pointed {ds rest : List Char} (h : ∀ c ∈ ds, isDigit c = true)
    (hrest : ∀ c ∈ rest.head?, c ≠ '.' ∧ isDigit c = false) :
    readFraction (pointed ds ++ rest) = some (ofFraction ds, rest) := by
  unfold pointed
  split
  · next hnil =>
    subst hnil
    unfold readFraction
    rw [List.nil_append]
    split
    · exact absurd rfl (hrest '.' rfl).1
    · rfl
  · next hne =>
    have hstop : rest.takeWhile isDigit = [] := by
      rcases rest with - | ⟨c, cs⟩
      · rfl
      · exact List.takeWhile_cons_of_neg (by simp [(hrest c rfl).2])
    have hleft : rest.dropWhile isDigit = rest := by
      rcases rest with - | ⟨c, cs⟩
      · rfl
      · exact List.dropWhile_cons_of_neg (by simp [(hrest c rfl).2])
    have hdigits : (ds ++ rest).takeWhile isDigit = ds := by
      rw [List.takeWhile_append_of_pos h, hstop, List.append_nil]
    show (if (ds ++ rest).takeWhile isDigit = [] then none
      else some (ofFraction ((ds ++ rest).takeWhile isDigit), (ds ++ rest).dropWhile isDigit)) = _
    rw [hdigits, if_neg hne, List.dropWhile_append_of_pos h, hleft]

/-- The digits of a fraction as they are written. -/
def fractionDigits (n : Nat) : List Char :=
  if n = 0 then []
  else if n % 1000000 = 0 then padded 3 (n / 1000000)
  else if n % 1000 = 0 then padded 6 (n / 1000)
  else padded 9 n

theorem pointed_fractionDigits (n : Nat) : pointed (fractionDigits n) = writeFraction n := by
  unfold pointed fractionDigits writeFraction
  split
  · rfl
  split
  · exact if_neg (padded_ne_nil _ _)
  split
  · exact if_neg (padded_ne_nil _ _)
  · exact if_neg (padded_ne_nil _ _)

theorem isDigit_of_mem_fractionDigits (n : Nat) : ∀ c ∈ fractionDigits n, isDigit c = true := by
  unfold fractionDigits
  split
  · nofun
  split
  · exact isDigit_of_mem_padded _ _
  split
  · exact isDigit_of_mem_padded _ _
  · exact isDigit_of_mem_padded _ _

theorem ofFraction_fractionDigits {n : Nat} (h : n < 1000000000) :
    ofFraction (fractionDigits n) = n := by
  rw [ofFraction_eq (isDigit_of_mem_fractionDigits n)]
  unfold fractionDigits
  split
  · next hzero => exact hzero.symm
  split
  · rw [ofDigits_padded, length_padded (k := 2) (by omega)]
    omega
  split
  · rw [ofDigits_padded, length_padded (k := 5) (by omega)]
    omega
  · rw [ofDigits_padded, length_padded (k := 8) (by omega)]
    omega

/-! ## Offsets -/

/-- The spellings of an offset from UTC, in seconds: `Z`, or hours and minutes behind a sign. -/
inductive Zone : List Char → Int → Prop where
  | utc (c : Char) (h : c = 'Z' ∨ c = 'z') : Zone [c] 0
  | ahead (hours minutes : Nat) (h : hours ≤ 23) (h' : minutes ≤ 59) :
      Zone ('+' :: (padded 2 hours ++ ':' :: padded 2 minutes)) (hours * 3600 + minutes * 60 : Nat)
  | behind (c : Char) (hours minutes : Nat) (hc : c = '-' ∨ c = '\u2212') (h : hours ≤ 23)
      (h' : minutes ≤ 59) :
      Zone (c :: (padded 2 hours ++ ':' :: padded 2 minutes))
        (-(hours * 3600 + minutes * 60 : Nat))

/-- The hours and minutes of an offset, behind its sign. -/
def readHours (sign : Int) (cs : List Char) : Option (Int × List Char) := do
  let (hours, rest) ← readExactly 2 cs
  let rest ← readMark ':' rest
  let (minutes, rest) ← readExactly 2 rest
  if minutes ≤ 59 then
    let offset := sign * (hours * 3600 + minutes * 60 : Nat)
    if -maxOffset ≤ offset ∧ offset ≤ maxOffset then some (offset, rest) else none
  else none

theorem readOffset_cons (c : Char) (rest : List Char) :
    readOffset (c :: rest) =
      if c = 'Z' ∨ c = 'z' then some (0, rest)
      else if c = '+' then readHours 1 rest
      else if c = '-' ∨ c = '\u2212' then readHours (-1) rest
      else none := rfl

theorem readHours_padded {sign : Int} (hsign : sign = 1 ∨ sign = -1) {hours minutes : Nat}
    (h : hours ≤ 23) (h' : minutes ≤ 59) :
    readHours sign (padded 2 hours ++ ':' :: padded 2 minutes) =
      some (sign * (hours * 3600 + minutes * 60 : Nat), []) := by
  have hminutes := readExactly_padded (k := 1) (show minutes < 10 ^ 2 by omega) []
  have hbounds : -maxOffset ≤ sign * (hours * 3600 + minutes * 60 : Nat) ∧
      sign * (hours * 3600 + minutes * 60 : Nat) ≤ maxOffset := by
    unfold maxOffset
    rcases hsign with rfl | rfl <;> omega
  rw [List.append_nil] at hminutes
  unfold readHours
  rw [readExactly_padded (k := 1) (show hours < 10 ^ 2 by omega)]
  simp only [Option.bind_eq_bind, Option.bind_some, readMark_cons, hminutes]
  rw [if_pos h', if_pos hbounds]

theorem readOffset_of_zone {zone : List Char} {offset : Int} (h : Zone zone offset) :
    readOffset zone = some (offset, []) := by
  cases h with
  | utc c h => exact if_pos h
  | ahead hours minutes h h' =>
    rw [readOffset_cons, if_neg (by decide), if_pos rfl, readHours_padded (.inl rfl) h h',
      Int.one_mul]
  | behind c hours minutes hc h h' =>
    have hsign : ¬ (c = 'Z' ∨ c = 'z') ∧ c ≠ '+' := by
      rcases hc with rfl | rfl <;> decide
    rw [readOffset_cons, if_neg hsign.1, if_neg hsign.2, if_pos hc,
      readHours_padded (.inr rfl) h h', Int.neg_one_mul]

theorem Zone.zero : Zone ['+', '0', '0', ':', '0', '0'] 0 := by
  have hzero : padded 2 0 = ['0', '0'] := by
    unfold padded
    rw [writeNat]
    rfl
  have hzone := Zone.ahead 0 0 (by decide) (by decide)
  rw [hzero] at hzone
  exact hzone

theorem Zone.not_blank {zone : List Char} {offset : Int} (h : Zone zone offset) :
    ∀ c ∈ zone, isBlank c = false := by
  have hpadded : ∀ n, ∀ c ∈ padded 2 n, isBlank c = false := fun n => (solid_padded 2 n).solid
  cases h with
  | utc c h =>
    refine List.forall_mem_singleton.mpr ?_
    rcases h with rfl | rfl <;> decide
  | ahead hours minutes h h' =>
    simp only [List.forall_mem_cons, List.forall_mem_append]
    exact ⟨by decide, hpadded hours, by decide, hpadded minutes⟩
  | behind c hours minutes hc h h' =>
    simp only [List.forall_mem_cons, List.forall_mem_append]
    refine ⟨?_, hpadded hours, by decide, hpadded minutes⟩
    rcases hc with rfl | rfl <;> decide

theorem Zone.head {zone : List Char} {offset : Int} (h : Zone zone offset) :
    ∀ c ∈ zone.head?, c ≠ '.' ∧ isDigit c = false := by
  cases h with
  | utc c h =>
    rintro _ ⟨⟩
    rcases h with rfl | rfl <;> decide
  | ahead hours minutes h h' =>
    rintro _ ⟨⟩
    decide
  | behind c hours minutes hc h h' =>
    rintro _ ⟨⟩
    rcases hc with rfl | rfl <;> decide

end Timestamp

end CivicForum
