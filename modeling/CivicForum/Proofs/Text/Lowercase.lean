import CivicForum.Text.Lowercase
import Mathlib.Data.List.Infix

/-! # Lower case in context

The lower-case form of a text depends on the text around it in one point: whether a capital sigma
ends a word.

* `Text.lowerBetween`: the lower-case form of a text between two others.
* `Text.SigmasAgree`, `Text.lower_infix_of_agree`: where its sigmas end words just as in the text
  alone, a text is in lower case what it is alone.
* `Text.settlesSigma`, `Text.Steady`: the text itself settles which of its sigmas end words.
* `Text.steady_iff`: these are the texts that are found in lower case wherever they occur.
-/

set_option autoImplicit false

namespace CivicForum.Text

/-- The lower-case form of a character between two texts, the one before it in reverse. -/
def lowerAt (before after : List Char) (c : Char) : List Char :=
  if c = 'Σ' then [if endsWord before after then 'ς' else 'σ'] else lowerChar c

/-- The lower-case form of a text between two others, the one before it in reverse. -/
def lowerBetween (before after : List Char) : List Char → List Char
  | [] => []
  | c :: rest => lowerAt before (rest ++ after) c ++ lowerBetween (c :: before) after rest

/-- Between two others, the first one in reverse, the capital sigmas of a text end words just as
they do in the text alone. -/
def SigmasAgree (before after k : List Char) : Prop :=
  ∀ x y, k = x ++ 'Σ' :: y →
    endsWord (x.reverse ++ before) (y ++ after) = endsWord x.reverse y

/-- What is known of the text around a capital sigma, the part before it in reverse, settles whether
it ends a word. Characters ignored for case aside, it does not if a cased one follows or one that is
not cased comes before it; it does if a cased one comes before it and one that is not cased follows. -/
def settlesSigma (before after : List Char) : Bool :=
  meetsCased after ||
    !before.all isCaseIgnorable && (!meetsCased before || !after.all isCaseIgnorable)

/-- The text settles for each of its capital sigmas whether it ends a word. -/
def Steady (k : List Char) : Prop :=
  ∀ x y, k = x ++ 'Σ' :: y → settlesSigma x.reverse y = true

variable {a b k before after x y l r : List Char} {c : Char}

/-! ## Parts of a text -/

theorem lowerAfter_append (before k b : List Char) :
    lowerAfter before (k ++ b) =
      lowerBetween before b k ++ lowerAfter (k.reverse ++ before) b := by
  induction k generalizing before with
  | nil => rfl
  | cons c rest ih =>
    rw [List.cons_append, lowerAfter, lowerBetween, ih, List.append_assoc, List.reverse_cons,
      List.append_assoc, List.singleton_append]
    rfl

theorem lowerAfter_eq (before k : List Char) : lowerAfter before k = lowerBetween before [] k := by
  have hparts := lowerAfter_append before k []
  rwa [List.append_nil, lowerAfter, List.append_nil] at hparts

theorem lower_eq (k : List Char) : lower k = lowerBetween [] [] k := lowerAfter_eq [] k

theorem lower_append_append (a k b : List Char) : ∃ l r,
    lower (a ++ k ++ b) = l ++ lowerBetween a.reverse b k ++ r := by
  refine ⟨lowerBetween [] (k ++ b) a, lowerAfter (k.reverse ++ a.reverse) b, ?_⟩
  rw [List.append_assoc, lower, lowerAfter_append, lowerAfter_append, List.append_nil,
    List.append_assoc]

/-! ## Sigmas -/

theorem length_lowerAt (before after before' after' : List Char) (c : Char) :
    (lowerAt before after c).length = (lowerAt before' after' c).length := by
  unfold lowerAt
  split <;> rfl

theorem lowerAt_eq_iff {before' after' : List Char} :
    lowerAt before after c = lowerAt before' after' c ↔
      (c = 'Σ' → endsWord before after = endsWord before' after') := by
  unfold lowerAt
  by_cases hc : c = 'Σ'
  · rw [if_pos hc, if_pos hc]
    cases endsWord before after <;> cases endsWord before' after' <;> simp [hc]
  · simp [hc]

theorem length_lowerBetween (before after before' after' k : List Char) :
    (lowerBetween before after k).length = (lowerBetween before' after' k).length := by
  induction k generalizing before before' with
  | nil => rfl
  | cons c rest ih =>
    rw [lowerBetween, lowerBetween, List.length_append, List.length_append,
      length_lowerAt before _ before' (rest ++ after'), ih (c :: before) (c :: before')]

theorem forall_sigma_cons {P : List Char → List Char → Prop} {rest : List Char} :
    (∀ x y, c :: rest = x ++ 'Σ' :: y → P x y) ↔
      (c = 'Σ' → P [] rest) ∧ ∀ x y, rest = x ++ 'Σ' :: y → P (c :: x) y := by
  constructor
  · intro hall
    refine ⟨fun hc => hall [] rest (by rw [hc]; rfl), fun x y hxy => ?_⟩
    exact hall (c :: x) y (by rw [hxy]; rfl)
  · rintro ⟨hfirst, hlater⟩ x y hxy
    cases x with
    | nil =>
      obtain ⟨hc, rfl⟩ := List.cons.inj hxy
      exact hfirst hc
    | cons d x =>
      obtain ⟨rfl, hrest⟩ := List.cons.inj hxy
      exact hlater x y hrest

/-- `own` is what has been read of the text itself, in reverse. -/
theorem lowerBetween_eq_iff (own before after k : List Char) :
    lowerBetween (own ++ before) after k = lowerBetween own [] k ↔
      ∀ x y, k = x ++ 'Σ' :: y →
        endsWord (x.reverse ++ (own ++ before)) (y ++ after) = endsWord (x.reverse ++ own) y := by
  induction k generalizing own with
  | nil => simp [lowerBetween]
  | cons c rest ih =>
    have hrest := ih (c :: own)
    have hparts : lowerBetween (own ++ before) after (c :: rest) = lowerBetween own [] (c :: rest) ↔
        lowerAt (own ++ before) (rest ++ after) c = lowerAt own rest c ∧
          lowerBetween (c :: own ++ before) after rest = lowerBetween (c :: own) [] rest := by
      rw [lowerBetween, lowerBetween, List.append_nil]
      refine ⟨fun heq => List.append_inj heq (length_lowerAt _ _ _ _ c), ?_⟩
      rintro ⟨hfirst, hlater⟩
      rw [hfirst, ← hlater]
      rfl
    rw [hparts, lowerAt_eq_iff, hrest, forall_sigma_cons]
    simp only [List.reverse_nil, List.reverse_cons, List.nil_append, List.append_assoc,
      List.cons_append]

theorem lowerBetween_eq_lower_iff :
    lowerBetween before after k = lower k ↔ SigmasAgree before after k := by
  have hiff := lowerBetween_eq_iff [] before after k
  simp only [List.nil_append, List.append_nil] at hiff
  rw [lower_eq]
  exact hiff

theorem lower_infix_of_agree (h : SigmasAgree a.reverse b k) : lower k <:+: lower (a ++ k ++ b) := by
  obtain ⟨l, r, hparts⟩ := lower_append_append a k b
  rw [hparts, lowerBetween_eq_lower_iff.mpr h]
  exact ⟨l, r, rfl⟩

/-! ## Texts that settle their sigmas -/

theorem meetsCased_append (l r : List Char) :
    meetsCased (l ++ r) = if l.all isCaseIgnorable then meetsCased r else meetsCased l := by
  induction l with
  | nil => rfl
  | cons c l ih =>
    unfold meetsCased at ih ⊢
    rcases hc : isCaseIgnorable c with - | -
    · simp [hc]
    · simpa [hc] using ih

theorem meetsCased_of_all (h : l.all isCaseIgnorable = true) : meetsCased l = false := by
  have happend := meetsCased_append l []
  rw [if_pos h, List.append_nil] at happend
  exact happend

theorem meetsCased_append_of_meetsCased (h : meetsCased l = true) (r : List Char) :
    meetsCased (l ++ r) = true := by
  rw [meetsCased_append]
  split
  · next hall =>
    rw [meetsCased_of_all hall] at h
    cases h
  · exact h

theorem endsWord_of_settlesSigma (h : settlesSigma x y = true) (before after : List Char) :
    endsWord (x ++ before) (y ++ after) = endsWord x y := by
  unfold settlesSigma at h
  unfold endsWord
  rcases hy : meetsCased y with - | -
  · rw [hy, Bool.false_or, Bool.and_eq_true, Bool.not_eq_true'] at h
    obtain ⟨hx, h⟩ := h
    rw [meetsCased_append x, if_neg (by rw [hx]; nofun)]
    rcases hx' : meetsCased x with - | -
    · rfl
    · rw [hx', Bool.not_true, Bool.false_or, Bool.not_eq_true'] at h
      rw [meetsCased_append y, if_neg (by rw [h]; nofun), hy]
  · rw [meetsCased_append_of_meetsCased hy, Bool.not_true, Bool.and_false, Bool.and_false]

/-- Where nothing is settled, a letter in front or behind makes a difference. -/
theorem of_settlesSigma_eq_false (h : settlesSigma x y = false) :
    (∀ c, meetsCased [c] = true → endsWord (x ++ [c]) y ≠ endsWord x y) ∨
      ∀ c, meetsCased [c] = true → endsWord x (y ++ [c]) ≠ endsWord x y := by
  unfold settlesSigma at h
  unfold endsWord
  rw [Bool.or_eq_false_iff, Bool.and_eq_false_iff] at h
  obtain ⟨hy, hx | h⟩ := h
  · rw [Bool.not_eq_false'] at hx
    refine .inl fun c hc => ?_
    rw [meetsCased_append, if_pos hx, hc, hy, meetsCased_of_all hx]
    nofun
  · rw [Bool.or_eq_false_iff, Bool.not_eq_false', Bool.not_eq_false'] at h
    obtain ⟨hx, hall⟩ := h
    refine .inr fun c hc => ?_
    rw [meetsCased_append, if_pos hall, hc, hx, hy]
    nofun

/-! ## Where such texts are found -/

section Infix

variable {α : Type} {p q : List α} {d : α}

theorem not_infix_concat (hlength : p.length = q.length) (hne : p ≠ q)
    (hlast : p.getLast? ≠ some d) : ¬ p <:+: q ++ [d] := by
  rw [List.infix_concat_iff, List.suffix_concat_iff]
  rintro ((rfl | ⟨t, rfl, -⟩) | hpart)
  · exact hne (List.eq_nil_of_length_eq_zero hlength.symm).symm
  · exact hlast List.getLast?_concat
  · exact hne (hpart.eq_of_length hlength)

theorem not_infix_cons (hlength : p.length = q.length) (hne : p ≠ q) (hhead : p.head? ≠ some d) :
    ¬ p <:+: d :: q := by
  rw [List.infix_cons_iff, List.prefix_cons_iff]
  rintro ((rfl | ⟨t, rfl, -⟩) | hpart)
  · exact hne (List.eq_nil_of_length_eq_zero hlength.symm).symm
  · exact hhead rfl
  · exact hne (hpart.eq_of_length hlength)

end Infix

theorem Steady.agree (h : Steady k) (before after : List Char) : SigmasAgree before after k :=
  fun x y hxy => endsWord_of_settlesSigma (h x y hxy) before after

/-- Whether the rest of a text settles its sigmas; what has been read comes first, in reverse. -/
def steadyAfter (before : List Char) : List Char → Bool
  | [] => true
  | c :: rest => (c ≠ 'Σ' || settlesSigma before rest) && steadyAfter (c :: before) rest

theorem steadyAfter_eq_true (before k : List Char) : steadyAfter before k = true ↔
    ∀ x y, k = x ++ 'Σ' :: y → settlesSigma (x.reverse ++ before) y = true := by
  induction k generalizing before with
  | nil => simp [steadyAfter]
  | cons c rest ih =>
    rw [steadyAfter, Bool.and_eq_true, Bool.or_eq_true, decide_eq_true_eq, ih, forall_sigma_cons,
      or_iff_not_imp_left, not_not]
    simp only [List.reverse_nil, List.reverse_cons, List.nil_append, List.append_assoc,
      List.singleton_append]

instance : DecidablePred Steady := fun k =>
  decidable_of_iff (steadyAfter [] k = true) <| by
    rw [steadyAfter_eq_true]
    simp only [List.append_nil]
    rfl

theorem steady_of_not_mem (h : 'Σ' ∉ k) : Steady k := by
  rintro x y rfl
  exact absurd (List.mem_append_right x List.mem_cons_self) h

def otherLetter (c? : Option Char) : Char := if c? = some 'a' then 'b' else 'a'

theorem otherLetter_spec (c? : Option Char) :
    lowerChar (otherLetter c?) = [otherLetter c?] ∧ meetsCased [otherLetter c?] = true ∧
      otherLetter c? ≠ 'Σ' ∧ c? ≠ some (otherLetter c?) := by
  unfold otherLetter
  split
  · next h =>
    rw [h]
    decide +kernel
  · next h => exact ⟨by decide +kernel, by decide +kernel, by decide, h⟩

theorem lowerAfter_singleton (hc : c ≠ 'Σ') (before : List Char) :
    lowerAfter before [c] = lowerChar c := by
  rw [lowerAfter, lowerAfter, List.append_nil]
  exact if_neg hc

theorem exists_not_found (h : settlesSigma x.reverse y = false) :
    ∃ a b, ¬ lower (x ++ 'Σ' :: y) <:+: lower (a ++ (x ++ 'Σ' :: y) ++ b) := by
  generalize hk : x ++ 'Σ' :: y = k
  rcases of_settlesSigma_eq_false h with hfront | hbehind
  · let c := otherLetter (lower k).head?
    obtain ⟨hself, hcased, hsigma, hnew⟩ := otherLetter_spec (lower k).head?
    refine ⟨[c], [], ?_⟩
    have hlower : lower ([c] ++ k ++ []) = c :: lowerBetween [c] [] k := by
      rw [List.append_nil, List.singleton_append, lower, lowerAfter, lowerAfter_eq, if_neg hsigma,
        hself]
      rfl
    rw [hlower]
    refine not_infix_cons ?_ (fun heq => ?_) hnew
    · rw [lower_eq]
      exact length_lowerBetween ..
    · have hagree := lowerBetween_eq_lower_iff.mp heq.symm x y hk.symm
      rw [List.append_nil] at hagree
      exact hfront c hcased hagree
  · let c := otherLetter (lower k).getLast?
    obtain ⟨hself, hcased, hsigma, hnew⟩ := otherLetter_spec (lower k).getLast?
    refine ⟨[], [c], ?_⟩
    have hlower : lower ([] ++ k ++ [c]) = lowerBetween [] [c] k ++ [c] := by
      rw [List.nil_append, lower, lowerAfter_append, lowerAfter_singleton hsigma, hself]
    rw [hlower]
    refine not_infix_concat ?_ (fun heq => ?_) hnew
    · rw [lower_eq]
      exact length_lowerBetween ..
    · have hagree := lowerBetween_eq_lower_iff.mp heq.symm x y hk.symm
      rw [List.append_nil] at hagree
      exact hbehind c hcased hagree

theorem steady_iff : Steady k ↔ ∀ a b, lower k <:+: lower (a ++ k ++ b) := by
  refine ⟨fun h a b => lower_infix_of_agree (h.agree _ _), fun h x y hxy => ?_⟩
  refine eq_true_of_ne_false fun hopen => ?_
  obtain ⟨a, b, hnot⟩ := exists_not_found hopen
  rw [← hxy] at hnot
  exact hnot (h a b)

end CivicForum.Text
