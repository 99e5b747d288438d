import CivicForum.Pattern.Expr
import Mathlib.Data.List.Basic

/-! # What a search finds

A search works on sets of places: from all the places where a match can start it computes all those
where one can end.

* `Pattern.Expr.Spans`: what an expression means, the part of a text between two places matching it.
* `Pattern.Tracks`: a step from sets of places to sets of places follows a relation between places.
* `Pattern.Expr.tracks_ends`: the places that are computed for an expression are those where a part
  that matches it ends.
* `Pattern.Expr.occursIn_eq_true`: a search tells whether some part of a text matches.
-/

set_option autoImplicit false

namespace CivicForum.Pattern

/-! ## Steps in a row -/

/-- From one place to another in `n` steps of a relation. -/
def Steps (R : Nat → Nat → Prop) : Nat → Nat → Nat → Prop
  | 0, i, j => i = j
  | n + 1, i, k => ∃ j, R i j ∧ Steps R n j k

section Steps

variable {R : Nat → Nat → Prop} {n k i j : Nat}

theorem steps_add {m : Nat} :
    Steps R (m + n) i k ↔ ∃ j, Steps R m i j ∧ Steps R n j k := by
  induction m generalizing i with
  | zero => simp [Steps]
  | succ m ih =>
    rw [Nat.succ_add]
    simp only [Steps, ih]
    constructor
    · rintro ⟨p, hp, j, hj, hk⟩
      exact ⟨j, ⟨p, hp, hj⟩, hk⟩
    · rintro ⟨j, ⟨p, hp, hj⟩, hk⟩
      exact ⟨p, hp, j, hj, hk⟩

/-- What a step keeps, steps in a row keep. -/
theorem Steps.keep {P : Nat → Prop} (hR : ∀ i j, P i → R i j → P j) (h : Steps R n i j)
    (hi : P i) : P j := by
  induction n generalizing i with
  | zero => exact h ▸ hi
  | succ n ih =>
    obtain ⟨p, hp, hrest⟩ := h
    exact ih hrest (hR i p hi hp)

/-! Between two places there is no room for more steps forward than lie between them. Where there are
more, one of them stays in place, and it can be left out or taken again. -/

variable (hR : ∀ i j, R i j → i ≤ j)
include hR

theorem Steps.le (h : Steps R n i j) : i ≤ j :=
  h.keep (fun p q hp hpq => Nat.le_trans hp (hR p q hpq)) (Nat.le_refl i)

theorem Steps.pred (h : Steps R (n + 1) i j) (hroom : j - i ≤ n) : Steps R n i j := by
  induction n generalizing i with
  | zero =>
    have hle := Steps.le hR h
    exact Nat.le_antisymm hle (by omega)
  | succ n ih =>
    obtain ⟨p, hp, hrest⟩ := h
    by_cases hstay : p = i
    · exact hstay ▸ hrest
    · have hforward := hR i p hp
      exact ⟨p, hp, ih hrest (by omega)⟩

theorem Steps.succ (h : Steps R n i j) (hroom : j - i < n) : Steps R (n + 1) i j := by
  induction n generalizing i with
  | zero => exact absurd hroom (Nat.not_lt_zero _)
  | succ n ih =>
    obtain ⟨p, hp, hrest⟩ := h
    by_cases hstay : p = i
    · subst hstay
      exact ⟨p, hp, p, hp, hrest⟩
    · have hforward := hR i p hp
      have hleft := Steps.le hR hrest
      exact ⟨p, hp, ih hrest (by omega)⟩

theorem Steps.of_ge (h : Steps R n i j) (hroom : j - i ≤ k) (hk : k ≤ n) : Steps R k i j := by
  induction hk with
  | refl => exact h
  | step hk ih => exact ih (Steps.pred hR h (Nat.le_trans hroom hk))

theorem Steps.of_le (h : Steps R n i j) (hroom : j - i < n) (hk : n ≤ k) : Steps R k i j := by
  induction hk with
  | refl => exact h
  | step hk ih => exact Steps.succ hR ih (Nat.lt_of_lt_of_le hroom hk)

end Steps

/-! ## Sets of places -/

/-- The place is in the set. -/
def Marks.Has (m : Marks) (i : Nat) : Prop := m[i]? = some true

namespace Marks

variable {a b m : Marks} {i n : Nat}

theorem Has.lt (h : m.Has i) : i < m.length := (List.getElem?_eq_some_iff.mp h).1

theorem any_eq_true : m.any id = true ↔ ∃ i, m.Has i := by
  rw [List.any_eq_true]
  constructor
  · rintro ⟨b, hb, hid⟩
    obtain ⟨i, hi⟩ := List.mem_iff_getElem?.mp hb
    exact ⟨i, hi.trans (congrArg some hid)⟩
  · rintro ⟨i, hi⟩
    exact ⟨true, List.mem_iff_getElem?.mpr ⟨i, hi⟩, rfl⟩

theorem isEmpty_eq_true : m.isEmpty = true ↔ ∀ i, ¬ m.Has i := by
  rw [isEmpty, Bool.not_eq_true', ← Bool.not_eq_true, any_eq_true, not_exists]

theorem length_or (h : a.length = b.length) : (a.or b).length = b.length := by
  rw [or, List.length_zipWith, h, Nat.min_self]

theorem length_minus (h : a.length = b.length) : (a.minus b).length = b.length := by
  rw [minus, List.length_zipWith, h, Nat.min_self]

theorem has_or (h : a.length = b.length) : (a.or b).Has i ↔ a.Has i ∨ b.Has i := by
  unfold Has or
  rw [List.getElem?_zipWith]
  by_cases hi : i < a.length
  · rw [List.getElem?_eq_getElem hi, List.getElem?_eq_getElem (h ▸ hi)]
    simp
  · rw [List.getElem?_eq_none (Nat.not_lt.mp hi), List.getElem?_eq_none (h ▸ Nat.not_lt.mp hi)]
    simp

theorem has_minus (h : a.length = b.length) : (a.minus b).Has i ↔ a.Has i ∧ ¬ b.Has i := by
  unfold Has minus
  rw [List.getElem?_zipWith]
  by_cases hi : i < a.length
  · rw [List.getElem?_eq_getElem hi, List.getElem?_eq_getElem (h ▸ hi)]
    simp
  · rw [List.getElem?_eq_none (Nat.not_lt.mp hi)]
    simp

theorem has_replicate : Has (List.replicate n true) i ↔ i < n := by
  unfold Has
  rw [List.getElem?_replicate]
  split <;> simp [*]

end Marks

/-! ## Steps on sets of places -/

/-- On sets of `n` places, the step leads to the places that the relation leads to. -/
def Tracks (n : Nat) (R : Nat → Nat → Prop) (f : Marks → Marks) : Prop :=
  ∀ m : Marks, m.length = n → (f m).length = n ∧ ∀ j, (f m).Has j ↔ ∃ i, m.Has i ∧ R i j

namespace Tracks

variable {n : Nat} {R S : Nat → Nat → Prop} {f g : Marks → Marks}

theorem id : Tracks n Eq id := by
  refine fun m hm => ⟨hm, fun j => ?_⟩
  simp

theorem comp (hf : Tracks n R f) (hg : Tracks n S g) :
    Tracks n (fun i k => ∃ j, R i j ∧ S j k) (g ∘ f) := by
  intro m hm
  obtain ⟨hlength, hfirst⟩ := hf m hm
  obtain ⟨hlength', hlast⟩ := hg (f m) hlength
  refine ⟨hlength', fun k => ?_⟩
  rw [Function.comp_apply, hlast]
  simp only [hfirst]
  constructor
  · rintro ⟨j, ⟨i, hi, hij⟩, hjk⟩
    exact ⟨i, hi, j, hij, hjk⟩
  · rintro ⟨i, hi, j, hij, hjk⟩
    exact ⟨j, ⟨i, hi, hij⟩, hjk⟩

theorem or (hf : Tracks n R f) (hg : Tracks n S g) :
    Tracks n (fun i j => R i j ∨ S i j) fun m => (f m).or (g m) := by
  intro m hm
  obtain ⟨hlength, hleft⟩ := hf m hm
  obtain ⟨hlength', hright⟩ := hg m hm
  have hsame : (f m).length = (g m).length := hlength.trans hlength'.symm
  refine ⟨(Marks.length_or hsame).trans hlength', fun j => ?_⟩
  rw [Marks.has_or hsame, hleft, hright, ← exists_or]
  simp only [and_or_left]

/-- Only the places of the text matter. -/
theorem congr (h : Tracks n R f) (hiff : ∀ i j, i < n → (R i j ↔ S i j)) : Tracks n S f := by
  intro m hm
  obtain ⟨hlength, hplaces⟩ := h m hm
  refine ⟨hlength, fun j => (hplaces j).trans ?_⟩
  constructor
  · rintro ⟨i, hi, hij⟩
    exact ⟨i, hi, (hiff i j (hm ▸ hi.lt)).mp hij⟩
  · rintro ⟨i, hi, hij⟩
    exact ⟨i, hi, (hiff i j (hm ▸ hi.lt)).mpr hij⟩

theorem repeatStep (hf : Tracks n R f) (k : Nat) : Tracks n (Steps R k) (repeatStep f k) := by
  induction k with
  | zero => exact Tracks.id
  | succ k ih =>
    intro m hm
    rw [Pattern.repeatStep]
    split
    · next hempty =>
      have hnone := Marks.isEmpty_eq_true.mp hempty
      exact ⟨hm, fun j => ⟨fun hj => absurd hj (hnone j), fun ⟨i, hi, _⟩ => absurd hi (hnone i)⟩⟩
    · exact (hf.comp ih) m hm

/-- Every place that has been reached and is not fresh has had its step taken. -/
theorem reach_of_settled (hf : Tracks n R f) {k : Nat} {seen fresh : Marks}
    (hseen : seen.length = n) (hfresh : fresh.length = n) (hpart : ∀ i, fresh.Has i → seen.Has i)
    (hsettled : ∀ i, seen.Has i → ¬ fresh.Has i → ∀ j, R i j → seen.Has j) :
    (reach f k seen fresh).length = n ∧
      ∀ j, (reach f k seen fresh).Has j ↔ ∃ l ≤ k, ∃ i, seen.Has i ∧ Steps R l i j := by
  induction k generalizing seen fresh with
  | zero =>
    refine ⟨hseen, fun j => ⟨fun hj => ⟨0, Nat.le_refl 0, j, hj, rfl⟩, ?_⟩⟩
    rintro ⟨l, hl, i, hi, hsteps⟩
    obtain rfl := Nat.le_zero.mp hl
    exact hsteps ▸ hi
  | succ k ih =>
    rw [reach]
    split
    · next hempty =>
      have hnone := Marks.isEmpty_eq_true.mp hempty
      refine ⟨hseen, fun j => ⟨fun hj => ⟨0, Nat.zero_le _, j, hj, rfl⟩, ?_⟩⟩
      rintro ⟨l, -, i, hi, hsteps⟩
      exact hsteps.keep (fun p q hp hpq => hsettled p hp (hnone p) q hpq) hi
    · obtain ⟨hnext, hstep⟩ := hf fresh hfresh
      have hor : ∀ i, (seen.or (f fresh)).Has i ↔ seen.Has i ∨ (f fresh).Has i :=
        fun i => Marks.has_or (hseen.trans hnext.symm)
      have hminus : ∀ i, ((f fresh).minus seen).Has i ↔ (f fresh).Has i ∧ ¬ seen.Has i :=
        fun i => Marks.has_minus (hnext.trans hseen.symm)
      have htaken : ∀ i, seen.Has i → ∀ j, R i j → (seen.or (f fresh)).Has j := by
        intro i hi j hij
        by_cases hnew : fresh.Has i
        · exact (hor j).mpr (.inr ((hstep j).mpr ⟨i, hnew, hij⟩))
        · exact (hor j).mpr (.inl (hsettled i hi hnew j hij))
      have hseen' : (seen.or (f fresh)).length = n :=
        (Marks.length_or (hseen.trans hnext.symm)).trans hnext
      have hfresh' : ((f fresh).minus seen).length = n :=
        (Marks.length_minus (hnext.trans hseen.symm)).trans hseen
      obtain ⟨hlength, hplaces⟩ := ih hseen' hfresh'
        (fun i hi => (hor i).mpr (.inr ((hminus i).mp hi).1))
        (fun i hi hold => htaken i (Classical.byContradiction fun hnot =>
          hold ((hminus i).mpr ⟨((hor i).mp hi).resolve_left hnot, hnot⟩)))
      refine ⟨hlength, fun j => (hplaces j).trans ?_⟩
      constructor
      · rintro ⟨l, hl, i, hi, hsteps⟩
        rcases (hor i).mp hi with hi | hi
        · exact ⟨l, Nat.le_succ_of_le hl, i, hi, hsteps⟩
        · obtain ⟨p, hp, hpi⟩ := (hstep i).mp hi
          exact ⟨l + 1, Nat.succ_le_succ hl, p, hpart p hp, i, hpi, hsteps⟩
      · rintro ⟨l, hl, i, hi, hsteps⟩
        cases l with
        | zero => exact ⟨0, Nat.zero_le k, i, (hor i).mpr (.inl hi), hsteps⟩
        | succ l =>
          obtain ⟨p, hip, hrest⟩ := hsteps
          exact ⟨l, Nat.le_of_succ_le_succ hl, p, htaken i hi p hip, hrest⟩

theorem reach (hf : Tracks n R f) (k : Nat) :
    Tracks n (fun i j => ∃ l ≤ k, Steps R l i j) fun m => reach f k m m := by
  intro m hm
  obtain ⟨hlength, hplaces⟩ :=
    hf.reach_of_settled (k := k) hm hm (fun _ hi => hi) (fun i hi hold => absurd hi hold)
  refine ⟨hlength, fun j => (hplaces j).trans ?_⟩
  constructor
  · rintro ⟨l, hl, i, hi, hsteps⟩
    exact ⟨i, hi, l, hl, hsteps⟩
  · rintro ⟨i, hi, l, hl, hsteps⟩
    exact ⟨l, hl, i, hi, hsteps⟩

end Tracks

/-! ## Characters and conditions -/

/-- The character before a place. -/
def charBefore (text : List Char) (i : Nat) : Option Char := if i = 0 then none else text[i - 1]?

theorem getElem?_neighbours {before : Option Char} {text : List Char} {i : Nat}
    (h : i ≤ text.length) : (neighbours before text)[i]? =
      some (if i = 0 then before else text[i - 1]?, text[i]?) := by
  induction text generalizing before i with
  | nil =>
    obtain rfl := Nat.le_zero.mp h
    rfl
  | cons c rest ih =>
    cases i with
    | zero => rfl
    | succ i =>
      rw [neighbours, List.getElem?_cons_succ, ih (Nat.le_of_succ_le_succ h)]
      cases i <;> rfl

theorem length_neighbours (before : Option Char) (text : List Char) :
    (neighbours before text).length = text.length + 1 := by
  induction text generalizing before with
  | nil => rfl
  | cons c rest ih => exact congrArg (· + 1) (ih (some c))

theorem tracks_stepOver (s : CharSet) (text : List Char) :
    Tracks (text.length + 1) (fun i j => j = i + 1 ∧ ∃ c, text[i]? = some c ∧ s.contains c = true)
      (stepOver s text) := by
  intro m hm
  have hlength : (stepOver s text m).length = text.length + 1 := by
    rw [stepOver, List.length_cons, List.length_zipWith, hm, Nat.min_eq_left (Nat.le_succ _)]
  refine ⟨hlength, fun j => ?_⟩
  unfold Marks.Has stepOver
  cases j with
  | zero => simp
  | succ i =>
    rw [List.getElem?_cons_succ, List.getElem?_zipWith]
    constructor
    · intro h
      split at h
      · next c b hc hb =>
        obtain ⟨rfl, hs⟩ := Bool.and_eq_true_iff.mp (Option.some.inj h)
        exact ⟨i, hb, rfl, c, hc, hs⟩
      · cases h
    · rintro ⟨_, hb, heq, c, hc, hs⟩
      obtain rfl := Nat.succ.inj heq
      rw [hc, hb]
      exact congrArg some hs

theorem tracks_keep (l : Look) (text : List Char) :
    Tracks (text.length + 1) (fun i j => i = j ∧ l.holds (charBefore text i) text[i]? = true)
      (keep l text) := by
  intro m hm
  have hlength : (keep l text m).length = text.length + 1 := by
    rw [keep, List.length_zipWith, length_neighbours, hm, Nat.min_self]
  refine ⟨hlength, fun j => ?_⟩
  unfold Marks.Has keep
  rw [List.getElem?_zipWith]
  constructor
  · intro h
    split at h
    · next p b hp hb =>
      obtain ⟨rfl, hl⟩ := Bool.and_eq_true_iff.mp (Option.some.inj h)
      have hj : j < text.length + 1 := hm ▸ (List.getElem?_eq_some_iff.mp hb).1
      rw [getElem?_neighbours (Nat.le_of_lt_succ hj)] at hp
      obtain rfl := Option.some.inj hp
      exact ⟨j, hb, rfl, hl⟩
    · cases h
  · rintro ⟨_, hb, rfl, hl⟩
    have hi := hm ▸ (List.getElem?_eq_some_iff.mp hb).1
    rw [getElem?_neighbours (Nat.le_of_lt_succ hi), hb]
    exact congrArg some hl

/-! ## Expressions -/

namespace Expr

/-- The part of the text between two places matches the expression. Bounds of a repetition that are
out of order count as the lower one. -/
def Spans (text : List Char) : Expr → Nat → Nat → Prop
  | .empty, i, j => i = j
  | .set s, i, j => j = i + 1 ∧ ∃ c, text[i]? = some c ∧ s.contains c = true
  | .look l, i, j => i = j ∧ l.holds (charBefore text i) text[i]? = true
  | .concat a b, i, k => ∃ j, Spans text a i j ∧ Spans text b j k
  | .alt a b, i, j => Spans text a i j ∨ Spans text b i j
  | .repetition e least most, i, j =>
    ∃ n, least ≤ n ∧ (∀ k ∈ most, n ≤ max least k) ∧ Steps (Spans text e) n i j
  | .capture e, i, j => Spans text e i j

variable {text : List Char} {e : Expr} {i j : Nat}

theorem Spans.le (h : e.Spans text i j) : i ≤ j := by
  induction e generalizing i j with
  | empty => exact Nat.le_of_eq h
  | set s =>
    obtain ⟨rfl, -⟩ := h
    exact Nat.le_succ i
  | look l => exact Nat.le_of_eq h.1
  | concat a b iha ihb =>
    obtain ⟨p, ha, hb⟩ := h
    exact Nat.le_trans (iha ha) (ihb hb)
  | alt a b iha ihb => exact h.elim iha ihb
  | repetition e least most ih =>
    obtain ⟨n, -, -, hsteps⟩ := h
    exact Steps.le (fun p q hpq => ih hpq) hsteps
  | capture e ih => exact ih h

theorem Spans.le_length (h : e.Spans text i j) (hi : i ≤ text.length) : j ≤ text.length := by
  induction e generalizing i j with
  | empty => exact h ▸ hi
  | set s =>
    obtain ⟨rfl, c, hc, -⟩ := h
    exact (List.getElem?_eq_some_iff.mp hc).1
  | look l => exact h.1 ▸ hi
  | concat a b iha ihb =>
    obtain ⟨p, ha, hb⟩ := h
    exact ihb hb (iha ha hi)
  | alt a b iha ihb => exact h.elim (fun ha => iha ha hi) fun hb => ihb hb hi
  | repetition e least most ih =>
    obtain ⟨n, -, -, hsteps⟩ := h
    exact hsteps.keep (P := (· ≤ text.length)) (fun p q hp hpq => ih hpq hp) hi
  | capture e ih => exact ih h hi

/-- Beyond the number of places, more repetitions lead nowhere else. -/
theorem spans_repetition {least : Nat} {most : Option Nat} (hi : i ≤ text.length) :
    (Expr.repetition e least most).Spans text i j ↔
      ∃ p, Steps (e.Spans text) (min least (text.length + 1)) i p ∧
        ∃ l ≤ (match most with
          | none => text.length + 1
          | some k => min (k - least) (text.length + 1)), Steps (e.Spans text) l p j := by
  have hR : ∀ p q, e.Spans text p q → p ≤ q := fun _ _ h => h.le
  have hend : ∀ n, Steps (e.Spans text) n i j → j ≤ text.length := fun n h =>
    h.keep (P := (· ≤ text.length)) (fun _ _ hp hpq => hpq.le_length hp) hi
  constructor
  · rintro ⟨n, hleast, hmost, hsteps⟩
    have hj := hend n hsteps
    have hfewer : Steps (e.Spans text)
        (min least (text.length + 1) + min (n - least) (text.length + 1)) i j := by
      by_cases hall : n = min least (text.length + 1) + min (n - least) (text.length + 1)
      · exact hall ▸ hsteps
      · exact Steps.of_ge hR hsteps (by omega) (by omega)
    obtain ⟨p, hfirst, hmore⟩ := steps_add.mp hfewer
    refine ⟨p, hfirst, _, ?_, hmore⟩
    cases most with
    | none => exact Nat.min_le_right _ _
    | some k =>
      have hk := hmost k rfl
      show min (n - least) (text.length + 1) ≤ min (k - least) (text.length + 1)
      omega
  · rintro ⟨p, hfirst, l, hl, hmore⟩
    have hsteps := steps_add.mpr ⟨p, hfirst, hmore⟩
    have hj := hend _ hsteps
    refine ⟨least + l, Nat.le_add_right _ _, ?_, ?_⟩
    · rintro k ⟨⟩
      dsimp only at hl
      omega
    · by_cases hleast : least ≤ text.length + 1
      · rwa [Nat.min_eq_left hleast] at hsteps
      · rw [Nat.min_eq_right (by omega)] at hsteps
        exact Steps.of_le hR hsteps (by omega) (by omega)

theorem tracks_ends (text : List Char) (e : Expr) :
    Tracks (text.length + 1) (e.Spans text) (e.ends text) := by
  induction e with
  | empty => exact Tracks.id
  | set s => exact tracks_stepOver s text
  | look l => exact tracks_keep l text
  | concat a b iha ihb => exact iha.comp ihb
  | alt a b iha ihb => exact iha.or ihb
  | repetition e least most ih =>
    refine ((ih.repeatStep _).comp (ih.reach _)).congr fun i j hi => ?_
    exact (spans_repetition (Nat.le_of_lt_succ hi)).symm
  | capture e ih => exact ih

theorem occursIn_eq_true :
    e.occursIn text = true ↔ ∃ i j, i ≤ text.length ∧ e.Spans text i j := by
  obtain ⟨-, hplaces⟩ := tracks_ends text e (List.replicate (text.length + 1) true)
    List.length_replicate
  rw [occursIn, Marks.any_eq_true]
  simp only [hplaces, Marks.has_replicate, Nat.lt_succ_iff]
  exact exists_comm

end Expr

end CivicForum.Pattern
