import CivicForum.Pattern.Basic
import CivicForum.Proofs.Pattern.Search

/-! # Patterns without special characters

* `Pattern.Plain`: every character of the pattern stands for itself.
* `Pattern.ofWord`: the expression of such a pattern, one character after the other in either case.
* `Pattern.compile?_of_plain`: the pattern compiles to this expression, unless that is too large.
* `Pattern.Expr.spans_sets`: where characters of some sets follow one another.
-/

set_option autoImplicit false

namespace CivicForum.Pattern

/-- No character of the pattern has a meaning of its own. -/
def Plain (cs : List Char) : Prop := ∀ c ∈ cs, isMeta c = false

instance (cs : List Char) : Decidable (Plain cs) := List.decidableBAll _ cs

/-- The characters of a word one after the other, in either case. -/
def ofWord (cs : List Char) : Expr := .concatAll (cs.map fun c => .set (.caseVariants c))

/-! ## Reading -/

/-- The characters of a word, each standing for itself. -/
def literals (cs : List Char) : List Tree := cs.map fun c => .atom (.literal c false)

variable {cs : List Char} {c : Char} {r : Reader} {fuel : Nat}

theorem run_cons_of_plain (hr : r.spaced = false) (hc : isMeta c = false) (fuel : Nat)
    (rest : List Char) :
    r.run (fuel + 1) (c :: rest) = (r.push (.atom (.literal c false))).run fuel rest := by
  have hskip : skipIgnored false (c :: rest) = c :: rest := rfl
  rw [Reader.run, hr, hskip]
  dsimp only
  split
  case h_13 => rfl
  all_goals exact absurd hc (by decide)

/-- The reader keeps what it has read of the current alternative, latest first. -/
theorem run_of_plain (h : Plain cs) (hr : r.spaced = false) (hclosed : r.waiting = [])
    (hfuel : cs.length < fuel) :
    r.run fuel cs =
      some { r.level with items := (literals cs).reverse ++ r.level.items }.close := by
  induction cs generalizing r fuel with
  | nil =>
    obtain ⟨fuel, rfl⟩ := Nat.exists_eq_add_one_of_ne_zero (Nat.ne_of_gt hfuel)
    rw [Reader.run, hr]
    show (if r.waiting.isEmpty then some r.level.close else none) = _
    rw [hclosed]
    rfl
  | cons c rest ih =>
    obtain ⟨fuel, rfl⟩ := Nat.exists_eq_add_one_of_ne_zero (Nat.ne_of_gt (Nat.zero_lt_of_lt hfuel))
    obtain ⟨hc, hrest⟩ := List.forall_mem_cons.mp h
    rw [run_cons_of_plain hr hc, ih (r := r.push _) hrest hr hclosed (Nat.lt_of_succ_lt_succ hfuel)]
    simp only [Reader.push, Level.push, literals, List.map_cons, List.reverse_cons,
      List.append_assoc, List.singleton_append]

theorem depth_literals (cs : List Char) : (Tree.ofSequence (literals cs)).depth ≤ 1 := by
  have hflat : ∀ cs, Tree.depthOfList (literals cs) = 0 := by
    intro cs
    induction cs with
    | nil => rfl
    | cons c rest ih => exact Nat.max_eq_zero_iff.mpr ⟨rfl, ih⟩
  match cs with
  | [] => exact Nat.zero_le 1
  | [c] => exact Nat.zero_le 1
  | c :: d :: rest => exact Nat.succ_le_succ (Nat.le_of_eq (hflat (c :: d :: rest)))

theorem parse?_of_plain (h : Plain cs) : Tree.parse? cs = some (.ofSequence (literals cs)) := by
  have hrun := run_of_plain (r := {}) h rfl rfl (Nat.lt_succ_self cs.length)
  have hclose : Level.close { items := (literals cs).reverse ++ [] } = .ofSequence (literals cs) := by
    simp only [Level.close, Level.divide, List.append_nil, List.reverse_reverse]
    rfl
  unfold Tree.parse?
  rw [hrun, hclose]
  exact if_pos (Nat.le_trans (depth_literals cs) (by decide))

/-! ## Meaning -/

theorem exprs?_literals (cs : List Char) :
    Tree.exprs? {} (literals cs) = some (cs.map fun c => .set (.caseVariants c), {}) := by
  induction cs with
  | nil => rfl
  | cons c rest ih =>
    have hatom : Tree.expr? {} (.atom (.literal c false)) = some (.set (.caseVariants c), {}) := rfl
    show Tree.exprs? {} (.atom (.literal c false) :: literals rest) = _
    simp only [Tree.exprs?, hatom, ih, Option.bind_eq_bind, Option.bind_some]
    rfl

theorem expr?_ofSequence (m : Mode) (ts : List Tree) :
    (Tree.ofSequence ts).expr? m = (Tree.exprs? m ts).map fun p => (.concatAll p.1, p.2) := by
  match ts with
  | [] => rfl
  | [t] =>
    rw [Tree.ofSequence, Tree.exprs?]
    rcases t.expr? m with - | ⟨e, m'⟩ <;> rfl
  | t :: u :: rest =>
    rw [Tree.ofSequence, Tree.expr?]
    · rcases Tree.exprs? m (t :: u :: rest) with - | ⟨es, m'⟩ <;> rfl
    all_goals nofun

/-- The only thing that can be wrong with the pattern is its size. -/
theorem compile?_of_plain (h : Plain cs) :
    compile? cs = if (ofWord cs).size ≤ Expr.maxSize then some (ofWord cs) else none := by
  unfold compile?
  rw [parse?_of_plain h]
  show ((Tree.ofSequence (literals cs)).expr? {}).bind _ = _
  rw [expr?_ofSequence, exprs?_literals]
  rfl

theorem isSome_compile?_iff (h : Plain cs) :
    (compile? cs).isSome = true ↔ (ofWord cs).size ≤ Expr.maxSize := by
  rw [compile?_of_plain h, Option.isSome_ite]

/-! ## Searching -/

namespace Expr

variable {text : List Char} {i j : Nat}

theorem spans_concatAll_cons (e : Expr) (es : List Expr) :
    (concatAll (e :: es)).Spans text i j ↔
      ∃ p, e.Spans text i p ∧ (concatAll es).Spans text p j := by
  cases es with
  | nil =>
    show e.Spans text i j ↔ ∃ p, e.Spans text i p ∧ p = j
    exact exists_eq_right.symm
  | cons f es => rfl

theorem spans_sets (ss : List CharSet) :
    (concatAll (ss.map .set)).Spans text i j ↔ j = i + ss.length ∧
      List.Forall₂ (fun s c => s.contains c = true) ss ((text.drop i).take ss.length) := by
  induction ss generalizing i with
  | nil =>
    show i = j ↔ j = i ∧ List.Forall₂ _ [] []
    exact ⟨fun h => ⟨h.symm, .nil⟩, fun h => h.1.symm⟩
  | cons s ss ih =>
    rw [List.map_cons, spans_concatAll_cons]
    simp only [ih, Spans, List.length_cons]
    constructor
    · rintro ⟨_, ⟨rfl, c, hc, hs⟩, rfl, hrest⟩
      obtain ⟨hi, rfl⟩ := List.getElem?_eq_some_iff.mp hc
      rw [List.drop_eq_getElem_cons hi]
      exact ⟨by omega, .cons hs hrest⟩
    · rintro ⟨rfl, hword⟩
      by_cases hi : i < text.length
      · rw [List.drop_eq_getElem_cons hi] at hword
        obtain ⟨hs, hrest⟩ := List.forall₂_cons.mp hword
        exact ⟨i + 1, ⟨rfl, _, List.getElem?_eq_getElem hi, hs⟩, by omega, hrest⟩
      · rw [List.drop_eq_nil_of_le (Nat.not_lt.mp hi)] at hword
        cases hword

end Expr

end CivicForum.Pattern
