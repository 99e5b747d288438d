import CivicForum.Text.Blank
import Mathlib.Data.List.Basic
import Mathlib.Data.List.TakeWhile

/-! # White space around a text

* `Text.trim_append`: white space before and after a text is trimmed with it.
* `Text.trim_eq_self`: a text that neither starts nor ends with white space is left as it is.
-/

set_option autoImplicit false

namespace CivicForum.Text

variable {cs before after : List Char}

/-- The text is nothing but white space. -/
def AllBlank (cs : List Char) : Prop := ∀ c ∈ cs, isBlank c = true

/-- There is no white space in the text, and something else. -/
structure Solid (cs : List Char) : Prop where
  ne_nil : cs ≠ []
  solid : ∀ c ∈ cs, isBlank c = false

theorem trimStart_append_of_blank (h : AllBlank before) :
    trimStart (before ++ cs) = trimStart cs := by
  induction before with
  | nil => rfl
  | cons c before ih =>
    obtain ⟨hc, hbefore⟩ := List.forall_mem_cons.mp h
    show (c :: (before ++ cs)).dropWhile isBlank = _
    rw [List.dropWhile_cons_of_pos hc]
    exact ih hbefore

theorem trimStart_append_of_solid (h : Solid before) :
    trimStart (before ++ cs) = before ++ cs := by
  obtain ⟨c, rest, rfl⟩ := List.exists_cons_of_ne_nil h.ne_nil
  have hc : ¬ isBlank c = true := by
    rw [h.solid c List.mem_cons_self]
    nofun
  exact List.dropWhile_cons_of_neg hc

theorem trimStart_eq_nil (h : AllBlank cs) : trimStart cs = [] := List.dropWhile_eq_nil_iff.mpr h

theorem allBlank_reverse (h : AllBlank cs) : AllBlank cs.reverse :=
  fun c hc => h c (List.mem_reverse.mp hc)

/-- White space after a text that is not all white space stays there when its start is trimmed. -/
theorem trimStart_append (h : ¬ AllBlank cs) : trimStart (cs ++ after) = trimStart cs ++ after := by
  induction cs with
  | nil => exact absurd (fun _ hc => absurd hc List.not_mem_nil) h
  | cons c cs ih =>
    by_cases hc : isBlank c = true
    · have hrest : ¬ AllBlank cs := fun hcs => h (List.forall_mem_cons.mpr ⟨hc, hcs⟩)
      have hfirst : ∀ ds, trimStart (c :: ds) = trimStart ds :=
        fun ds => List.dropWhile_cons_of_pos hc
      rw [List.cons_append, hfirst, hfirst]
      exact ih hrest
    · have hfirst : ∀ ds, trimStart (c :: ds) = c :: ds :=
        fun ds => List.dropWhile_cons_of_neg hc
      rw [List.cons_append, hfirst, hfirst]
      rfl

theorem trim_append (hbefore : AllBlank before) (hafter : AllBlank after) :
    trim (before ++ cs ++ after) = trim cs := by
  unfold trim
  rw [List.append_assoc, trimStart_append_of_blank hbefore]
  by_cases h : AllBlank cs
  · have hall : AllBlank (cs ++ after) := List.forall_mem_append.mpr ⟨h, hafter⟩
    rw [trimStart_eq_nil h, trimStart_eq_nil hall]
  · rw [trimStart_append h, List.reverse_append,
      trimStart_append_of_blank (allBlank_reverse hafter)]

theorem trim_eq_self (hbefore : Solid before) (hafter : Solid after) :
    trim (before ++ cs ++ after) = before ++ cs ++ after := by
  have hreverse : Solid after.reverse :=
    ⟨fun hnil => hafter.ne_nil (List.reverse_eq_nil_iff.mp hnil),
      fun c hc => hafter.solid c (List.mem_reverse.mp hc)⟩
  unfold trim
  rw [List.append_assoc, trimStart_append_of_solid hbefore, ← List.append_assoc,
    List.reverse_append, trimStart_append_of_solid hreverse, ← List.reverse_append,
    List.reverse_reverse]

end CivicForum.Text
