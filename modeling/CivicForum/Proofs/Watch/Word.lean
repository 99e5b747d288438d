import CivicForum.Proofs.Pattern.Plain
import CivicForum.Proofs.Text.Ascii
import CivicForum.Proofs.Watch.Literal
import Mathlib

/-! # Ordinary words as keywords

An entry of the watchlist is looked for as plain text or as a pattern. For ordinary words the two
ways lead to the same answer.

* `Watch.OrdinaryWord`: letters and digits of ASCII, and blanks.
* `Watch.OccursCaseless`: some part of the content is the keyword, the case of letters aside.
* `Pattern.occursIn_ofWord`: the search for the pattern of a word finds such a part.
* `Watch.ordinary_word_found_alike`: so does the search for plain text.
-/

set_option autoImplicit false

namespace CivicForum

/-! ## Parts of a text -/

section Parts

variable {α : Type} {k cs : List α}

theorem Text.exists_infix_map_iff (f : α → α) :
    (∃ w, w <:+: cs ∧ w.map f = k.map f) ↔ k.map f <:+: cs.map f := by
  constructor
  · rintro ⟨w, hw, heq⟩
    exact heq ▸ hw.map f
  · rintro ⟨a, b, hab⟩
    obtain ⟨front, back, rfl, hfront, -⟩ := List.map_eq_append_iff.mp hab.symm
    obtain ⟨before, w, rfl, -, hw⟩ := List.map_eq_append_iff.mp hfront
    exact ⟨w, ⟨before, back, rfl⟩, hw⟩

/-- Parts of a given length stand at one of the places of the text. -/
theorem Text.exists_infix_iff {P : List α → Prop} (hlength : ∀ w, P w → w.length = k.length) :
    (∃ w, w <:+: cs ∧ P w) ↔ ∃ i, i ≤ cs.length ∧ P ((cs.drop i).take k.length) := by
  constructor
  · rintro ⟨w, ⟨a, b, rfl⟩, hw⟩
    refine ⟨a.length, by simp, ?_⟩
    rwa [List.append_assoc, List.drop_left, ← hlength w hw, List.take_left]
  · rintro ⟨i, -, hw⟩
    have hpart : (cs.drop i).take k.length <:+: cs :=
      (List.take_prefix _ _).isInfix.trans (List.drop_suffix i cs).isInfix
    exact ⟨_, hpart, hw⟩

end Parts

/-! ## The pattern of a word -/

namespace Pattern

open Text (Ascii)

variable {k w cs : List Char}

theorem forall₂_caseVariants (hk : Ascii k) (hw : Ascii w) :
    List.Forall₂ (fun c d => (CharSet.caseVariants c).contains d = true) k w ↔
      w.map Char.toLower = k.map Char.toLower := by
  induction k generalizing w with
  | nil => simp
  | cons c k ih =>
    cases w with
    | nil => simp
    | cons d w =>
      obtain ⟨hc, hk⟩ := List.forall_mem_cons.mp hk
      obtain ⟨hd, hw⟩ := List.forall_mem_cons.mp hw
      rw [List.forall₂_cons, CharSet.contains_caseVariants hc hd, ih hk hw, List.map_cons,
        List.map_cons, List.cons.injEq]

theorem occursIn_ofWord (hk : Ascii k) (hcs : Ascii cs) :
    (ofWord k).occursIn cs = true ↔ ∃ w, w <:+: cs ∧ w.map Char.toLower = k.map Char.toLower := by
  have hlength : ∀ w : List Char, w.map Char.toLower = k.map Char.toLower → w.length = k.length :=
    fun w hw => by simpa using congrArg List.length hw
  have hword : ofWord k = .concatAll ((k.map CharSet.caseVariants).map .set) := by
    rw [List.map_map]
    rfl
  rw [Expr.occursIn_eq_true, Text.exists_infix_iff hlength, hword]
  simp only [Expr.spans_sets, List.forall₂_map_left_iff, List.length_map]
  refine exists_congr fun i => ?_
  have hpart : Ascii ((cs.drop i).take k.length) :=
    fun c hc => hcs c (List.mem_of_mem_drop (List.mem_of_mem_take hc))
  rw [forall₂_caseVariants hk hpart]
  simp

end Pattern

/-! ## Ordinary words -/

namespace Watch

/-- Letters and digits of ASCII, and blanks. -/
def OrdinaryWord (keyword : String) : Prop :=
  ∀ c ∈ keyword.toList, c.isAlphanum = true ∨ c = ' '

instance (keyword : String) : Decidable (OrdinaryWord keyword) :=
  List.decidableBAll _ keyword.toList

/-- Some part of the content is the keyword, the case of ASCII letters aside. -/
def OccursCaseless (keyword content : String) : Prop :=
  ∃ w, w <:+: content.toList ∧ w.map Char.toLower = keyword.toList.map Char.toLower

instance (keyword content : String) : Decidable (OccursCaseless keyword content) :=
  decidable_of_iff _ (Text.exists_infix_map_iff Char.toLower).symm

theorem toNat_lt_of_isAlphanum {c : Char} (h : c.isAlphanum = true) : c.toNat < 0x80 := by
  simp only [Char.isAlphanum, Char.isAlpha, Char.isUpper, Char.isLower, Char.isDigit,
    Bool.or_eq_true, Bool.and_eq_true, decide_eq_true_eq] at h
  have hlast : c.toNat ≤ 'z'.toNat := by
    rcases h with (h | h) | h
    · exact Nat.le_trans h.2 (by decide)
    · exact h.2
    · exact Nat.le_trans h.2 (by decide)
  exact Nat.lt_of_le_of_lt hlast (by decide)

theorem isMeta_eq_false {c : Char} (h : c.isAlphanum = true ∨ c = ' ') :
    Pattern.isMeta c = false := by
  refine eq_false_of_ne_true fun hmeta => ?_
  have hspecial := (List.all_eq_true (p := fun d => !(d.isAlphanum || d == ' '))).mp (by decide) c
    (of_decide_eq_true hmeta)
  rcases h with hletter | rfl
  · rw [hletter] at hspecial
    cases hspecial
  · cases hspecial

variable {keyword : String}

theorem OrdinaryWord.ascii (h : OrdinaryWord keyword) : Text.Ascii keyword.toList := by
  intro c hc
  rcases h c hc with hletter | rfl
  · exact toNat_lt_of_isAlphanum hletter
  · decide

theorem OrdinaryWord.plain (h : OrdinaryWord keyword) : Pattern.Plain keyword.toList :=
  fun c hc => isMeta_eq_false (h c hc)

/-- An ordinary word is found in ASCII content wherever it occurs there, the case of letters aside,
and nowhere else, whether it is stored as plain text or as a pattern. -/
theorem ordinary_word_found_alike (e : Entry) (content : String) (hword : OrdinaryWord e.keyword)
    (hcontent : Text.Ascii content.toList)
    (hfits : (Pattern.compile? e.keyword.toList).isSome = true) :
    ∃ found : Bool, (found = true ↔ OccursCaseless e.keyword content) ∧
      { e with isPattern := false }.matches? content.toList (Text.lower content.toList) =
        some found ∧
      { e with isPattern := true }.matches? content.toList (Text.lower content.toList) =
        some found := by
  have hplain : occursIn (Text.lower e.keyword.toList) (Text.lower content.toList) = true ↔
      OccursCaseless e.keyword content := by
    rw [occursIn_eq_true, Text.lower_eq_map hword.ascii, Text.lower_eq_map hcontent]
    exact (Text.exists_infix_map_iff Char.toLower).symm
  have hpattern : (Pattern.ofWord e.keyword.toList).occursIn content.toList = true ↔
      OccursCaseless e.keyword content := Pattern.occursIn_ofWord hword.ascii hcontent
  have hcompiled : Pattern.compile? e.keyword.toList = some (Pattern.ofWord e.keyword.toList) := by
    rw [Pattern.compile?_of_plain hword.plain]
    exact if_pos ((Pattern.isSome_compile?_iff hword.plain).mp hfits)
  refine ⟨_, hplain, rfl, ?_⟩
  unfold Entry.matches?
  rw [if_pos rfl, hcompiled, Option.map_some, Option.some.injEq, Bool.eq_iff_iff, hplain, hpattern]

/-- The long s is a variant of the letter s for patterns, but it is in lower case already. -/
example : Text.lower ['\u017F'] = ['\u017F'] ∧
    (Pattern.ofWord ['s']).occursIn ['\u017F'] = true := by
  cbv

/-- A word whose first part comes twice before the whole of it. -/
def rehearsed : Entry := ⟨1, "aab 1", false, "advertising", true, 0, ⟨1748779200, 0⟩⟩

set_option maxRecDepth 4000 in
theorem rehearsed_found :
    { rehearsed with isPattern := false }.matches? "Aa, AaAB 1".toList
      (Text.lower "Aa, AaAB 1".toList) = some true ∧
    { rehearsed with isPattern := true }.matches? "Aa, AaAB 1".toList
      (Text.lower "Aa, AaAB 1".toList) = some true := by
  have hfits : (Pattern.compile? rehearsed.keyword.toList).isSome = true := by
    have hplain : Pattern.Plain rehearsed.keyword.toList := by decide
    have hsize : (Pattern.ofWord ['a', 'a', 'b', ' ', '1']).size ≤ Pattern.Expr.maxSize := by cbv
    exact (Pattern.isSome_compile?_iff hplain).mpr hsize
  obtain ⟨found, hfound, hplain, hpattern⟩ :=
    ordinary_word_found_alike rehearsed "Aa, AaAB 1" (by decide) (by decide) hfits
  have hoccurs : OccursCaseless rehearsed.keyword "Aa, AaAB 1" := by decide
  rw [hfound.mpr hoccurs] at hplain hpattern
  exact ⟨hplain, hpattern⟩

end Watch

end CivicForum
