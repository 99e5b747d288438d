import CivicForum.Json.Printer
import CivicForum.Json.Reader

/-! # JSON text

* `Json.Spells`: a text spells a value. Blanks may stand between any two parts, and a character of a
  string may be escaped in several ways.
* `Json.Carries`: some fields carry an input, whatever their order.
* `Json.spells_list`, `Json.spells_record`, `Json.spelledBy_compact`: what the printer writes spells
  the value.
-/

set_option autoImplicit false

namespace CivicForum.Json

/-! ## Strings -/

/-- Blanks between two parts of a text. -/
def Blank (b : List Char) : Prop := ∀ c ∈ b, isSpace c = true

/-- One character of a string, as it may stand between the quotes. -/
inductive SpellsChar : Char → List Char → Prop where
  | plain {c : Char} (hquote : c ≠ '"') (hslash : c ≠ '\\') (hcontrol : 0x20 ≤ c.toNat) :
      SpellsChar c [c]
  | letter {c e : Char} (he : simpleEscape? e = some c) : SpellsChar c ['\\', e]
  | unit {a b c d : Char} {n : Nat} (hn : codeUnit? a b c d = some n)
      (hhigh : isHighSurrogate n = false) (hlow : isLowSurrogate n = false) :
      SpellsChar (Char.ofNat n) ['\\', 'u', a, b, c, d]
  | pair {a b c d e f g h : Char} {hi lo : Nat} (hhi : codeUnit? a b c d = some hi)
      (hhigh : isHighSurrogate hi = true) (hlo : codeUnit? e f g h = some lo)
      (hlow : isLowSurrogate lo = true) :
      SpellsChar (Char.ofNat (0x10000 + (hi - 0xD800) * 0x400 + (lo - 0xDC00)))
        ['\\', 'u', a, b, c, d, '\\', 'u', e, f, g, h]

/-- The characters between the quotes. -/
inductive SpellsChars : List Char → List Char → Prop where
  | nil : SpellsChars [] []
  | cons {c : Char} {cs w ws : List Char} (hc : SpellsChar c w) (hcs : SpellsChars cs ws) :
      SpellsChars (c :: cs) (w ++ ws)

/-! ## Values -/

mutual

/-- The text spells the value. Numbers with a fraction or an exponent are left out. -/
inductive Spells : Json → List Char → Prop where
  | null : Spells .null ['n', 'u', 'l', 'l']
  | isTrue : Spells (.truth true) ['t', 'r', 'u', 'e']
  | isFalse : Spells (.truth false) ['f', 'a', 'l', 's', 'e']
  | int (n : Int) : Spells (.int n) (Text.writeInt n)
  | text {s : String} {w : List Char} (hs : SpellsChars s.toList w) :
      Spells (.text s) ('"' :: (w ++ ['"']))
  | emptyList {b : List Char} (hb : Blank b) : Spells (.list []) ('[' :: (b ++ [']']))
  | list {v : Json} {vs : List Json} {b w ws : List Char} (hb : Blank b) (hv : Spells v w)
      (hvs : SpellsItems vs ws) : Spells (.list (v :: vs)) ('[' :: (b ++ (w ++ (ws ++ [']']))))
  | emptyRecord {b : List Char} (hb : Blank b) :
      Spells (.record []) ('\x7b' :: (b ++ ['\x7d']))
  | record {name : String} {v : Json} {fields : List (String × Json)} {b w ws : List Char}
      (hb : Blank b) (hv : SpellsField name v w) (hfields : SpellsFields fields ws) :
      Spells (.record ((name, v) :: fields)) ('\x7b' :: (b ++ (w ++ (ws ++ ['\x7d']))))

/-- What follows an element of a list, up to the closing bracket. -/
inductive SpellsItems : List Json → List Char → Prop where
  | nil {b : List Char} (hb : Blank b) : SpellsItems [] b
  | cons {v : Json} {vs : List Json} {b b' w ws : List Char} (hb : Blank b) (hb' : Blank b')
      (hv : Spells v w) (hvs : SpellsItems vs ws) :
      SpellsItems (v :: vs) (b ++ ',' :: (b' ++ (w ++ ws)))

/-- A field of a record. -/
inductive SpellsField : String → Json → List Char → Prop where
  | mk {name : String} {v : Json} {n b b' w : List Char} (hname : SpellsChars name.toList n)
      (hb : Blank b) (hb' : Blank b') (hv : Spells v w) :
      SpellsField name v ('"' :: (n ++ '"' :: (b ++ ':' :: (b' ++ w))))

/-- What follows a field of a record, up to the closing brace. -/
inductive SpellsFields : List (String × Json) → List Char → Prop where
  | nil {b : List Char} (hb : Blank b) : SpellsFields [] b
  | cons {name : String} {v : Json} {fields : List (String × Json)} {b b' w ws : List Char}
      (hb : Blank b) (hb' : Blank b') (hv : SpellsField name v w)
      (hfields : SpellsFields fields ws) :
      SpellsFields ((name, v) :: fields) (b ++ ',' :: (b' ++ (w ++ ws)))

end

/-- The text spells the value, with blanks around it. -/
def SpelledBy (v : Json) (text : String) : Prop :=
  ∃ b w b', Blank b ∧ Spells v w ∧ Blank b' ∧ text = String.ofList (b ++ (w ++ b'))

/-- The fields carry the input: each of its fields once, in any order. One with its default value
may be left out. -/
structure Carries (input defaults given : List (String × Json)) : Prop where
  distinct : (given.map Prod.fst).Nodup
  sound : ∀ field ∈ given, field ∈ input
  complete : ∀ field ∈ input, field ∈ given ∨ field ∈ defaults

/-! ## What the printer writes -/

theorem blank_nil : Blank [] := nofun

theorem codeUnit?_hexDigit {n : Nat} (h : n < 0x20) :
    codeUnit? '0' '0' (Text.hexDigit (n / 16)) (Text.hexDigit (n % 16)) = some n := by
  have hall : ∀ n, n < 0x20 →
      codeUnit? '0' '0' (Text.hexDigit (n / 16)) (Text.hexDigit (n % 16)) = some n := by decide
  exact hall n h

theorem spellsChar_escaped (c : Char) : SpellsChar c (escaped c) := by
  unfold escaped
  split
  · exact .letter rfl
  · exact .letter rfl
  · exact .letter rfl
  · exact .letter rfl
  · exact .letter rfl
  · exact .letter rfl
  · exact .letter rfl
  · next hquote hslash _ _ _ _ _ =>
    split
    · next hcontrol =>
      have hunit := SpellsChar.unit (codeUnit?_hexDigit hcontrol) (by
        simp only [isHighSurrogate, Bool.and_eq_false_iff, decide_eq_false_iff_not]
        omega) (by
        simp only [isLowSurrogate, Bool.and_eq_false_iff, decide_eq_false_iff_not]
        omega)
      rwa [Char.ofNat_toNat] at hunit
    · next hcontrol => exact .plain hquote hslash (Nat.not_lt.mp hcontrol)

theorem spellsChars_escaped (cs : List Char) : SpellsChars cs (cs.flatMap escaped) := by
  induction cs with
  | nil => exact .nil
  | cons c cs ih => exact .cons (spellsChar_escaped c) ih

theorem spells_text (s : String) : Spells (.text s) (write (.text s)) :=
  .text (spellsChars_escaped s.toList)

theorem spells_int (n : Int) : Spells (.int n) (write (.int n)) := .int n

theorem spells_truth (b : Bool) : Spells (.truth b) (write (.truth b)) := by
  cases b with
  | false => exact .isFalse
  | true => exact .isTrue

theorem exists_spellsItems (v : Json) {vs : List Json} (h : ∀ u ∈ vs, Spells u u.write) :
    ∃ ws, SpellsItems vs ws ∧ writeItems (v :: vs) = v.write ++ (ws ++ [']']) := by
  induction vs generalizing v with
  | nil => exact ⟨[], .nil blank_nil, rfl⟩
  | cons u vs ih =>
    obtain ⟨hu, hvs⟩ := List.forall_mem_cons.mp h
    obtain ⟨ws, hws, hwrite⟩ := ih u hvs
    refine ⟨_, .cons blank_nil blank_nil hu hws, ?_⟩
    rw [writeItems, hwrite]
    simp only [List.nil_append, List.cons_append, List.append_assoc]

/-- What is written of a list spells the list, if that holds of its elements. -/
theorem spells_list {vs : List Json} (h : ∀ v ∈ vs, Spells v v.write) :
    Spells (.list vs) (write (.list vs)) := by
  cases vs with
  | nil => exact .emptyList blank_nil
  | cons v vs =>
    obtain ⟨hv, hvs⟩ := List.forall_mem_cons.mp h
    obtain ⟨ws, hws, hwrite⟩ := exists_spellsItems v hvs
    rw [write, hwrite]
    exact .list blank_nil hv hws

theorem spellsField_write (name : String) {v : Json} (hv : Spells v v.write) :
    SpellsField name v (quoted name.toList ++ ':' :: v.write) := by
  have hfield := SpellsField.mk (spellsChars_escaped name.toList) blank_nil blank_nil hv
  simpa only [quoted, List.nil_append, List.cons_append, List.append_assoc] using hfield

theorem exists_spellsFields (name : String) (v : Json) {fields : List (String × Json)}
    (h : ∀ field ∈ fields, Spells field.2 field.2.write) :
    ∃ ws, SpellsFields fields ws ∧ writeFields ((name, v) :: fields) =
      quoted name.toList ++ ':' :: v.write ++ (ws ++ ['\x7d']) := by
  induction fields generalizing name v with
  | nil =>
    refine ⟨[], .nil blank_nil, ?_⟩
    rw [writeFields]
    simp only [List.nil_append, List.cons_append, List.append_assoc]
  | cons field fields ih =>
    obtain ⟨hfield, hfields⟩ := List.forall_mem_cons.mp h
    obtain ⟨ws, hws, hwrite⟩ := ih field.1 field.2 hfields
    refine ⟨_, .cons blank_nil blank_nil (spellsField_write field.1 hfield) hws, ?_⟩
    rw [writeFields, hwrite]
    simp only [List.nil_append, List.cons_append, List.append_assoc]

theorem spells_record {fields : List (String × Json)}
    (h : ∀ field ∈ fields, Spells field.2 field.2.write) :
    Spells (.record fields) (write (.record fields)) := by
  cases fields with
  | nil => exact .emptyRecord blank_nil
  | cons field fields =>
    obtain ⟨hfield, hfields⟩ := List.forall_mem_cons.mp h
    obtain ⟨ws, hws, hwrite⟩ := exists_spellsFields field.1 field.2 hfields
    rw [write, hwrite]
    exact .record blank_nil (spellsField_write field.1 hfield) hws

theorem spelledBy_compact {v : Json} (h : Spells v v.write) : v.SpelledBy v.compact :=
  ⟨[], v.write, [], blank_nil, h, blank_nil, by rw [List.nil_append, List.append_nil, compact]⟩

end CivicForum.Json
