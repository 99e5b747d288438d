import CivicForum.Json.Format
import CivicForum.Proofs.Json.Grammar
import CivicForum.Proofs.Text.Decimal
import Mathlib.Data.List.Nodup

/-! # Reading what spells a value

* `Json.readString_spells`, `Json.readNumber_writeInt`: literals are read as what they spell.
* `Json.Format.Takes`: whatever spells the value is read as the value.
* `Json.Format.takes_int`, `takes_text`, `takes_listOf`, …: what each form takes.
* `Json.Format.readBody_carries`: a record is read from its fields, whatever their order.
-/

set_option autoImplicit false

namespace CivicForum.Json

open Text

theorem ok_bind {α β : Type} (a : α) (f : α → Except Fault β) : (Except.ok a >>= f) = f a := rfl

/-! ## Blanks -/

theorem skipSpaces_blank {b cs : List Char} (hb : Blank b) :
    skipSpaces (b ++ cs) = skipSpaces cs := List.dropWhile_append_of_pos hb

theorem skipSpaces_cons {c : Char} {cs : List Char} (hc : isSpace c = false) :
    skipSpaces (c :: cs) = c :: cs := by
  unfold skipSpaces
  rw [List.dropWhile_cons_of_neg (by rw [hc]; nofun)]

theorem skipSpaces_eq_nil {b : List Char} (hb : Blank b) : skipSpaces b = [] := by
  have h : skipSpaces (b ++ []) = skipSpaces [] := skipSpaces_blank hb
  rwa [List.append_nil] at h

/-! ## Strings -/

theorem readString_spellsChar {c : Char} {w : List Char} (h : SpellsChar c w)
    (rest : List Char) : readString false (w ++ rest) = consTo c (readString false rest) := by
  cases h with
  | plain hquote hslash hcontrol =>
    rw [List.singleton_append, readString.eq_6 _ _ _ hquote
      (fun _ _ _ _ _ _ _ _ _ h => absurd h hslash) (fun _ _ _ _ _ h => absurd h hslash)
      (fun _ _ h => absurd h hslash)]
    exact if_neg (Nat.not_lt.mpr hcontrol)
  | @letter _ e he =>
    have hu : e ≠ 'u' := by
      rintro rfl
      cases he
    rw [List.cons_append, List.singleton_append, readString.eq_5 _ _ _
      (fun _ _ _ _ _ _ _ _ _ h => absurd h hu) (fun _ _ _ _ _ h => absurd h hu), he]
  | @unit a b c d n hn hhigh hlow =>
    show readString false ('\\' :: 'u' :: a :: b :: c :: d :: rest) = _
    by_cases hnext : ∃ e f g h rest', rest = '\\' :: 'u' :: e :: f :: g :: h :: rest'
    · obtain ⟨e, f, g, h, rest', rfl⟩ := hnext
      rw [readString.eq_3, hn]
      simp only [hhigh, hlow, Bool.false_eq_true, if_false]
    · rw [readString.eq_4 _ _ _ _ _ _ fun e f g h rest' heq => hnext ⟨e, f, g, h, rest', heq⟩, hn]
      simp only [hhigh, hlow, Bool.or_self, Bool.false_eq_true, if_false]
  | @pair a b c d e f g h hi lo hhi hhigh hlo hlow =>
    show readString false
      ('\\' :: 'u' :: a :: b :: c :: d :: '\\' :: 'u' :: e :: f :: g :: h :: rest) = _
    rw [readString.eq_3, hhi]
    simp only [hhigh, hlo, hlow, if_true]

theorem readString_spells {cs w : List Char} (h : SpellsChars cs w) (rest : List Char) :
    readString false (w ++ '"' :: rest) = .ok (cs, rest) := by
  induction h with
  | nil => rw [List.nil_append, readString.eq_2]
  | cons hc _ ih =>
    rw [List.append_assoc, readString_spellsChar hc, ih]
    rfl

/-! ## Numbers -/

/-- The text goes on with something that is no part of a number. -/
def Ends (rest : List Char) : Prop :=
  ∀ c, rest.head? = some c → isDigit c = false ∧ c ≠ '.' ∧ c ≠ 'e' ∧ c ≠ 'E'

variable {rest : List Char}

theorem ends_cons {c : Char} (hdigit : isDigit c = false) (hpoint : c ≠ '.') (he : c ≠ 'e')
    (hE : c ≠ 'E') : Ends (c :: rest) := fun d hd => by
  obtain rfl := Option.some.inj hd
  exact ⟨hdigit, hpoint, he, hE⟩

theorem not_isDigit_of_isSpace {c : Char} (hc : isSpace c = true) :
    isDigit c = false ∧ c ≠ '.' ∧ c ≠ 'e' ∧ c ≠ 'E' := by
  unfold isSpace at hc
  simp only [Bool.or_eq_true, decide_eq_true_eq] at hc
  obtain ((rfl | rfl) | rfl) | rfl := hc <;> decide

theorem Ends.of_blank {b : List Char} (hb : Blank b) (h : Ends rest) : Ends (b ++ rest) := by
  cases b with
  | nil => exact h
  | cons c b =>
    intro d hd
    obtain rfl := Option.some.inj hd
    exact not_isDigit_of_isSpace (hb _ List.mem_cons_self)

theorem takeWhile_digits {ds : List Char} (hds : ∀ c ∈ ds, isDigit c = true) (h : Ends rest) :
    (ds ++ rest).takeWhile isDigit = ds ∧ (ds ++ rest).dropWhile isDigit = rest := by
  rw [List.takeWhile_append_of_pos hds, List.dropWhile_append_of_pos hds]
  cases rest with
  | nil => exact ⟨List.append_nil ds, rfl⟩
  | cons c rest =>
    have hc : ¬ isDigit c = true := by
      rw [(h c rfl).1]
      nofun
    rw [List.takeWhile_cons_of_neg hc, List.dropWhile_cons_of_neg hc, List.append_nil]
    exact ⟨rfl, rfl⟩

theorem readFraction_ends (h : Ends rest) : readFraction rest = .ok ([], rest) := by
  unfold readFraction
  split
  · next rest' => exact absurd rfl (h '.' rfl).2.1
  · rfl

theorem readExponent_ends (h : Ends rest) : readExponent rest = .ok (0, [], rest) := by
  unfold readExponent
  split
  · next c rest' =>
    obtain ⟨-, -, he, hE⟩ := h c rfl
    rw [if_neg (by simp [he, hE])]
  · rfl

theorem overflows_of_lt {n : Nat} (h : n < 10 ^ 20) : overflows n 0 = false := by
  have hlength : (writeNat n).length ≤ 20 := length_writeNat_le (k := 19) h
  unfold overflows
  dsimp only
  split
  · rfl
  · rw [if_neg (by omega), if_pos (by omega)]

theorem natAbs_lt_of_isWord {n : Int} (h : isWord n = true) : n.natAbs < 10 ^ 20 := by
  obtain ⟨hmin, hmax⟩ := isWord_eq_true.mp h
  unfold wordMin at hmin
  unfold wordMax at hmax
  omega

/-- The digits of a number, whatever its sign. -/
theorem writeNat_facts (m : Nat) (h : Ends rest) :
    (writeNat m ++ rest).takeWhile isDigit = writeNat m ∧
      (writeNat m ++ rest).dropWhile isDigit = rest ∧
      ¬ ((writeNat m).length > 1 ∧ (writeNat m).head? = some '0') := by
  obtain ⟨htake, hdrop⟩ := takeWhile_digits (isDigit_of_mem_writeNat m) h
  refine ⟨htake, hdrop, fun ⟨hlength, hzero⟩ => ?_⟩
  rcases Nat.eq_zero_or_pos m with rfl | hpos
  · rw [writeNat_of_lt (by decide)] at hlength
    exact absurd hlength (by decide)
  · exact head?_writeNat hpos hzero

theorem readNumber_writeInt {n : Int} (hn : isWord n = true) (h : Ends rest) :
    readNumber false (writeInt n ++ rest) = .ok (.int n, rest) := by
  have hsize := natAbs_lt_of_isWord hn
  cases n with
  | ofNat m =>
    obtain ⟨htake, hdrop, hzero⟩ := writeNat_facts m h
    have hminus : ∀ cs, writeNat m ++ rest = '-' :: cs → False := by
      intro cs hcs
      obtain ⟨c, ds, hds, hc⟩ := exists_digit_writeNat m
      rw [hds] at hcs
      obtain ⟨rfl, -⟩ := List.cons.inj hcs
      exact absurd hc (by decide)
    rw [writeInt, readNumber.eq_2 _ _ hminus]
    simp only [htake, hdrop, writeNat_ne_nil, hzero, if_false, readFraction_ends h, ok_bind,
      readExponent_ends h, List.append_nil, ofDigits_writeNat]
    have hover : overflows m (0 - (([] : List Char).length : Int)) = false := overflows_of_lt hsize
    rw [hover]
    rfl
  | negSucc m =>
    obtain ⟨htake, hdrop, hzero⟩ := writeNat_facts (m + 1) h
    rw [writeInt, List.cons_append, readNumber.eq_1]
    simp only [htake, hdrop, writeNat_ne_nil, hzero, if_false, readFraction_ends h, ok_bind,
      readExponent_ends h, List.append_nil, ofDigits_writeNat]
    have hover : overflows (m + 1) (0 - (([] : List Char).length : Int)) = false :=
      overflows_of_lt hsize
    rw [hover]
    rfl

/-! ## Values -/

/-- A value starts with a character that is no blank and closes nothing. -/
theorem spells_head {v : Json} {w : List Char} (h : Spells v w) :
    ∃ c cs, w = c :: cs ∧ isSpace c = false ∧ c ≠ ']' := by
  cases h with
  | int n =>
    obtain ⟨c, cs, hcs, rfl | hdigit⟩ := exists_head_writeInt n
    · exact ⟨'-', cs, hcs, by decide, by decide⟩
    · refine ⟨c, cs, hcs, eq_false_of_ne_true fun hspace => ?_, fun heq => ?_⟩
      · rw [(not_isDigit_of_isSpace hspace).1] at hdigit
        cases hdigit
      · rw [heq] at hdigit
        exact absurd hdigit (by decide)
  | _ => exact ⟨_, _, rfl, by decide, by decide⟩

theorem skipSpaces_spells {v : Json} {b w : List Char} (hb : Blank b) (h : Spells v w)
    (rest : List Char) :
    skipSpaces (b ++ (w ++ rest)) = w ++ rest := by
  obtain ⟨c, cs, rfl, hc, -⟩ := spells_head h
  rw [skipSpaces_blank hb, List.cons_append, skipSpaces_cons hc]

namespace Format

/-- Whatever spells the value is read as the value. -/
def Takes (f : Format) (v : Json) : Prop :=
  ∀ {b w rest : List Char}, Blank b → Spells v w → Ends rest →
    f.read (b ++ (w ++ rest)) = .ok (v, rest)

theorem takes_int {n : Int} (hn : isWord n = true) : int.Takes (.int n) := by
  intro b w rest hb hw hrest
  have hskip := skipSpaces_spells hb hw rest
  cases hw
  have hstarts : startsNumber (writeInt n ++ rest) = true := by
    obtain ⟨c, cs, hcs, hc⟩ := exists_head_writeInt n
    rw [hcs]
    simpa [startsNumber] using hc
  unfold int intWhere
  dsimp only
  rw [hskip, if_pos hstarts, readNumber_writeInt hn hrest, ok_bind]
  exact if_pos hn

theorem takes_text (s : String) : text.Takes (.text s) := by
  intro b w rest hb hw hrest
  have hskip := skipSpaces_spells hb hw rest
  cases hw with
  | text hs =>
    unfold text
    dsimp only
    rw [hskip]
    simp only [List.cons_append, List.append_assoc, List.nil_append, readString_spells hs, ok_bind,
      String.ofList_toList]
    rfl

theorem takes_truth (x : Bool) : truth.Takes (.truth x) := by
  intro b w rest hb hw hrest
  have hskip := skipSpaces_spells hb hw rest
  unfold truth
  dsimp only
  rw [hskip]
  cases hw with
  | isTrue => rfl
  | isFalse => rfl

theorem takes_choice {names : List String} {s : String} (hs : s ∈ names) :
    (choice names).Takes (.text s) := by
  intro b w rest hb hw hrest
  have hskip := skipSpaces_spells hb hw rest
  have hnamed : named names s = .ok (.text s) := if_pos hs
  cases hw with
  | text hs =>
    unfold choice
    dsimp only
    rw [hskip]
    simp only [List.cons_append, List.append_assoc, List.nil_append, readString_spells hs, ok_bind,
      String.ofList_toList, hnamed]
    rfl

/-! ### Lists -/

theorem ends_items {vs : List Json} {ws : List Char} (h : SpellsItems vs ws) :
    Ends (ws ++ ']' :: rest) := by
  cases h with
  | nil hb => exact (ends_cons (by decide) (by decide) (by decide) (by decide)).of_blank hb
  | cons hb hb' hv hvs =>
    rw [List.append_assoc]
    exact (ends_cons (by decide) (by decide) (by decide) (by decide)).of_blank hb

theorem readMore_spells {f : Format} {vs : List Json} (hf : ∀ v ∈ vs, f.Takes v) {ws : List Char}
    (hws : SpellsItems vs ws) {fuel : Nat} (hfuel : ws.length < fuel) :
    readMore f.read fuel (ws ++ ']' :: rest) = .ok (vs, rest) := by
  induction vs generalizing ws fuel with
  | nil =>
    obtain ⟨fuel, rfl⟩ := Nat.exists_eq_add_one_of_ne_zero (Nat.ne_zero_of_lt hfuel)
    cases hws with
    | nil hb =>
      rw [readMore.eq_2, skipSpaces_blank hb, skipSpaces_cons (by decide)]
      rfl
  | cons v vs ih =>
    obtain ⟨fuel, rfl⟩ := Nat.exists_eq_add_one_of_ne_zero (Nat.ne_zero_of_lt hfuel)
    obtain ⟨hv, hvs⟩ := List.forall_mem_cons.mp hf
    cases hws with
    | @cons _ _ b b' w ws hb hb' hw hws =>
      have hrest : readMore f.read fuel (ws ++ ']' :: rest) = .ok (vs, rest) := by
        refine ih hvs hws ?_
        simp only [List.length_append, List.length_cons] at hfuel
        omega
      have hread : f.read (w ++ (ws ++ ']' :: rest)) = .ok (v, ws ++ ']' :: rest) :=
        hv blank_nil hw (ends_items hws)
      have hskip : skipSpaces (b' ++ (w ++ (ws ++ ']' :: rest))) = w ++ (ws ++ ']' :: rest) :=
        skipSpaces_spells hb' hw _
      obtain ⟨c, cs, rfl, -, hclose⟩ := spells_head hw
      have hcomma : skipSpaces ((b ++ ',' :: (b' ++ (c :: cs ++ ws))) ++ ']' :: rest) =
          ',' :: (b' ++ (c :: cs ++ (ws ++ ']' :: rest))) := by
        rw [List.append_assoc, skipSpaces_blank hb, List.cons_append, skipSpaces_cons (by decide),
          List.append_assoc, List.append_assoc]
      rw [readMore.eq_2, hcomma]
      simp only [hskip]
      split
      · next hnil => cases hnil
      · next hbracket => exact absurd (List.cons.inj hbracket).1 hclose
      · rw [hread, ok_bind, hrest]
        rfl

theorem takes_listOf {f : Format} {vs : List Json} (hf : ∀ v ∈ vs, f.Takes v) :
    (listOf f).Takes (.list vs) := by
  intro b w rest hb hw hrest
  have hskip := skipSpaces_spells hb hw rest
  unfold listOf
  dsimp only
  rw [hskip]
  cases hw with
  | @emptyList b' hb' =>
    have hclose : skipSpaces ((b' ++ [']']) ++ rest) = ']' :: rest := by
      rw [List.append_assoc, skipSpaces_blank hb', List.singleton_append,
        skipSpaces_cons (by decide)]
    simp only [List.cons_append, hclose]
  | @list v vs b' w ws hb' hw hws =>
    obtain ⟨hv, hvs⟩ := List.forall_mem_cons.mp hf
    have hread : f.read (w ++ (ws ++ ']' :: rest)) = .ok (v, ws ++ ']' :: rest) :=
      hv blank_nil hw (ends_items hws)
    have hmore : readMore f.read ((ws ++ ']' :: rest).length + 1) (ws ++ ']' :: rest) =
        .ok (vs, rest) := by
      refine readMore_spells hvs hws ?_
      rw [List.length_append]
      omega
    have hfirst : skipSpaces ((b' ++ (w ++ (ws ++ [']']))) ++ rest) = w ++ (ws ++ ']' :: rest) := by
      rw [List.append_assoc, List.append_assoc, List.append_assoc, List.singleton_append,
        skipSpaces_spells hb' hw _]
    obtain ⟨c, cs, rfl, -, hclose⟩ := spells_head hw
    simp only [@List.cons_append _ _ (b' ++ _), hfirst]
    split
    · next hnil => cases hnil
    · next hbracket => exact absurd (List.cons.inj hbracket).1 hclose
    · rw [hread, ok_bind, hmore]
      rfl

/-! ### Records -/

theorem ends_fields {fields : List (String × Json)} {ws : List Char}
    (h : SpellsFields fields ws) : Ends (ws ++ '\x7d' :: rest) := by
  cases h with
  | nil hb => exact (ends_cons (by decide) (by decide) (by decide) (by decide)).of_blank hb
  | cons hb hb' hv hfields =>
    rw [List.append_assoc]
    exact (ends_cons (by decide) (by decide) (by decide) (by decide)).of_blank hb

variable {fields : List Field} {found : List (String × Json)} {name : String} {v : Json}
  {f : Field} {w : List Char}

theorem spellsField_head (hw : SpellsField name v w) : ∃ cs, w = '"' :: cs := by
  cases hw with
  | mk => exact ⟨_, rfl⟩

theorem skipSpaces_spellsField {b : List Char} (hb : Blank b) (hw : SpellsField name v w)
    (rest : List Char) : skipSpaces (b ++ (w ++ rest)) = w ++ rest := by
  obtain ⟨cs, rfl⟩ := spellsField_head hw
  rw [skipSpaces_blank hb, List.cons_append, skipSpaces_cons (by decide)]

/-- A field is not found under the name of another one. -/
theorem lookup_cons_of_mem {given : List (String × Json)} (hname : name ∉ given.map Prod.fst)
    {other : String × Json} (hother : other ∈ given) :
    ((name, v) :: found).lookup other.1 = found.lookup other.1 := by
  have hne : (other.1 == name) = false :=
    beq_eq_false_iff_ne.mpr fun heq => hname (List.mem_map.mpr ⟨other, hother, heq⟩)
  rw [List.lookup_cons, hne]

/-- The next field starts with `field`: behind a comma, unless it is the first one. -/
def Starts (first : Bool) (c : Char) (tail field : List Char) : Prop :=
  first = true ∧ c :: tail = field ∨ first = false ∧ c = ',' ∧ skipSpaces tail = field

theorem Starts.bind {α : Type} {first : Bool} {c : Char} {tail field : List Char}
    (h : Starts first c tail field) (k : List Char → Except Fault α) :
    (if first then pure (c :: tail) >>= k
      else if c = ',' then pure (skipSpaces tail) >>= k else throw .malformed >>= k) = k field := by
  obtain ⟨rfl, rfl⟩ | ⟨rfl, rfl, rfl⟩ := h
  · rfl
  · rfl

/-- What is done with a field whose name is known and has not been met. -/
theorem readNamed_field (hfind : fields.find? (fun f => f.name = name) = some f)
    (hnew : found.lookup name = none) (hf : f.format.Takes v) (hw : SpellsField name v w)
    (hrest : Ends rest) {first : Bool} {fuel : Nat} {c : Char} {cs tail : List Char}
    (hcs : skipSpaces cs = c :: tail) (hclose : c ≠ '\x7d')
    (hstart : Starts first c tail (w ++ rest)) :
    readNamed fields (fuel + 1) first found cs =
      readNamed fields fuel false ((name, v) :: found) rest := by
  cases hw with
  | @mk _ _ n b b' w hname hb hb' hw =>
    have hcolon : skipSpaces (b ++ ':' :: (b' ++ (w ++ rest))) = ':' :: (b' ++ (w ++ rest)) := by
      rw [skipSpaces_blank hb, skipSpaces_cons (by decide)]
    have hread : f.format.read (b' ++ (w ++ rest)) = .ok (v, rest) := hf hb' hw hrest
    have hfield : readString false (n ++ '"' :: (b ++ ':' :: (b' ++ (w ++ rest)))) =
      .ok (name.toList, b ++ ':' :: (b' ++ (w ++ rest))) := readString_spells hname _
    rw [List.cons_append, List.append_assoc, List.cons_append, List.append_assoc, List.cons_append,
      List.append_assoc] at hstart
    rw [readNamed.eq_2, hcs]
    split
    · next hnil => cases hnil
    · next hbrace => exact absurd (List.cons.inj hbrace).1 hclose
    · next hcons =>
      obtain ⟨rfl, rfl⟩ := List.cons.inj hcons
      refine (hstart.bind _).trans ?_
      simp only [ok_bind, hfield, String.ofList_toList, hfind, hnew, hcolon, hread,
        Option.isSome_none, Bool.false_eq_true, if_false]

theorem readNamed_close {first : Bool} {fuel : Nat} {fs : List (String × Json)} {cs : List Char}
    (hfs : assemble fields found = some fs) (hcs : skipSpaces cs = '\x7d' :: rest) :
    readNamed fields (fuel + 1) first found cs = .ok (fs, rest) := by
  rw [readNamed.eq_2, hcs, hfs]
  rfl

theorem readNamed_spells {given fs : List (String × Json)}
    (hgiven : ∀ field ∈ given, ∃ f, fields.find? (fun f => f.name = field.1) = some f ∧
      f.format.Takes field.2)
    (hnew : ∀ field ∈ given, found.lookup field.1 = none)
    (hdistinct : (given.map Prod.fst).Nodup)
    (hfs : assemble fields (given.reverse ++ found) = some fs) {ws : List Char}
    (hws : SpellsFields given ws) {fuel : Nat} (hfuel : ws.length < fuel) :
    readNamed fields fuel false found (ws ++ '\x7d' :: rest) = .ok (fs, rest) := by
  induction given generalizing found ws fuel with
  | nil =>
    obtain ⟨fuel, rfl⟩ := Nat.exists_eq_add_one_of_ne_zero (Nat.ne_zero_of_lt hfuel)
    cases hws with
    | nil hb =>
      refine readNamed_close hfs ?_
      rw [skipSpaces_blank hb, skipSpaces_cons (by decide)]
  | cons field given ih =>
    obtain ⟨fuel, rfl⟩ := Nat.exists_eq_add_one_of_ne_zero (Nat.ne_zero_of_lt hfuel)
    obtain ⟨⟨f, hfind, hf⟩, hothers⟩ := List.forall_mem_cons.mp hgiven
    obtain ⟨hfield, hnewOthers⟩ := List.forall_mem_cons.mp hnew
    obtain ⟨hfirst, hdistinctOthers⟩ := List.nodup_cons.mp hdistinct
    cases hws with
    | @cons name v _ b b' w ws hb hb' hw hws =>
      have hcomma : skipSpaces ((b ++ ',' :: (b' ++ (w ++ ws))) ++ '\x7d' :: rest) =
          ',' :: (b' ++ (w ++ (ws ++ '\x7d' :: rest))) := by
        rw [List.append_assoc, skipSpaces_blank hb, List.cons_append, skipSpaces_cons (by decide),
          List.append_assoc, List.append_assoc]
      rw [readNamed_field hfind hfield hf hw (ends_fields hws) hcomma (by decide)
        (.inr ⟨rfl, rfl, skipSpaces_spellsField hb' hw _⟩)]
      refine ih hothers (fun other hother => ?_) hdistinctOthers ?_ hws ?_
      · rw [lookup_cons_of_mem hfirst hother]
        exact hnewOthers other hother
      · rw [List.reverse_cons, List.append_assoc] at hfs
        exact hfs
      · simp only [List.length_append, List.length_cons] at hfuel
        omega

theorem read_record {given fs : List (String × Json)}
    (hgiven : ∀ field ∈ given, ∃ f, fields.find? (fun f => f.name = field.1) = some f ∧
      f.format.Takes field.2)
    (hdistinct : (given.map Prod.fst).Nodup) (hfs : assemble fields given.reverse = some fs)
    {b : List Char} (hb : Blank b) (hw : Spells (.record given) w) :
    (record fields).read (b ++ (w ++ rest)) = .ok (.record fs, rest) := by
  have hskip := skipSpaces_spells hb hw rest
  unfold record
  dsimp only
  rw [hskip]
  cases hw with
  | @emptyRecord b' hb' =>
    have hclose : skipSpaces ((b' ++ ['\x7d']) ++ rest) = '\x7d' :: rest := by
      rw [List.append_assoc, skipSpaces_blank hb', List.singleton_append,
        skipSpaces_cons (by decide)]
    have hread : readNamed fields (((b' ++ ['\x7d']) ++ rest).length + 1) true []
        ((b' ++ ['\x7d']) ++ rest) = .ok (fs, rest) := readNamed_close hfs hclose
    simp only [List.cons_append, hread]
    rfl
  | @record name v given b' w ws hb' hw hws =>
    obtain ⟨⟨f, hfind, hf⟩, hothers⟩ := List.forall_mem_cons.mp hgiven
    obtain ⟨hfirst, hdistinctOthers⟩ := List.nodup_cons.mp hdistinct
    have hread : readNamed fields ((b' ++ (w ++ (ws ++ '\x7d' :: rest))).length + 1) true []
        (b' ++ (w ++ (ws ++ '\x7d' :: rest))) = .ok (fs, rest) := by
      have hquote := skipSpaces_spellsField hb' hw (ws ++ '\x7d' :: rest)
      obtain ⟨tail, rfl⟩ := spellsField_head hw
      rw [readNamed_field hfind rfl hf hw (ends_fields hws) hquote (by decide) (.inl ⟨rfl, rfl⟩)]
      refine readNamed_spells hothers (fun other hother => ?_) hdistinctOthers ?_ hws ?_
      · rw [lookup_cons_of_mem hfirst hother]
        rfl
      · rwa [List.reverse_cons] at hfs
      · simp only [List.length_append, List.length_cons]
        omega
    simp only [List.cons_append, List.append_assoc, List.nil_append, hread]
    rfl

/-! ### Inputs -/

variable {input defaults given : List (String × Json)}

/-- The record takes the input, and fills in the defaults. -/
def Fits (fields : List Field) (input defaults : List (String × Json)) : Prop :=
  List.Forall₂ (fun f field => f.name = field.1 ∧ f.format.Takes field.2 ∧
    (field ∈ defaults → f.absent = some field.2)) fields input

theorem lookup_of_mem (hdistinct : (given.map Prod.fst).Nodup) (h : (name, v) ∈ given) :
    given.lookup name = some v := by
  induction given with
  | nil => cases h
  | cons field given ih =>
    obtain ⟨hfirst, hdistinct⟩ := List.nodup_cons.mp hdistinct
    rcases List.mem_cons.mp h with rfl | h
    · rw [List.lookup_cons, beq_self_eq_true]
    · exact (lookup_cons_of_mem hfirst h).trans (ih hdistinct h)

theorem Fits.find? (h : Fits fields input defaults) (hdistinct : (input.map Prod.fst).Nodup)
    {field : String × Json} (hfield : field ∈ input) :
    ∃ f, fields.find? (fun f => f.name = field.1) = some f ∧ f.format.Takes field.2 := by
  induction h with
  | nil => cases hfield
  | @cons f first fields input hf _ ih =>
    obtain ⟨hfirst, hdistinct⟩ := List.nodup_cons.mp hdistinct
    rcases List.mem_cons.mp hfield with rfl | hfield
    · exact ⟨f, List.find?_cons_of_pos (decide_eq_true hf.1), hf.2.1⟩
    · obtain ⟨g, hg, htakes⟩ := ih hdistinct hfield
      refine ⟨g, ?_, htakes⟩
      rwa [List.find?_cons_of_neg]
      rw [decide_eq_true_eq, hf.1]
      exact fun heq => hfirst (heq ▸ List.mem_map_of_mem hfield)

theorem assemble_eq_some (h : Fits fields input defaults)
    (hfound : ∀ field ∈ input, found.lookup field.1 = some field.2 ∨
      found.lookup field.1 = none ∧ field ∈ defaults) : assemble fields found = some input := by
  induction h with
  | nil => rfl
  | @cons f field fields input hf _ ih =>
    obtain ⟨hfirst, hothers⟩ := List.forall_mem_cons.mp hfound
    obtain ⟨hname, -, hdefault⟩ := hf
    have hvalue : ((found.lookup f.name).orElse fun _ => f.absent) = some field.2 := by
      rw [hname]
      rcases hfirst with hgiven | ⟨habsent, hfield⟩
      · rw [hgiven]
        rfl
      · rw [habsent]
        exact hdefault hfield
    have hrest : assemble fields found = some input := ih hothers
    unfold assemble at hrest ⊢
    rw [List.mapM_cons, hrest, hvalue, hname]
    rfl

/-- A body that carries the input is read as the input, fields in order and defaults filled in. -/
theorem readBody_carries (h : Fits fields input defaults) (hdistinct : (input.map Prod.fst).Nodup)
    (hcarries : Carries input defaults given) {text : String}
    (htext : (Json.record given).SpelledBy text) :
    (record fields).readBody text = .ok (.record input) := by
  obtain ⟨b, w, b', hb, hw, hb', rfl⟩ := htext
  have hnames : (given.reverse.map Prod.fst).Nodup := by
    rw [List.map_reverse, List.nodup_reverse]
    exact hcarries.distinct
  have hassemble : assemble fields given.reverse = some input := by
    refine assemble_eq_some h fun field hfield => ?_
    by_cases hgiven : field ∈ given
    · exact .inl (lookup_of_mem hnames (List.mem_reverse.mpr hgiven))
    · refine .inr ⟨List.lookup_eq_none_iff.mpr fun other hother => ?_,
        (hcarries.complete field hfield).resolve_left hgiven⟩
      have hmem := List.mem_reverse.mp hother
      refine bne_iff_ne.mpr fun heq => hgiven ?_
      rwa [List.inj_on_of_nodup_map hdistinct hfield (hcarries.sound other hmem) heq]
  have hread : (record fields).read (b ++ (w ++ b')) = .ok (.record input, b') :=
    read_record (fun field hfield => h.find? hdistinct (hcarries.sound field hfield))
      hcarries.distinct hassemble hb hw
  unfold readBody
  rw [String.toList_ofList, hread, ok_bind]
  exact if_pos (skipSpaces_eq_nil hb')

end Format

end CivicForum.Json
