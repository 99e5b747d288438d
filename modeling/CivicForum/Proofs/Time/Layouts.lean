import CivicForum.Proofs.Time.Fields
import Mathlib.Data.List.DropRight

/-! # Layouts that do not compete

A timestamp is read with an offset first, and then in one layout without an offset after the other.
The order of these readings makes no difference: those that accept a text agree on what it means.

* `Timestamp.layout`: the layouts without an offset, by the separator between date and time of day
  and by what may come last.
* `Timestamp.read?_layout_of_zoned`: no layout accepts a text with an offset.
* `Timestamp.read?_layout_eq`: layouts that accept the same text give the same instant.
* `Timestamp.layouts_in_any_order`: the readings may be tried in any order, and the layouts without
  a fraction may be left out.
-/

set_option autoImplicit false

namespace CivicForum.Timestamp

open Text Time

/-! ## Trying one after the other -/

section FindSome

variable {α β : Type} {f : α → Option β} {l l' : List α} {x : β}

theorem findSome?_eq_some_of_agree
    (hagree : ∀ a ∈ l, ∀ b ∈ l, ∀ x y, f a = some x → f b = some y → x = y) :
    l.findSome? f = some x ↔ ∃ a ∈ l, f a = some x := by
  refine ⟨List.exists_of_findSome?_eq_some, fun ⟨a, ha, hx⟩ => ?_⟩
  rcases hfound : l.findSome? f with - | y
  · rw [List.findSome?_eq_none_iff.mp hfound a ha] at hx
    cases hx
  · obtain ⟨b, hb, hy⟩ := List.exists_of_findSome?_eq_some hfound
    rw [hagree a ha b hb x y hx hy]

/-- Where all that succeed agree, only what can be found at all matters. -/
theorem findSome?_eq_of_agree
    (hagree : ∀ a ∈ l, ∀ b ∈ l, ∀ x y, f a = some x → f b = some y → x = y)
    (hsub : ∀ a ∈ l', a ∈ l) (hcover : ∀ a ∈ l, ∀ x, f a = some x → ∃ b ∈ l', f b = some x) :
    l'.findSome? f = l.findSome? f := by
  refine Option.ext fun x => ?_
  rw [findSome?_eq_some_of_agree fun a ha b hb => hagree a (hsub a ha) b (hsub b hb),
    findSome?_eq_some_of_agree hagree]
  exact ⟨fun ⟨a, ha, hx⟩ => ⟨a, hsub a ha, hx⟩, fun ⟨a, ha, hx⟩ => hcover a ha x hx⟩

end FindSome

/-! ## Layouts piece by piece -/

/-- A layout without an offset. -/
def layout (separator : Piece) (last : Layout) : Layout :=
  dateLayout ++ separator :: (timeLayout ++ last)

theorem mem_naiveLayouts {l : Layout} (h : l ∈ naiveLayouts) :
    ∃ separator last, (separator = .gap ∨ separator = .mark 'T') ∧
      (last = [] ∨ last = [.fraction]) ∧ l = layout separator last := by
  simp only [naiveLayouts, List.mem_cons, List.not_mem_nil, or_false] at h
  rcases h with rfl | rfl | rfl | rfl
  · exact ⟨.gap, [.fraction], .inl rfl, .inr rfl, rfl⟩
  · exact ⟨.mark 'T', [.fraction], .inr rfl, .inr rfl, rfl⟩
  · exact ⟨.gap, [], .inl rfl, .inl rfl, rfl⟩
  · exact ⟨.mark 'T', [], .inr rfl, .inl rfl, rfl⟩

variable {l : Layout} {cs rest : List Char} {c d : Clock} {t u : Instant}

theorem readFrom_append (l l' : Layout) (c : Clock) (cs : List Char) :
    (l ++ l').readFrom c cs = (l.readFrom c cs).bind fun p => l'.readFrom p.1 p.2 := by
  induction l generalizing c cs with
  | nil => rfl
  | cons p l ih =>
    rw [List.cons_append, Layout.readFrom, Layout.readFrom]
    rcases p.read c cs with - | ⟨d, rest⟩
    · rfl
    · exact ih d rest

theorem read?_eq_some : l.read? cs = some t ↔
    ∃ c, l.readFrom ⟨⟨0, 0, 0⟩, 0, 0, 0, 0⟩ cs = some (c, []) ∧ c.isValid = true ∧
      c.toInstant 0 = t := by
  unfold Layout.read?
  split
  · next clock hread =>
    rw [Option.ite_none_right_eq_some, Option.some.injEq]
    simp [hread]
  · next hread =>
    simp only [reduceCtorEq, false_iff]
    rintro ⟨c, hc, -⟩
    exact hread c hc

/-! ### A fraction at the end -/

theorem nanos_of_read {p : Piece} (hp : p ≠ .fraction) (h : p.read c cs = some (d, rest)) :
    d.nanos = c.nanos := by
  cases p with
  | fraction => exact absurd rfl hp
  | gap =>
    obtain ⟨rfl, -⟩ := Prod.mk.inj (Option.some.inj h)
    rfl
  | _ =>
    obtain ⟨_, -, heq⟩ := Option.map_eq_some_iff.mp h
    obtain ⟨rfl, -⟩ := Prod.mk.inj heq
    rfl

theorem nanos_of_readFrom (hl : .fraction ∉ l) (h : l.readFrom c cs = some (d, rest)) :
    d.nanos = c.nanos := by
  induction l generalizing c cs with
  | nil =>
    obtain ⟨rfl, -⟩ := Prod.mk.inj (Option.some.inj h)
    rfl
  | cons p l ih =>
    rw [List.mem_cons, not_or] at hl
    obtain ⟨hp, hl⟩ := hl
    obtain ⟨⟨e, left⟩, hread, hrest⟩ := Option.bind_eq_some_iff.mp h
    exact (ih hl hrest).trans (nanos_of_read (Ne.symm hp) hread)

/-- A fraction may be missing. -/
theorem read?_concat_fraction (hl : .fraction ∉ l) (h : l.read? cs = some t) :
    Layout.read? (l ++ [.fraction]) cs = some t := by
  obtain ⟨c, hread, hvalid, ht⟩ := read?_eq_some.mp h
  have hnanos : c.nanos = 0 := nanos_of_readFrom hl hread
  refine read?_eq_some.mpr ⟨c, ?_, hvalid, ht⟩
  rw [readFrom_append, hread]
  show some ({ c with nanos := 0 }, []) = some (c, [])
  rw [← hnanos]

theorem read?_layout_fraction {separator : Piece} {last : Layout}
    (hseparator : separator = .gap ∨ separator = .mark 'T') (hlast : last = [] ∨ last = [.fraction])
    (h : (layout separator last).read? cs = some t) :
    (layout separator [.fraction]).read? cs = some t := by
  rcases hlast with rfl | rfl
  · have hnone : .fraction ∉ layout separator [] := by
      rcases hseparator with rfl | rfl <;> decide
    have hconcat := read?_concat_fraction hnone h
    rwa [layout, List.append_nil, List.append_assoc] at hconcat
  · exact h

/-! ### A gap or a letter -/

/-- White space may stand before a number in any case. -/
theorem readFrom_gap_hour (l : Layout) (c : Clock) (cs : List Char) :
    Layout.readFrom (.gap :: .hour :: l) c cs = Layout.readFrom (.hour :: l) c cs := by
  have htrim : readPair (trimStart cs) = readPair cs := by
    unfold readPair trimStart
    rw [List.dropWhile_idempotent]
  simp only [Layout.readFrom, Piece.read, Option.bind_eq_bind, Option.bind_some, htrim]

theorem readFrom_hour_of_letter (l : Layout) (c : Clock) {mark : Char}
    (hmark : mark = 'T' ∨ mark = 't') (rest : List Char) :
    Layout.readFrom (.hour :: l) c (mark :: rest) = none := by
  have hnone : readPair (mark :: rest) = none := by
    rcases hmark with rfl | rfl
    · exact readPair_of_mark rfl rfl rest
    · exact readPair_of_mark rfl rfl rest
  simp only [Layout.readFrom, Piece.read, hnone, Option.map_none, Option.bind_eq_bind,
    Option.bind_none]

theorem eq_cons_of_readMark {mark : Char} (h : readMark mark cs = some rest) : cs = mark :: rest := by
  cases cs with
  | nil => cases h
  | cons d left =>
    obtain ⟨rfl, hleft⟩ := Option.ite_none_right_eq_some.mp h
    rw [Option.some.inj hleft]

/-- Where a letter separates date and time of day, a gap does not. -/
theorem read?_gap_of_letter {last last' : Layout}
    (h : (layout (.mark 'T') last).read? cs = some t) : (layout .gap last').read? cs = none := by
  obtain ⟨c, hread, -⟩ := read?_eq_some.mp h
  rw [layout, readFrom_append] at hread
  obtain ⟨⟨d, rest⟩, hdate, hread⟩ := Option.bind_eq_some_iff.mp hread
  obtain ⟨_, hmark, -⟩ := Option.bind_eq_some_iff.mp hread
  obtain ⟨left, hleft, -⟩ := Option.map_eq_some_iff.mp hmark
  have hletter : rest = 'T' :: left := eq_cons_of_readMark hleft
  have hnone : (layout .gap last').readFrom ⟨⟨0, 0, 0⟩, 0, 0, 0, 0⟩ cs = none := by
    rw [layout, readFrom_append, hdate, hletter]
    exact (readFrom_gap_hour _ _ _).trans (readFrom_hour_of_letter _ _ (.inl rfl) left)
  unfold Layout.read?
  rw [hnone]

/-- Layouts that accept the same text give the same instant. -/
theorem read?_layout_eq {l' : Layout} (hl : l ∈ naiveLayouts) (hl' : l' ∈ naiveLayouts)
    (h : l.read? cs = some t) (h' : l'.read? cs = some u) : t = u := by
  obtain ⟨separator, last, hseparator, hlast, rfl⟩ := mem_naiveLayouts hl
  obtain ⟨separator', last', hseparator', hlast', rfl⟩ := mem_naiveLayouts hl'
  have hsame : separator = separator' → t = u := by
    rintro rfl
    have hfull := read?_layout_fraction hseparator hlast h
    rw [read?_layout_fraction hseparator hlast' h'] at hfull
    exact (Option.some.inj hfull).symm
  rcases hseparator with rfl | rfl <;> rcases hseparator' with rfl | rfl
  · exact hsame rfl
  · rw [read?_gap_of_letter h'] at h
    cases h
  · rw [read?_gap_of_letter h] at h'
    cases h'
  · exact hsame rfl

/-! ## Texts with an offset -/

theorem readFrom_date_of_readExactly {year month day : Nat} {cs₁ cs₂ cs₃ cs₄ : List Char}
    (hyear : readExactly 4 cs = some (year, cs₁)) (hdash : readMark '-' cs₁ = some cs₂)
    (hmonth : readExactly 2 cs₂ = some (month, cs₃)) (hdash' : readMark '-' cs₃ = some cs₄)
    (hday : readExactly 2 cs₄ = some (day, rest)) (l : Layout) (c : Clock) :
    (dateLayout ++ l).readFrom c cs = l.readFrom { c with date := ⟨year, month, day⟩ } rest := by
  have hlayout : dateLayout ++ l = .year :: .mark '-' :: .month :: .mark '-' :: .day :: l := rfl
  rw [hlayout]
  simp only [Layout.readFrom, Piece.read, readYear_of_readExactly hyear, hdash,
    readPair_of_readExactly hmonth, hdash', readPair_of_readExactly hday, Option.map_some,
    Option.bind_eq_bind, Option.bind_some]

theorem readFrom_time_of_readExactly {hour minute second : Nat} {cs₁ cs₂ cs₃ cs₄ : List Char}
    (hhour : readExactly 2 cs = some (hour, cs₁)) (hcolon : readMark ':' cs₁ = some cs₂)
    (hminute : readExactly 2 cs₂ = some (minute, cs₃)) (hcolon' : readMark ':' cs₃ = some cs₄)
    (hsecond : readExactly 2 cs₄ = some (second, rest)) (l : Layout) (c : Clock) :
    (timeLayout ++ l).readFrom c cs =
      l.readFrom { c with hour := hour, minute := minute, second := second } rest := by
  have hlayout : timeLayout ++ l = .hour :: .mark ':' :: .minute :: .mark ':' :: .second :: l := rfl
  rw [hlayout]
  simp only [Layout.readFrom, Piece.read, readPair_of_readExactly hhour, hcolon,
    readPair_of_readExactly hminute, hcolon', readPair_of_readExactly hsecond, Option.map_some,
    Option.bind_eq_bind, Option.bind_some]

theorem readFrom_separator {separator : Piece} {mark : Char}
    (hseparator : separator = .gap ∨ separator = .mark 'T')
    (hmark : mark = 'T' ∨ mark = 't' ∨ mark = ' ') (l : Layout) (c : Clock) (rest : List Char) :
    Layout.readFrom (separator :: (timeLayout ++ l)) c (mark :: rest) = none ∨
      Layout.readFrom (separator :: (timeLayout ++ l)) c (mark :: rest) =
        (timeLayout ++ l).readFrom c rest := by
  have hlayout : timeLayout ++ l = .hour :: (timeLayout.tail ++ l) := rfl
  rcases hseparator with rfl | rfl
  · rw [hlayout, readFrom_gap_hour]
    rcases hmark with rfl | rfl | rfl
    · exact .inl (readFrom_hour_of_letter _ _ (.inl rfl) rest)
    · exact .inl (readFrom_hour_of_letter _ _ (.inr rfl) rest)
    · exact .inr rfl
  · by_cases hletter : mark = 'T'
    · subst hletter
      exact .inr rfl
    · have hnone : readMark 'T' (mark :: rest) = none := if_neg hletter
      left
      simp only [Layout.readFrom, Piece.read, hnone, Option.map_none, Option.bind_eq_bind,
        Option.bind_none]

/-- An offset stays behind when the last piece has been read. -/
theorem readFrom_last {last : Layout} {nanos : Nat} (hlast : last = [] ∨ last = [.fraction])
    (hfraction : readFraction cs = some (nanos, rest)) (hrest : rest ≠ []) (c : Clock) :
    ∃ d left, last.readFrom c cs = some (d, left) ∧ left ≠ [] := by
  rcases hlast with rfl | rfl
  · refine ⟨c, cs, rfl, ?_⟩
    rintro rfl
    exact hrest (Prod.mk.inj (Option.some.inj hfraction)).2.symm
  · refine ⟨{ c with nanos := nanos }, rest, ?_, hrest⟩
    simp only [Layout.readFrom, Piece.read, hfraction, Option.map_some, Option.bind_eq_bind,
      Option.bind_some]

theorem ne_nil_of_readOffset {offset : Int} (h : readOffset cs = some (offset, rest)) : cs ≠ [] := by
  rintro rfl
  cases h

/-- No layout accepts a text with an offset. -/
theorem read?_layout_of_zoned (h : readZoned cs = some t) (hl : l ∈ naiveLayouts) :
    l.read? cs = none := by
  unfold readZoned at h
  obtain ⟨⟨year, _⟩, hyear, h⟩ := Option.bind_eq_some_iff.mp h
  obtain ⟨_, hdash, h⟩ := Option.bind_eq_some_iff.mp h
  obtain ⟨⟨month, _⟩, hmonth, h⟩ := Option.bind_eq_some_iff.mp h
  obtain ⟨_, hdash', h⟩ := Option.bind_eq_some_iff.mp h
  obtain ⟨⟨day, _⟩, hday, h⟩ := Option.bind_eq_some_iff.mp h
  dsimp only at h
  split at h
  · next mark rest =>
    obtain ⟨hmark, h⟩ := Option.ite_none_right_eq_some.mp h
    obtain ⟨_, ⟨⟩, h⟩ := Option.bind_eq_some_iff.mp h
    obtain ⟨⟨hour, _⟩, hhour, h⟩ := Option.bind_eq_some_iff.mp h
    obtain ⟨_, hcolon, h⟩ := Option.bind_eq_some_iff.mp h
    obtain ⟨⟨minute, _⟩, hminute, h⟩ := Option.bind_eq_some_iff.mp h
    obtain ⟨_, hcolon', h⟩ := Option.bind_eq_some_iff.mp h
    obtain ⟨⟨second, _⟩, hsecond, h⟩ := Option.bind_eq_some_iff.mp h
    obtain ⟨⟨nanos, zone⟩, hfraction, h⟩ := Option.bind_eq_some_iff.mp h
    obtain ⟨⟨offset, _⟩, hoffset, -⟩ := Option.bind_eq_some_iff.mp h
    obtain ⟨separator, last, hseparator, hlast, rfl⟩ := mem_naiveLayouts hl
    refine Option.eq_none_iff_forall_ne_some.mpr fun u hu => ?_
    obtain ⟨clock, hread, -⟩ := read?_eq_some.mp hu
    rw [layout, readFrom_date_of_readExactly hyear hdash hmonth hdash' hday] at hread
    rcases readFrom_separator hseparator hmark last ⟨⟨year, month, day⟩, 0, 0, 0, 0⟩ rest
      with hnone | htime
    · rw [hnone] at hread
      cases hread
    · rw [htime, readFrom_time_of_readExactly hhour hcolon hminute hcolon' hsecond] at hread
      obtain ⟨d, left, hleft, hne⟩ := readFrom_last hlast hfraction (ne_nil_of_readOffset hoffset)
        ⟨⟨year, month, day⟩, hour, minute, second, 0⟩
      rw [hleft] at hread
      exact hne (Prod.mk.inj (Option.some.inj hread)).2
  · cases h

/-! ## All readings -/

/-- The readings of a trimmed text, in the order they are tried. -/
def readings : List (List Char → Option Instant) := readZoned :: naiveLayouts.map Layout.read?

theorem readWith?_eq (layouts : List Layout) (cs : List Char) :
    readWith? layouts cs =
      (readZoned :: layouts.map Layout.read?).findSome? fun read => read (trim cs) := by
  unfold readWith?
  dsimp only
  rw [List.findSome?_cons, List.findSome?_map]
  rcases readZoned (trim cs) with - | t <;> rfl

theorem readings_agree {read read' : List Char → Option Instant} (hread : read ∈ readings)
    (hread' : read' ∈ readings) (h : read cs = some t) (h' : read' cs = some u) : t = u := by
  rw [readings, List.mem_cons, List.mem_map] at hread hread'
  rcases hread with rfl | ⟨l, hl, rfl⟩ <;> rcases hread' with rfl | ⟨l', hl', rfl⟩
  · exact Option.some.inj (h.symm.trans h')
  · rw [read?_layout_of_zoned h hl'] at h'
    cases h'
  · rw [read?_layout_of_zoned h' hl] at h
    cases h
  · exact read?_layout_eq hl hl' h h'

/-- Only the reading with an offset and the layouts with a fraction are needed, in any order. -/
theorem findSome?_readings {tried : List (List Char → Option Instant)}
    (hsub : ∀ read ∈ tried, read ∈ readings) (hzoned : readZoned ∈ tried)
    (hlayouts : ∀ l ∈ naiveLayouts, .fraction ∈ l → l.read? ∈ tried) (s : String) :
    (tried.findSome? fun read => read (trim s.toList)) = read? s := by
  rw [read?, readWith?_eq]
  refine findSome?_eq_of_agree (fun read hread read' hread' t u => readings_agree hread hread')
    hsub fun read hread t ht => ?_
  rw [List.mem_cons, List.mem_map] at hread
  rcases hread with rfl | ⟨l, hl, rfl⟩
  · exact ⟨readZoned, hzoned, ht⟩
  · obtain ⟨separator, last, hseparator, hlast, rfl⟩ := mem_naiveLayouts hl
    have hfull : layout separator [.fraction] ∈ naiveLayouts ∧
        .fraction ∈ layout separator [.fraction] := by
      rcases hseparator with rfl | rfl <;> decide
    exact ⟨_, hlayouts _ hfull.1 hfull.2, read?_layout_fraction hseparator hlast ht⟩

/-- The readings of a timestamp do not compete. No layout accepts a text that can be read with an
offset, and layouts that accept the same text agree on it. So the layouts may be tried in any order,
those without a fraction need not be tried, and the reading with an offset need not come first. -/
theorem layouts_in_any_order :
    (∀ s : String, (readZoned (trim s.toList)).isSome = true →
      ∀ l ∈ naiveLayouts, l.read? (trim s.toList) = none) ∧
    (∀ s : String, ∀ l ∈ naiveLayouts, ∀ l' ∈ naiveLayouts, ∀ t t',
      l.read? (trim s.toList) = some t → l'.read? (trim s.toList) = some t' → t = t') ∧
    (∀ layouts : List Layout, layouts.Perm naiveLayouts → ∀ s : String,
      readWith? layouts s.toList = read? s) ∧
    (∀ s : String, readWith? (naiveLayouts.filter (Piece.fraction ∈ ·)) s.toList = read? s) ∧
    ∀ tried : List (List Char → Option Instant), tried.Perm readings → ∀ s : String,
      (tried.findSome? fun read => read (trim s.toList)) = read? s := by
  refine ⟨fun s hzoned l hl => ?_, fun s l hl l' hl' t t' h h' => read?_layout_eq hl hl' h h',
    fun layouts hperm s => ?_, fun s => ?_, fun tried hperm s => ?_⟩
  · obtain ⟨t, ht⟩ := Option.isSome_iff_exists.mp hzoned
    exact read?_layout_of_zoned ht hl
  · have hall := (hperm.map Layout.read?).cons readZoned
    rw [readWith?_eq]
    refine findSome?_readings (fun read hread => hall.mem_iff.mp hread) List.mem_cons_self
      (fun l hl _ => ?_) s
    exact List.mem_cons_of_mem _ (List.mem_map_of_mem (hperm.mem_iff.mpr hl))
  · rw [readWith?_eq]
    refine findSome?_readings (fun read hread => ?_) List.mem_cons_self (fun l hl hfraction => ?_) s
    · refine List.cons_subset_cons _ (List.map_subset _ ?_) hread
      exact List.filter_sublist.subset
    · exact List.mem_cons_of_mem _ (List.mem_map_of_mem
        (List.mem_filter.mpr ⟨hl, decide_eq_true hfraction⟩))
  · refine findSome?_readings (fun read hread => hperm.mem_iff.mp hread)
      (hperm.mem_iff.mpr List.mem_cons_self) (fun l hl _ => hperm.mem_iff.mpr ?_) s
    exact List.mem_cons_of_mem _ (List.mem_map_of_mem hl)

/-- A noon that two layouts accept, and one with an offset, which none accepts. -/
theorem noon_in_any_order :
    let noon : Instant := ⟨1709294400, 0⟩
    (layout .gap []).read? (trim " +2024-3-1\t12:0:0".toList) = some noon ∧
    (∃ t, (layout .gap [.fraction]).read? (trim " +2024-3-1\t12:0:0".toList) = some t ∧ noon = t) ∧
    readWith? naiveLayouts.reverse " +2024-3-1\t12:0:0".toList = some noon ∧
    (∀ l ∈ naiveLayouts, l.read? (trim "2024-03-01 14:00:00+02:00".toList) = none) ∧
    (readings.reverse.findSome? fun read =>
      read (trim "2024-03-01 14:00:00+02:00".toList)) = some noon := by
  obtain ⟨hzoned, hagree, hlayouts, -, htried⟩ := layouts_in_any_order
  have hplain : (layout .gap []).read? (trim " +2024-3-1\t12:0:0".toList) =
      some ⟨1709294400, 0⟩ := by
    decide +kernel
  have hfull : (layout .gap [.fraction]).read? (trim " +2024-3-1\t12:0:0".toList) =
      some ⟨1709294400, 0⟩ := by
    decide +kernel
  refine ⟨hplain, ⟨_, hfull, ?_⟩, ?_, ?_, ?_⟩
  · exact hagree " +2024-3-1\t12:0:0" (layout .gap []) (by decide) (layout .gap [.fraction])
      (by decide) _ _ hplain hfull
  · rw [hlayouts naiveLayouts.reverse (List.reverse_perm _)]
    decide +kernel
  · exact hzoned "2024-03-01 14:00:00+02:00" (by decide +kernel)
  · rw [htried _ (List.reverse_perm _)]
    decide +kernel

end CivicForum.Timestamp
