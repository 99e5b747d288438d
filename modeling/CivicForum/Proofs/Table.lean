import CivicForum.Store.Table
import Mathlib.Data.List.Nodup

/-! # Tables whose identifiers tell their rows apart

* `Table.Sound`: identifiers are distinct, and none is above the last one given out.
* `Table.Sound.find?_eq_some`: the row that a look-up finds.
* `Table.Sound.mapRows`, `Table.Sound.insert`: what is written keeps that.
* `Table.Ascending`: rows stand in the order of their identifiers, as they do where every row gets
  the next one.
-/

set_option autoImplicit false

namespace CivicForum.Table

variable {α : Type} [Keyed α] {t : Table α}

/-- Identifiers are distinct, and none is above the last one given out. -/
structure Sound (t : Table α) : Prop where
  distinct : (t.rows.map Keyed.key).Nodup
  bounded : ∀ r ∈ t.rows, Keyed.key r ≤ t.lastId

theorem sound_empty : ({} : Table α).Sound := ⟨List.nodup_nil, by simp⟩

/-- Identifiers alone decide that. -/
theorem Sound.of_keys_eq {u : Table α} (h : t.Sound)
    (hkeys : u.rows.map Keyed.key = t.rows.map Keyed.key) (hlast : u.lastId = t.lastId) :
    u.Sound where
  distinct := hkeys ▸ h.distinct
  bounded r hr := by
    have hmem : Keyed.key r ∈ t.rows.map Keyed.key := hkeys ▸ List.mem_map_of_mem hr
    obtain ⟨q, hq, hkey⟩ := List.mem_map.mp hmem
    rw [← hkey, hlast]
    exact h.bounded q hq

theorem Sound.nodup (h : t.Sound) : t.rows.Nodup := List.Nodup.of_map _ h.distinct

/-! ## Look-up -/

theorem mem_of_find?_eq_some {id : Int} {r : α} (h : t.find? id = some r) :
    r ∈ t.rows ∧ Keyed.key r = id :=
  ⟨List.mem_of_find?_eq_some h, by simpa using List.find?_some h⟩

theorem contains_of_find?_eq_some {id : Int} {r : α} (h : t.find? id = some r) :
    t.contains id = true := by
  unfold contains
  rw [h]
  rfl

theorem contains_of_find?_eq_none {id : Int} (h : t.find? id = none) : t.contains id = false := by
  unfold contains
  rw [h]
  rfl

theorem Sound.eq_of_key_eq (h : t.Sound) {r q : α} (hr : r ∈ t.rows) (hq : q ∈ t.rows)
    (hk : Keyed.key r = Keyed.key q) : r = q :=
  List.inj_on_of_nodup_map h.distinct hr hq hk

theorem Sound.find?_eq_some (h : t.Sound) {id : Int} {r : α} :
    t.find? id = some r ↔ r ∈ t.rows ∧ Keyed.key r = id := by
  refine ⟨mem_of_find?_eq_some, fun ⟨hr, hk⟩ => ?_⟩
  cases hf : t.find? id with
  | none =>
    have := List.find?_eq_none.mp hf r hr
    simp [hk] at this
  | some q =>
    obtain ⟨hq, hkq⟩ := mem_of_find?_eq_some hf
    rw [h.eq_of_key_eq hr hq (hk.trans hkq.symm)]

theorem Sound.find?_key (h : t.Sound) {r : α} (hr : r ∈ t.rows) :
    t.find? (Keyed.key r) = some r := h.find?_eq_some.mpr ⟨hr, rfl⟩

/-! ## Writing -/

theorem update_eq_mapRows (id : Int) (f : α → α) :
    t.update id f = t.mapRows fun r => if Keyed.key r = id then f r else r := rfl

@[simp] theorem insert_rows (r : α) : (t.insert r).rows = t.rows ++ [r] := rfl

theorem contains_reserve (id : Int) : (t.reserve id).contains = t.contains := rfl

section Map
variable {β : Type} {u : Table β} {f g : β → β}

@[simp] theorem mapRows_rows (f : β → β) : (u.mapRows f).rows = u.rows.map f := rfl

theorem mapRows_mapRows : (u.mapRows f).mapRows g = u.mapRows (g ∘ f) := by
  simp [mapRows]

theorem mapRows_congr (h : ∀ r ∈ u.rows, f r = g r) : u.mapRows f = u.mapRows g := by
  simp only [mapRows, List.map_congr_left h]

theorem mapRows_eq_self (h : ∀ r ∈ u.rows, f r = r) : u.mapRows f = u := by
  rw [mapRows_congr h]
  simp [mapRows]

end Map

theorem Sound.mapRows (h : t.Sound) {f : α → α} (hf : ∀ r, Keyed.key (f r) = Keyed.key r) :
    (t.mapRows f).Sound where
  distinct := by
    have hk : Keyed.key ∘ f = (Keyed.key : α → Int) := funext hf
    rw [mapRows_rows, List.map_map, hk]
    exact h.distinct
  bounded := by
    intro r hr
    obtain ⟨q, hq, rfl⟩ := List.mem_map.mp hr
    rw [hf]
    exact h.bounded q hq

theorem Sound.update (h : t.Sound) {id : Int} {f : α → α}
    (hf : ∀ r, Keyed.key (f r) = Keyed.key r) : (t.update id f).Sound :=
  h.mapRows fun r => by
    by_cases hr : Keyed.key r = id
    · rw [if_pos hr, hf]
    · rw [if_neg hr]

theorem mem_update {r : α} (hr : r ∈ t.rows) (f : α → α) :
    f r ∈ (t.update (Keyed.key r) f).rows := List.mem_map.mpr ⟨r, hr, if_pos rfl⟩

theorem mem_update_of_ne {r : α} (hr : r ∈ t.rows) {id : Int} (hid : Keyed.key r ≠ id)
    (f : α → α) : r ∈ (t.update id f).rows := List.mem_map.mpr ⟨r, hr, if_neg hid⟩

/-- The rows after a change of one of them. -/
theorem Sound.forall_mem_update (h : t.Sound) {r : α} (hr : r ∈ t.rows) {f : α → α}
    {P : α → Prop} (hf : P (f r)) (hrest : ∀ q ∈ t.rows, Keyed.key q ≠ Keyed.key r → P q) :
    ∀ q ∈ (t.update (Keyed.key r) f).rows, P q := by
  simp only [update_eq_mapRows, mapRows_rows, List.forall_mem_map]
  intro q hq
  split
  · next hid =>
    rw [h.eq_of_key_eq hq hr hid]
    exact hf
  · next hid => exact hrest q hq hid

theorem Sound.ne_nextId (h : t.Sound) {r : α} (hr : r ∈ t.rows) : Keyed.key r ≠ t.nextId := by
  have := h.bounded r hr
  unfold nextId
  omega

theorem mem_keys_iff {id : Int} : id ∈ t.rows.map Keyed.key ↔ t.contains id = true := by
  unfold contains find?
  rw [List.find?_isSome, List.mem_map]
  simp only [decide_eq_true_eq]

theorem Sound.contains_nextId (h : t.Sound) : t.contains t.nextId = false := by
  refine eq_false_of_ne_true fun hcontains => ?_
  obtain ⟨r, hr, hkey⟩ := List.mem_map.mp (mem_keys_iff.mpr hcontains)
  exact h.ne_nextId hr hkey

/-- A row can be added under any identifier that no other row has. -/
theorem Sound.insert_of_new (h : t.Sound) {r : α} (hr : t.contains (Keyed.key r) = false) :
    (t.insert r).Sound where
  distinct := by
    rw [insert_rows, List.map_append, List.nodup_append]
    refine ⟨h.distinct, by simp, ?_⟩
    intro k hk k' hk' heq
    have hkr : k' = Keyed.key r := by simpa using hk'
    rw [heq, hkr, mem_keys_iff, hr] at hk
    cases hk
  bounded := by
    intro q hq
    rcases List.mem_append.mp hq with hq | hq
    · exact Int.le_trans (h.bounded q hq) (Int.le_max_left _ _)
    · obtain rfl := List.mem_singleton.mp hq
      exact Int.le_max_right _ _

theorem Sound.insert (h : t.Sound) {r : α} (hr : Keyed.key r = t.nextId) :
    (t.insert r).Sound := by
  refine h.insert_of_new ?_
  rw [hr]
  exact h.contains_nextId

/-! ## Look-up after writing -/

section Lookup

variable {f : α → α} {id k : Int}

theorem find?_mapRows (hf : ∀ r, Keyed.key (f r) = Keyed.key r) :
    (t.mapRows f).find? k = (t.find? k).map f := by
  have hkey : ((fun r => decide (Keyed.key r = k)) ∘ f) = fun r => decide (Keyed.key r = k) :=
    funext fun r => by rw [Function.comp_apply, hf]
  unfold find? mapRows
  rw [List.find?_map, hkey]

theorem find?_update (hf : ∀ r, Keyed.key (f r) = Keyed.key r) :
    (t.update id f).find? k =
      (t.find? k).map fun r => if Keyed.key r = id then f r else r := by
  rw [update_eq_mapRows]
  refine find?_mapRows fun r => ?_
  split
  · exact hf r
  · rfl

theorem find?_update_self (hf : ∀ r, Keyed.key (f r) = Keyed.key r) :
    (t.update id f).find? id = (t.find? id).map f := by
  rw [find?_update hf]
  refine Option.map_congr fun r hr => ?_
  exact if_pos (mem_of_find?_eq_some hr).2

theorem find?_update_of_ne (hf : ∀ r, Keyed.key (f r) = Keyed.key r) (hk : k ≠ id) :
    (t.update id f).find? k = t.find? k := by
  rw [find?_update hf]
  cases hr : t.find? k with
  | none => rfl
  | some r =>
    have hkey := (mem_of_find?_eq_some hr).2
    rw [Option.map_some, if_neg (hkey ▸ hk)]

theorem contains_update (hf : ∀ r, Keyed.key (f r) = Keyed.key r) :
    (t.update id f).contains k = t.contains k := by
  unfold contains
  rw [find?_update hf, Option.isSome_map]

theorem contains_insert {q : α} (hk : t.contains k = true) : (t.insert q).contains k = true := by
  rw [← mem_keys_iff] at hk ⊢
  rw [insert_rows, List.map_append]
  exact List.mem_append_left _ hk

theorem find?_insert {r q : α} (hr : t.find? k = some r) : (t.insert q).find? k = some r := by
  unfold find? at hr ⊢
  rw [insert_rows, List.find?_append, hr]
  rfl

end Lookup

/-! ## Rows in the order of their identifiers -/

/-- Identifiers ascend from row to row, and none is above the last one given out. -/
structure Ascending (t : Table α) : Prop where
  sorted : t.rows.Pairwise fun r q => Keyed.key r < Keyed.key q
  bounded : ∀ r ∈ t.rows, Keyed.key r ≤ t.lastId

namespace Ascending

theorem empty : ({} : Table α).Ascending := ⟨.nil, nofun⟩

theorem sound (h : t.Ascending) : t.Sound where
  distinct := List.pairwise_map.mpr (h.sorted.imp fun hlt => Int.ne_of_lt hlt)
  bounded := h.bounded

theorem mapRows (h : t.Ascending) {f : α → α} (hf : ∀ r, Keyed.key (f r) = Keyed.key r) :
    (t.mapRows f).Ascending where
  sorted := by
    rw [mapRows_rows, List.pairwise_map]
    exact h.sorted.imp fun hlt => by rwa [hf, hf]
  bounded := (h.sound.mapRows hf).bounded

theorem update (h : t.Ascending) {id : Int} {f : α → α}
    (hf : ∀ r, Keyed.key (f r) = Keyed.key r) : (t.update id f).Ascending :=
  h.mapRows fun r => by
    by_cases hr : Keyed.key r = id
    · rw [if_pos hr, hf]
    · rw [if_neg hr]

theorem insert (h : t.Ascending) {r : α} (hr : Keyed.key r = t.nextId) :
    (t.insert r).Ascending where
  sorted := by
    rw [insert_rows, List.pairwise_append]
    refine ⟨h.sorted, List.pairwise_singleton _ _, fun q hq r' hr' => ?_⟩
    obtain rfl := List.mem_singleton.mp hr'
    rw [hr]
    exact Int.lt_add_one_of_le (h.bounded q hq)
  bounded := (h.sound.insert hr).bounded

end Ascending

end CivicForum.Table
