import CivicForum.Proofs.Text.Decimal
import CivicForum.Proofs.Time.Civil
import CivicForum.Time.Timestamp
import Mathlib.Data.List.Induction
import Mathlib.Data.List.TakeWhile

/-! # Times that timestamps mean

* `Text.ofDigits_lt`: some decimal digits write a number with no more digits.
* `Timestamp.Clock.isCivil_toInstant`: a date and a time of day mean a time that a clock can show.
* `Timestamp.isCivil_of_read?`: so does every timestamp that can be read.
-/

set_option autoImplicit false

namespace CivicForum

open Text

/-! ## Fractions -/

theorem Text.digitValue_le {c : Char} (h : isDigit c = true) : digitValue c ≤ 9 := by
  unfold isDigit at h
  simp only [Bool.and_eq_true, decide_eq_true_eq] at h
  have hle : c.toNat ≤ '9'.toNat := h.2
  unfold digitValue
  have hnine : '9'.toNat = 57 := rfl
  have hzero : '0'.toNat = 48 := rfl
  omega

theorem Text.ofDigits_lt {ds : List Char} (h : ∀ c ∈ ds, isDigit c = true) :
    ofDigits ds < 10 ^ ds.length := by
  induction ds using List.reverseRecOn with
  | nil => decide
  | append_singleton ds c ih =>
    obtain ⟨hds, hc⟩ := List.forall_mem_append.mp h
    have hlast := digitValue_le (hc c (List.mem_singleton_self c))
    have hfirst := ih hds
    rw [ofDigits_append_singleton, List.length_append, List.length_singleton, Nat.pow_succ]
    omega

namespace Timestamp

/-- The digits of a fraction come to less than a second. -/
theorem ofFraction_lt {ds : List Char} (h : ∀ c ∈ ds, isDigit c = true) :
    ofFraction ds < 1000000000 := by
  have hkept : ∀ c ∈ ds.take 9, isDigit c = true := fun c hc => h c (List.mem_of_mem_take hc)
  have hlength : (ds.take 9).length ≤ 9 := List.length_take_le 9 ds
  have hlt := ofDigits_lt hkept
  unfold ofFraction
  calc ofDigits (ds.take 9) * Nat.pow 10 (9 - (ds.take 9).length)
      < 10 ^ (ds.take 9).length * 10 ^ (9 - (ds.take 9).length) :=
        Nat.mul_lt_mul_of_pos_right hlt (Nat.pow_pos (by decide))
    _ = 10 ^ 9 := by rw [← Nat.pow_add, Nat.add_sub_cancel' hlength]

theorem readFraction_lt {cs rest : List Char} {n : Nat} (h : readFraction cs = some (n, rest)) :
    n < 1000000000 := by
  unfold readFraction at h
  split at h
  · dsimp only at h
    split at h
    · cases h
    · obtain ⟨rfl, -⟩ := Prod.mk.inj (Option.some.inj h)
      exact ofFraction_lt fun c hc => List.mem_takeWhile_imp hc
  · obtain ⟨rfl, -⟩ := Prod.mk.inj (Option.some.inj h)
    decide

/-! ## Dates with a time of day -/

theorem Clock.isCivil_toInstant {c : Clock} (hvalid : c.isValid = true)
    (hnanos : c.nanos < 1000000000) {offset : Int} (hoffset : offset % 60 = 0) :
    (c.toInstant offset).IsCivil := by
  unfold Clock.isValid at hvalid
  simp only [Bool.and_eq_true, decide_eq_true_eq] at hvalid
  obtain ⟨⟨⟨-, -⟩, -⟩, hsecond⟩ := hvalid
  unfold Instant.IsCivil Instant.IsReading Clock.toInstant
  rw [Instant.inLeapSecond_eq_true]
  dsimp only
  by_cases hleap : c.second = 60
  · simp only [hleap, if_true]
    omega
  · simp only [hleap, if_false]
    omega

/-- An offset is made of hours and minutes. -/
theorem minutes_of_offset {sign offset : Int} {hours minutes : Nat} {left rest : List Char}
    (h : (if minutes ≤ 59 then
        if -maxOffset ≤ sign * (hours * 3600 + minutes * 60 : Nat) ∧
            sign * (hours * 3600 + minutes * 60 : Nat) ≤ maxOffset then
          some (sign * (hours * 3600 + minutes * 60 : Nat), left) else none
      else none) = some (offset, rest)) : offset % 60 = 0 := by
  have hminutes : (60 : Int) ∣ (hours * 3600 + minutes * 60 : Nat) :=
    ⟨hours * 60 + minutes, by omega⟩
  split at h
  · split at h
    · obtain ⟨rfl, -⟩ := Prod.mk.inj (Option.some.inj h)
      exact Int.emod_eq_zero_of_dvd (Int.dvd_trans hminutes (Int.dvd_mul_left _ _))
    · cases h
  · cases h

theorem readOffset_minutes {cs rest : List Char} {offset : Int}
    (h : readOffset cs = some (offset, rest)) : offset % 60 = 0 := by
  unfold readOffset at h
  split at h
  · cases h
  simp only [Option.bind_eq_bind] at h
  split at h
  · obtain ⟨rfl, -⟩ := Prod.mk.inj (Option.some.inj h)
    rfl
  split at h
  · simp only [Option.bind_eq_some_iff, Prod.exists] at h
    obtain ⟨_, _, hours, _, _, _, _, minutes, _, _, h⟩ := h
    exact minutes_of_offset h
  split at h
  · simp only [Option.bind_eq_some_iff, Prod.exists] at h
    obtain ⟨_, _, hours, _, _, _, _, minutes, _, _, h⟩ := h
    exact minutes_of_offset h
  · cases h

theorem isCivil_of_readZoned {cs : List Char} {t : Instant} (h : readZoned cs = some t) :
    t.IsCivil := by
  unfold readZoned at h
  obtain ⟨⟨year, _⟩, -, h⟩ := Option.bind_eq_some_iff.mp h
  obtain ⟨_, -, h⟩ := Option.bind_eq_some_iff.mp h
  obtain ⟨⟨month, _⟩, -, h⟩ := Option.bind_eq_some_iff.mp h
  obtain ⟨_, -, h⟩ := Option.bind_eq_some_iff.mp h
  obtain ⟨⟨day, _⟩, -, h⟩ := Option.bind_eq_some_iff.mp h
  dsimp only at h
  split at h
  · split at h
    · obtain ⟨_, -, h⟩ := Option.bind_eq_some_iff.mp h
      obtain ⟨⟨hour, _⟩, -, h⟩ := Option.bind_eq_some_iff.mp h
      obtain ⟨_, -, h⟩ := Option.bind_eq_some_iff.mp h
      obtain ⟨⟨minute, _⟩, -, h⟩ := Option.bind_eq_some_iff.mp h
      obtain ⟨_, -, h⟩ := Option.bind_eq_some_iff.mp h
      obtain ⟨⟨second, _⟩, -, h⟩ := Option.bind_eq_some_iff.mp h
      obtain ⟨⟨nanos, _⟩, hfraction, h⟩ := Option.bind_eq_some_iff.mp h
      obtain ⟨⟨offset, _⟩, hoffset, h⟩ := Option.bind_eq_some_iff.mp h
      dsimp only at h
      split at h
      · next hvalid =>
        obtain rfl := Option.some.inj h
        exact Clock.isCivil_toInstant hvalid.1 (readFraction_lt hfraction)
          (readOffset_minutes hoffset)
      · cases h
    · cases h
  · cases h

/-! ## Layouts -/

/-- Only a fraction changes the nanoseconds. -/
theorem Piece.read_nanos {p : Piece} {c d : Clock} {cs rest : List Char}
    (h : p.read c cs = some (d, rest)) (hc : c.nanos < 1000000000) : d.nanos < 1000000000 := by
  cases p with
  | fraction =>
    obtain ⟨⟨n, left⟩, hread, heq⟩ := Option.map_eq_some_iff.mp h
    obtain ⟨rfl, -⟩ := Prod.mk.inj heq
    exact readFraction_lt hread
  | gap =>
    obtain ⟨rfl, -⟩ := Prod.mk.inj (Option.some.inj h)
    exact hc
  | _ =>
    obtain ⟨_, -, heq⟩ := Option.map_eq_some_iff.mp h
    obtain ⟨rfl, -⟩ := Prod.mk.inj heq
    exact hc

theorem Layout.readFrom_nanos {l : Layout} {c d : Clock} {cs rest : List Char}
    (h : l.readFrom c cs = some (d, rest)) (hc : c.nanos < 1000000000) :
    d.nanos < 1000000000 := by
  induction l generalizing c cs with
  | nil =>
    obtain ⟨rfl, -⟩ := Prod.mk.inj (Option.some.inj h)
    exact hc
  | cons p ps ih =>
    simp only [Layout.readFrom, Option.bind_eq_bind, Option.bind_eq_some_iff, Prod.exists] at h
    obtain ⟨next, left, hread, hrest⟩ := h
    exact ih hrest (p.read_nanos hread hc)

theorem Layout.isCivil_of_read? {l : Layout} {cs : List Char} {t : Instant}
    (h : l.read? cs = some t) : t.IsCivil := by
  unfold Layout.read? at h
  split at h
  · next clock hread =>
    split at h
    · next hvalid =>
      obtain rfl := Option.some.inj h
      exact Clock.isCivil_toInstant hvalid (Layout.readFrom_nanos hread (by decide)) rfl
    · cases h
  · cases h

/-- A timestamp that can be read means a time that a clock can show. -/
theorem isCivil_of_read? {text : String} {t : Instant} (h : read? text = some t) : t.IsCivil := by
  unfold read? readWith? at h
  dsimp only at h
  rcases hzoned : readZoned (trim text.toList) with - | u
  · rw [hzoned, Option.orElse_none] at h
    obtain ⟨l, -, hread⟩ := List.exists_of_findSome?_eq_some h
    exact Layout.isCivil_of_read? hread
  · rw [hzoned] at h
    obtain rfl := Option.some.inj h
    exact isCivil_of_readZoned hzoned

end Timestamp

end CivicForum
