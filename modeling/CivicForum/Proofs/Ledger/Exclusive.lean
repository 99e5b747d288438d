import CivicForum.Proofs.Statement

/-! # One active penalty for each user

* `Ledger.Exclusive`: penalties have identifiers of their own, and no user has two that are active.
* `Penalty.retire`, `Store.retire`: the active penalty of a user expires.
* `Exclusive.mapRows`, `Exclusive.insert`, `Exclusive.reactivate`: the writes that keep it so.
-/

set_option autoImplicit false

namespace CivicForum

/-! ## Taking a penalty out of force -/

namespace Penalty

/-- The penalty, expired if it is an active one of this user. -/
def retire (userId : Int) (p : Penalty) : Penalty :=
  if p.userId = userId ∧ p.status = .active then p.withStatus .expired else p

variable {userId : Int} {p : Penalty}

@[simp] theorem retire_id : (p.retire userId).id = p.id := by
  unfold retire; split <;> rfl

@[simp] theorem retire_userId : (p.retire userId).userId = p.userId := by
  unfold retire; split <;> rfl

theorem retire_of_status_ne (h : p.status ≠ .active) : p.retire userId = p :=
  if_neg fun hp => h hp.2

theorem status_of_retire (h : (p.retire userId).status = .active) :
    p.status = .active ∧ p.userId ≠ userId := by
  unfold retire at h
  split at h
  · cases h
  · next hp => exact ⟨h, fun hu => hp ⟨hu, h⟩⟩

theorem retire_retire : (p.retire userId).retire userId = p.retire userId := by
  by_cases h : (p.retire userId).status = .active
  · exact if_neg fun hp => (status_of_retire h).2 (by simpa using hp.1)
  · exact retire_of_status_ne h

end Penalty

/-- The user's active penalty expires. -/
def Store.retire (s : Store) (userId : Int) : Store :=
  { s with penalties := s.penalties.mapRows (Penalty.retire userId) }

theorem Store.retire_retire (s : Store) (userId : Int) :
    (s.retire userId).retire userId = s.retire userId := by
  simp only [Store.retire, Table.mapRows_mapRows, Function.comp_def, Penalty.retire_retire]

namespace Ledger

/-! ## At most one active penalty -/

/-- Penalties have identifiers of their own, and no user has two that are active. -/
structure Exclusive (t : Table Penalty) : Prop where
  ids : t.Sound
  one : ∀ p ∈ t.rows, ∀ q ∈ t.rows, p.userId = q.userId → p.status = .active →
    q.status = .active → p = q

variable {t : Table Penalty} {s : Store}

theorem exclusive_empty : Exclusive {} := ⟨Table.sound_empty, by simp⟩

/-- Rows may change as long as none of them becomes active. -/
theorem Exclusive.mapRows (h : Exclusive t) {f : Penalty → Penalty} (hid : ∀ p, (f p).id = p.id)
    (huser : ∀ p, (f p).userId = p.userId)
    (hactive : ∀ p ∈ t.rows, (f p).status = .active → p.status = .active) :
    Exclusive (t.mapRows f) where
  ids := h.ids.mapRows hid
  one := by
    simp only [Table.mapRows_rows, List.forall_mem_map]
    intro p hp q hq hu hps hqs
    rw [huser, huser] at hu
    rw [h.one p hp q hq hu (hactive p hp hps) (hactive q hq hqs)]

theorem Exclusive.update (h : Exclusive t) {id : Int} {f : Penalty → Penalty}
    (hid : ∀ p, (f p).id = p.id) (huser : ∀ p, (f p).userId = p.userId)
    (hactive : ∀ p, (f p).status ≠ .active) : Exclusive (t.update id f) := by
  rw [Table.update_eq_mapRows]
  refine h.mapRows ?_ ?_ ?_ <;> intro p
  · split
    · exact hid p
    · rfl
  · split
    · exact huser p
    · rfl
  · intro _ hp
    split at hp
    · exact absurd hp (hactive p)
    · exact hp

theorem Exclusive.setStatus (h : Exclusive t) (id : Int) {status : Penalty.Status}
    (hstatus : status ≠ .active) : Exclusive (t.update id fun p => p.withStatus status) :=
  h.update (fun _ => rfl) (fun _ => rfl) fun _ => hstatus

theorem Exclusive.revoke (h : Exclusive t) (id revokedBy : Int) (revokedAt : Instant)
    (reason : String) : Exclusive (t.update id fun p => p.asRevoked revokedBy revokedAt reason) :=
  h.update (fun _ => rfl) (fun _ => rfl) fun _ => Penalty.Status.noConfusion

theorem Exclusive.retire (h : Exclusive t) (userId : Int) :
    Exclusive (t.mapRows (Penalty.retire userId)) :=
  h.mapRows (fun _ => Penalty.retire_id) (fun _ => Penalty.retire_userId)
    fun _ _ hp => (Penalty.status_of_retire hp).1

theorem Exclusive.insert (h : Exclusive t) {p : Penalty} (hid : p.id = t.nextId)
    (hnone : ∀ q ∈ t.rows, q.userId = p.userId → q.status ≠ .active) :
    Exclusive (t.insert p) where
  ids := h.ids.insert hid
  one := by
    intro q hq q' hq' hu hs hs'
    rw [Table.insert_rows, List.mem_append, List.mem_singleton] at hq hq'
    rcases hq with hq | rfl <;> rcases hq' with hq' | rfl
    · exact h.one q hq q' hq' hu hs hs'
    · exact absurd hs (hnone q hq hu)
    · exact absurd hs' (hnone q' hq' hu.symm)
    · rfl

/-- A penalty may become active when its user has no other active one. -/
theorem Exclusive.reactivate (h : Exclusive t) {p : Penalty} (hp : p ∈ t.rows)
    (hnone : ∀ q ∈ t.rows, q.userId = p.userId → q.status ≠ .active) :
    Exclusive (t.update p.id fun p => p.withStatus .active) where
  ids := h.ids.update fun _ => rfl
  one := by
    refine h.ids.forall_mem_update hp (h.ids.forall_mem_update hp (fun _ _ _ => rfl) ?_) ?_
    · intro q hq _ hu _ hs
      exact absurd hs (hnone q hq hu.symm)
    · refine fun q hq _ => h.ids.forall_mem_update hp (fun hu hs _ => ?_) ?_
      · exact absurd hs (hnone q hq hu)
      · exact fun q' hq' _ hu hs hs' => h.one q hq q' hq' hu hs hs'

/-! ## The active penalty of a user -/

theorem mem_of_activePenalty? {userId : Int} {o : Penalty}
    (ho : s.activePenalty? userId = some o) :
    o ∈ s.penalties.rows ∧ o.userId = userId ∧ o.status = .active :=
  ⟨List.mem_of_find?_eq_some ho, by simpa using List.find?_some ho⟩

theorem not_active_of_activePenalty?_eq_none {userId : Int}
    (ho : s.activePenalty? userId = none) :
    ∀ p ∈ s.penalties.rows, p.userId = userId → p.status ≠ .active := by
  intro p hp hu hs
  have := List.find?_eq_none.mp ho p hp
  simp [hu, hs] at this

theorem activePenalty?_eq_some (h : Exclusive s.penalties) {userId : Int} {o : Penalty} :
    s.activePenalty? userId = some o ↔
      o ∈ s.penalties.rows ∧ o.userId = userId ∧ o.status = .active := by
  refine ⟨mem_of_activePenalty?, fun ⟨ho, hu, hs⟩ => ?_⟩
  cases hf : s.activePenalty? userId with
  | none => exact absurd hs (not_active_of_activePenalty?_eq_none hf o ho hu)
  | some q =>
    obtain ⟨hq, hqu, hqs⟩ := mem_of_activePenalty? hf
    rw [h.one o ho q hq (hu.trans hqu.symm) hs hqs]

/-- Expiring the one active penalty of a user is expiring all of them. -/
theorem setStatus_expired_eq_retire (h : Exclusive s.penalties) {userId : Int} {o : Penalty}
    (ho : s.activePenalty? userId = some o) : s.setStatus o.id .expired = s.retire userId := by
  obtain ⟨hmem, hu, hs⟩ := mem_of_activePenalty? ho
  unfold Store.setStatus Store.retire
  rw [Table.update_eq_mapRows]
  congr 1
  apply Table.mapRows_congr
  intro p hp
  rw [key_penalty]
  unfold Penalty.retire
  by_cases hid : p.id = o.id
  · obtain rfl := h.ids.eq_of_key_eq hp hmem hid
    rw [if_pos hid, if_pos ⟨hu, hs⟩]
  · rw [if_neg hid, if_neg]
    rintro ⟨hpu, hps⟩
    exact hid (by rw [h.one p hp o hmem (hpu.trans hu.symm) hps hs])

theorem retire_eq_self {userId : Int} (ho : s.activePenalty? userId = none) :
    s.retire userId = s := by
  unfold Store.retire
  rw [Table.mapRows_eq_self fun p hp => ?_]
  exact if_neg fun ⟨hu, hs⟩ => not_active_of_activePenalty?_eq_none ho p hp hu hs

/-- Nobody's penalty is active for a user whose active penalty has been retired. -/
theorem not_active_retire {userId : Int} :
    ∀ p ∈ (t.mapRows (Penalty.retire userId)).rows, p.userId = userId → p.status ≠ .active := by
  intro p hp hu hs
  obtain ⟨q, -, rfl⟩ := List.mem_map.mp hp
  exact (Penalty.status_of_retire hs).2 (by simpa using hu)

/-- A penalty that is not active stays where it is when its user's active one is retired. -/
theorem mem_retire {p : Penalty} (hp : p ∈ t.rows) (hstatus : p.status ≠ .active)
    {userId : Int} : p ∈ (t.mapRows (Penalty.retire userId)).rows :=
  List.mem_map.mpr ⟨p, hp, Penalty.retire_of_status_ne hstatus⟩

end Ledger

end CivicForum
