import CivicForum.Proofs.Session

/-! # One active penalty for each user, whatever happens

* `Store.activePenalties`: the active penalties of a user.
* `Session.one_active`: there is at most one, also between the statements of a unit of work, and
  also when the storage does not check; so the storage never has a duplicate to refuse.
-/

set_option autoImplicit false

namespace CivicForum

open Work Statement

/-- The user's active penalties. -/
def Store.activePenalties (s : Store) (userId : Int) : List Penalty :=
  s.penalties.rows.filter fun p => p.userId = userId ∧ p.status = .active

theorem Store.Exclusive.length_activePenalties {s : Store} (h : s.Exclusive) (userId : Int) :
    (s.activePenalties userId).length ≤ 1 := by
  have hnodup : (s.activePenalties userId).Nodup := h.ids.nodup.filter _
  have hone : ∀ p ∈ s.activePenalties userId, ∀ q ∈ s.activePenalties userId, p = q := by
    simp only [activePenalties, List.mem_filter, decide_eq_true_eq]
    rintro p ⟨hp, hpu, hps⟩ q ⟨hq, hqu, hqs⟩
    exact h.one p hp q hq (hpu.trans hqu.symm) hps hqs
  match hactive : s.activePenalties userId with
  | [] => exact Nat.zero_le 1
  | [_] => exact Nat.le_refl 1
  | p :: q :: rest =>
    rw [hactive] at hnodup hone
    have hpq : p = q := hone p (by simp) q (by simp)
    simp [hpq] at hnodup

theorem Store.Exclusive.activePenalties_eq {s : Store} (h : s.Exclusive) {userId : Int} {p : Penalty}
    (hp : s.activePenalty? userId = some p) : s.activePenalties userId = [p] := by
  have hmem : p ∈ s.activePenalties userId := by
    unfold activePenalties
    simpa using Ledger.mem_of_activePenalty? hp
  obtain ⟨q, hq⟩ := List.length_eq_one_iff.mp
    (Nat.le_antisymm (h.length_activePenalties userId) (List.length_pos_of_mem hmem))
  rw [hq, List.mem_singleton] at hmem
  rw [hq, hmem]

/-- Once way has been made for a penalty, the storage finds no other active one of its user. -/
theorem Ledger.yields_makeWay_insertPenalty {s : Store} (h : s.Exclusive) (r : Penalty.Request)
    (now : Instant) :
    Yields Store.Exclusive s (do makeWay r now; insertPenalty r now) (fun _ _ => True)
      Refusal.NotDuplicate := by
  refine .bind (yields_makeWay h (fun _ => nofun) (fun _ _ _ _ => nofun) fun _ _ => ?_)
  exact yields_insertPenalty_retire h (fun _ => nofun) (fun _ => nofun) (fun _ _ => nofun)
    fun _ _ => trivial

namespace Session

/-- Whatever happens, and whether or not the storage checks, no user has two active penalties, not
even between two statements of a call or write. So the storage never refuses a penalty for which way
has been made as a duplicate, and no review of an appeal either. -/
theorem one_active (systemId : Option Int) (now : Instant) (index : Bool) (as : List Action) :
    let f := (fresh systemId now index).after as
    f.store.oneActiveIndex = index ∧
    (∀ userId, (f.store.activePenalties userId).length ≤ 1) ∧
    (∀ (c : Call), ∀ t ∈ (c.work f.systemId f.now).trail f.store,
      ∀ userId, (t.activePenalties userId).length ≤ 1) ∧
    (∀ (w : PlatformWrite), ∀ t ∈ (w.work f.now).trail f.store,
      ∀ userId, (t.activePenalties userId).length ≤ 1) ∧
    (∀ r column, ((do Ledger.makeWay r f.now; insertPenalty r f.now : Work Penalty).commit
      f.store).1 ≠ .error (.database (.duplicate column))) ∧
    ∀ id reviewerId d notes column, ((Appeals.review id reviewerId d notes f.now).commit
      f.store).1 ≠ .error (.database (.duplicate column)) := by
  intro f
  have hfresh := sound_fresh systemId now index
  have h : f.store.docket.Sound := sound_after hfresh as
  refine ⟨index_after hfresh as, ?_, fun c t ht => ?_, fun w t ht => ?_, ?_, ?_⟩
  · exact Store.Exclusive.length_activePenalties h.exclusive
  · exact ((c.yields_move h f.systemId).of_trail t ht).length_activePenalties
  · exact ((w.keeps_work.yields_rest f.now h.exclusive).of_trail t ht).length_activePenalties
  · intro r column he
    exact (Ledger.yields_makeWay_insertPenalty h.exclusive r f.now).of_refusal he column rfl
  · intro id reviewerId d notes column he
    exact (Appeals.yields_review h).of_refusal he column rfl

end Session

end CivicForum
