import CivicForum.Proofs.Reputation.Score

/-! # Which penalties are admitted

* `Store.rank`: how severe the user's penalty in force is.
* `Store.Admitted`: the store after a penalty has been issued.
* `Call.run_issue_admitted`, `Call.run_issue_barred`: of requests for a user who can be scored, from
  issuers who exist, those that are more severe than what is in force are admitted, and the others
  are refused.
-/

set_option autoImplicit false

namespace CivicForum

open Work

/-- One more than the severity of the user's penalty in force, and zero when nothing is in force. -/
def Store.rank (s : Store) (userId : Int) (now : Instant) : Nat :=
  match s.penaltyInForce? userId now with
  | some p => p.kind.severity + 1
  | none => 0

variable {s t : Store} {userId : Int} {now : Instant} {m : Member} {registered : Instant}
  {r : Penalty.Request}

theorem Store.rank_of_penaltyInForce? {p : Penalty} (hp : s.penaltyInForce? userId now = some p) :
    s.rank userId now = p.kind.severity + 1 := by
  unfold rank
  rw [hp]

theorem Store.rank_le_iff {n : Nat} : s.rank userId now ≤ n ↔
    ∀ p, s.penaltyInForce? userId now = some p → p.kind.severity < n := by
  unfold rank
  rcases s.penaltyInForce? userId now with - | p
  · simp
  · refine ⟨fun h q hq => ?_, fun h => h p rfl⟩
    obtain rfl := Option.some.inj hq
    exact h

/-! ## The store after an admission -/

theorem Penalty.Request.hasElapsed_entry (r : Penalty.Request) (id : Int) (now : Instant) :
    (r.entry id now).hasElapsed now = false := by
  unfold Penalty.hasElapsed entry
  cases r.kind with
  | warning => rfl
  | dayBan => exact decide_eq_false (Instant.not_plus_le (by decide))
  | weekBan => exact decide_eq_false (Instant.not_plus_le (by decide))
  | monthBan => exact decide_eq_false (Instant.not_plus_le (by decide))
  | permanentBan => rfl

/-- The new penalty is in force, and the score counts it. -/
structure Store.Admitted (s : Store) (r : Penalty.Request) (now : Instant) (m : Member)
    (registered : Instant) (t : Store) : Prop where
  inForce : t.penaltyInForce? r.userId now = some (r.entry s.penalties.nextId now)
  member : t.user? r.userId = some { m with trustScore := m.scoreAt registered now true }
  users : ∀ id, t.users.contains id = s.users.contains id
  lastId : t.penalties.lastId = s.penalties.lastId + 1

namespace Ledger

theorem penaltyInForce?_issued (h : s.Exclusive) (r : Penalty.Request) (now : Instant) :
    (s.issued r now).penaltyInForce? r.userId now = some (r.entry s.penalties.nextId now) := by
  rw [penaltyInForce?_eq_some, activePenalty?_eq_some (exclusive_issued h r now), issued_penalties]
  refine ⟨⟨?_, rfl, rfl⟩, r.hasElapsed_entry _ now⟩
  exact List.mem_append_right _ (List.mem_singleton_self _)

theorem scoreOf_issued (h : s.Exclusive) (hm : s.user? r.userId = some m)
    (hregistered : m.registeredAt? = some registered) :
    Reputation.scoreOf (s.issued r now) r.userId now = .ok (m.scoreAt registered now true) := by
  obtain ⟨-, hid⟩ := Table.mem_of_find?_eq_some hm
  have hissued := exclusive_issued h r now
  refine Reputation.scoreOf_eq_ok.mpr ⟨m, registered, ?_, hregistered, ?_⟩
  · unfold Store.user?
    rw [Store.issued_users]
    exact hm
  · rw [Store.ofInputs_scoreInputs hissued, Store.isPenalized_eq hissued,
      show m.id = r.userId from hid, penaltyInForce?_issued h]
    rfl

theorem admitted_issued (h : s.Exclusive) (hm : s.user? r.userId = some m) :
    s.Admitted r now m registered
      ((s.issued r now).setScore r.userId (m.scoreAt registered now true)) where
  inForce := penaltyInForce?_issued h r now
  member := by
    rw [Store.user?_setScore]
    unfold Store.user? at *
    rw [Store.issued_users, hm]
    rfl
  users id := by
    have hkept : (s.issued r now).users.contains id = s.users.contains id := by
      rw [Store.issued_users]
    rw [← hkept]
    exact Table.contains_update fun _ => rfl
  lastId := by
    show (s.issued r now).penalties.lastId = s.penalties.lastId + 1
    rw [issued_penalties]
    exact Int.max_eq_right (Int.le_add_one (Int.le_refl _))

end Ledger

/-! ## The call -/

namespace Call

theorem run_issue_admitted (systemId : Int) (h : s.docket.Sound) (hm : s.user? r.userId = some m)
    (hregistered : m.registeredAt? = some registered)
    (hissuer : s.users.contains r.issuedBy = true)
    (hroom : s.penalties.nextId ≤ Text.wordMax)
    (hrank : s.rank r.userId now ≤ r.kind.severity) :
    ∃ t, (Call.issue r).run systemId now s =
      (.ok (.penalty (r.entry s.penalties.nextId now)), t) ∧ s.Admitted r now m registered t := by
  have hscore : Reputation.scoreOf (s.issued r now) r.userId now =
      .ok (m.scoreAt registered now true) := Ledger.scoreOf_issued h.exclusive hm hregistered
  have hissue : Yields Store.Exclusive s ((Call.issue r).work systemId now)
      (fun ans t => ans = .penalty (r.entry s.penalties.nextId now) ∧
        s.Admitted r now m registered t) fun _ => False := by
    refine .bind (Ledger.yields_issue h.exclusive (fun hmissing => ?_) (fun p hp hbarred => ?_)
      (fun hfull => ?_) (fun hnone => ?_) (fun e he => ?_) fun _ score hok => .pure ⟨rfl, ?_⟩)
    · rw [Table.contains_of_find?_eq_some hm] at hmissing
      cases hmissing
    · exact Nat.not_lt.mpr hbarred (Store.rank_le_iff.mp hrank p hp)
    · exact Int.not_lt.mpr hroom hfull
    · rw [hissuer] at hnone
      cases hnone
    · rw [hscore] at he
      cases he
    · obtain rfl := Except.ok.inj (hscore.symm.trans hok)
      exact Ledger.admitted_issued h.exclusive hm
  obtain ⟨ans, t, hrun, rfl, hadmitted⟩ := hissue.exists_ok
  exact ⟨t, hrun, hadmitted⟩

theorem run_issue_barred (systemId : Int) (h : s.docket.Sound)
    (huser : s.users.contains r.userId = true) {p : Penalty} (hp : s.penaltyInForce? r.userId now = some p)
    (hrank : r.kind.severity ≤ p.kind.severity) :
    (Call.issue r).run systemId now s = (.error (.alreadyPenalized p.kind), s) := by
  have hissue : Yields Store.Exclusive s ((Call.issue r).work systemId now)
      (fun _ _ => False) fun e => e = .alreadyPenalized p.kind := by
    refine .bind (.bind (Ledger.yields_makeWay h.exclusive (fun hmissing => ?_) (fun _ q hq _ => ?_)
      fun _ hadmits => ?_))
    · rw [huser] at hmissing
      cases hmissing
    · rw [Option.some.inj (hp.symm.trans hq)]
    · exact absurd hrank (Nat.not_le.mpr (hadmits p hp))
  obtain ⟨e, hrun, rfl⟩ := hissue.exists_error
  exact hrun

end Call

end CivicForum
