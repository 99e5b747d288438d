import CivicForum.Proofs.Docket.Sound
import CivicForum.Proofs.Ledger.Operations
import CivicForum.Proofs.Time

/-! # The moves of penalties and appeals

* `Docket.Move`: everything that one unit of work can do to the two tables, with the conditions
  under which it does it.
* `Docket.Sound.move`: a move leaves sound tables.
* `Docket.Move.follows`: no penalty is lost, and each one follows its course.
-/

set_option autoImplicit false

namespace CivicForum

/-! ## Rows that change -/

namespace Penalty

variable {p : Penalty} {now : Instant}

theorem retire_follows (userId : Int) : p.Follows (p.retire userId) := by
  unfold retire
  split
  · next h =>
    refine .inr ⟨p.sameTerms_withStatus _, ?_⟩
    rw [h.2]
    exact .expire
  · exact .inl rfl

@[simp] theorem lapse_id : (p.lapse now).id = p.id := by
  unfold lapse; split <;> rfl

@[simp] theorem lapse_userId : (p.lapse now).userId = p.userId := by
  unfold lapse; split <;> rfl

theorem lapse_follows : p.Follows (p.lapse now) := by
  unfold lapse
  split
  · next h =>
    refine .inr ⟨p.sameTerms_withStatus _, ?_⟩
    rw [h.1]
    exact .expire
  · exact .inl rfl

theorem follows_withStatus {status : Status} (h : p.status.Moves status) :
    p.Follows (p.withStatus status) := .inr ⟨p.sameTerms_withStatus _, h⟩

theorem follows_asRevoked (h : p.status.Moves .revoked) (revokedBy : Int) (revokedAt : Instant)
    (reason : String) : p.Follows (p.asRevoked revokedBy revokedAt reason) :=
  .inr ⟨p.sameTerms_asRevoked _ _ _, h⟩

theorem isInForce_eq_true :
    p.isInForce now = true ↔ p.status = .active ∧ p.hasElapsed now = false := by
  unfold isInForce
  cases p.status <;> simp

theorem lt_of_hasElapsed_eq_false (h : p.hasElapsed now = false) :
    ∀ t, p.expiresAt = some t → now < t := by
  intro t ht
  simp only [hasElapsed, ht, decide_eq_false_iff_not] at h
  exact Instant.lt_of_not_le h

theorem Kind.isBan_eq_true {k : Kind} : k.isBan = true ↔ k ≠ .warning := by
  cases k <;> simp [isBan]

theorem Kind.severity_pos_iff {k : Kind} : 0 < k.severity ↔ k ≠ .warning := by
  cases k <;> simp [severity]

end Penalty

/-! ## Moves -/

namespace Docket

/-- Both tables after a decision on an appeal. -/
def decided (d : Docket) (a : Appeal) (status : Appeal.Status) (reviewer : Int) (now : Instant)
    (notes : String) (t : Table Penalty) : Docket where
  penalties := t
  appeals := d.appeals.update a.id fun a => a.asReviewed status reviewer now notes

/-- The appeal is pending, and this is its penalty. -/
structure Contests (d : Docket) (a : Appeal) (p : Penalty) : Prop where
  appeal : a ∈ d.appeals.rows
  pending : a.status = .pending
  penalty : p ∈ d.penalties.rows
  id : a.penaltyId = p.id

/-- What one unit of work can do to penalties and appeals at an instant. -/
inductive Move (now : Instant) (d : Docket) : Docket → Prop where
  | rest : Move now d d
  | issue (r : Penalty.Request) : Move now d (d.withPenalties
      ((d.penalties.mapRows (Penalty.retire r.userId)).insert (r.entry d.penalties.nextId now)))
  | revoke (p : Penalty) (revokedBy : Int) (reason : String)
      (hp : p ∈ d.penalties.rows) (hactive : p.status = .active) :
      Move now d (d.withPenalties
        (d.penalties.update p.id fun p => p.asRevoked revokedBy now reason))
  | sweep : Move now d (d.withPenalties (d.penalties.mapRows (Penalty.lapse now)))
  | submit (p : Penalty) (reason : String) (hp : p ∈ d.penalties.rows)
      (hforce : p.isInForce now = true) (hban : p.kind ≠ .warning)
      (hnone : ∀ a ∈ d.appeals.rows, a.penaltyId ≠ p.id) :
      Move now d {
        penalties := d.penalties.update p.id fun p => p.withStatus .appealed
        appeals := d.appeals.insert (.filed d.appeals.nextId p.id p.userId reason now) }
  | approve (a : Appeal) (p : Penalty) (reviewer : Int) (notes : String) (h : d.Contests a p) :
      Move now d (d.decided a .approved reviewer now notes
        (d.penalties.update p.id fun p =>
          p.asRevoked reviewer now ("Appeal approved: " ++ notes)))
  /-- A rejection that leaves the user to another penalty, which is at least as severe. -/
  | supersede (a : Appeal) (p o : Penalty) (reviewer : Int) (notes : String)
      (h : d.Contests a p) (ho : o ∈ d.penalties.rows) (huser : o.userId = p.userId)
      (hactive : o.status = .active) (hrank : p.kind.severity ≤ o.kind.severity) :
      Move now d (d.decided a .rejected reviewer now notes
        (d.penalties.update p.id fun p => p.withStatus .expired))
  /-- A rejection that puts the penalty back, in the place of a less severe one if there is one. -/
  | reinstate (a : Appeal) (p : Penalty) (reviewer : Int) (notes : String) (h : d.Contests a p)
      (hrank : ∀ o ∈ d.penalties.rows, o.userId = p.userId → o.status = .active →
        o.kind.severity < p.kind.severity) :
      Move now d (d.decided a .rejected reviewer now notes
        ((d.penalties.mapRows (Penalty.retire p.userId)).update p.id fun p =>
          p.withStatus .active))

variable {d d' : Docket} {now : Instant}

theorem Sound.retire (h : d.Sound) (userId : Int) :
    Sound (d.withPenalties (d.penalties.mapRows (Penalty.retire userId))) := by
  refine h.mapActive (fun _ => Penalty.retire_id) (fun _ => Penalty.retire_userId) fun p hp => ?_
  unfold Penalty.retire
  split
  · next hp' =>
    refine .inr ⟨hp'.2, p.sameTerms_withStatus _, ?_, nofun, nofun⟩
    exact (h.penalty p hp).withStatus (by rw [hp'.2]; nofun) nofun
  · exact .inl rfl

theorem Sound.lapse (h : d.Sound) (now : Instant) :
    Sound (d.withPenalties (d.penalties.mapRows (Penalty.lapse now))) := by
  refine h.mapActive (fun _ => Penalty.lapse_id) (fun _ => Penalty.lapse_userId) fun p hp => ?_
  unfold Penalty.lapse
  split
  · next hp' =>
    refine .inr ⟨hp'.1, p.sameTerms_withStatus _, ?_, nofun, nofun⟩
    exact (h.penalty p hp).withStatus (by rw [hp'.1]; nofun) nofun
  · exact .inl rfl

theorem Sound.revoke (h : d.Sound) {p : Penalty} (hp : p ∈ d.penalties.rows)
    (hactive : p.status = .active) (revokedBy : Int) (revokedAt : Instant) (reason : String) :
    Sound (d.withPenalties
      (d.penalties.update p.id fun p => p.asRevoked revokedBy revokedAt reason)) := by
  rw [Table.update_eq_mapRows]
  refine h.mapActive (fun q => ?_) (fun q => ?_) fun q hq => ?_
  · split <;> rfl
  · split <;> rfl
  · split
    · next hid =>
      obtain rfl := h.exclusive.ids.eq_of_key_eq hq hp hid
      exact .inr ⟨hactive, q.sameTerms_asRevoked _ _ _, (h.penalty q hq).asRevoked _ _ _,
        nofun, nofun⟩
    · exact .inl rfl

theorem Contests.against {a : Appeal} {p : Penalty} (hap : d.Contests a p) (h : d.Sound) :
    a.Against p := h.against hap.appeal hap.penalty hap.id

theorem Contests.status {a : Appeal} {p : Penalty} (hap : d.Contests a p) (h : d.Sound) :
    p.status = .appealed := (hap.against h).pending hap.pending

theorem Sound.approve (h : d.Sound) {a : Appeal} {p : Penalty} (hap : d.Contests a p)
    (reviewer : Int) (now : Instant) (notes : String) :
    Sound (d.decided a .approved reviewer now notes (d.penalties.update p.id fun p =>
      p.asRevoked reviewer now ("Appeal approved: " ++ notes))) :=
  h.decide hap.appeal hap.penalty hap.id (h.exclusive.revoke _ _ _ _)
    ((h.penalty p hap.penalty).asRevoked _ _ _) nofun (fun _ => rfl) (fun _ => rfl)
    (a.sound_asReviewed .approved nofun _ _ _) ((hap.against h).approve _ _ _)

/-- An appeal is rejected, and its penalty gets a status that leaves no two of a user active. -/
theorem Sound.reject (h : d.Sound) {a : Appeal} {p : Penalty} (hap : d.Contests a p)
    (status : Penalty.Status) (happealed : status ≠ .appealed) (hrevoked : status ≠ .revoked)
    (hexclusive : Ledger.Exclusive (d.penalties.update p.id fun p => p.withStatus status))
    (reviewer : Int) (now : Instant) (notes : String) :
    Sound (d.decided a .rejected reviewer now notes
      (d.penalties.update p.id fun p => p.withStatus status)) := by
  have hstanding : p.status ≠ .revoked := by
    rw [hap.status h]
    nofun
  exact h.decide hap.appeal hap.penalty hap.id hexclusive
    ((h.penalty p hap.penalty).withStatus hstanding hrevoked) happealed (fun _ => rfl)
    (fun _ => rfl) (a.sound_asReviewed .rejected nofun _ _ _)
    ((hap.against h).reject happealed _ _ _)

/-- The contested penalty is not the one that is retired. -/
theorem Contests.retire {a : Appeal} {p : Penalty} (hap : d.Contests a p) (h : d.Sound) :
    (d.withPenalties (d.penalties.mapRows (Penalty.retire p.userId))).Contests a p where
  appeal := hap.appeal
  pending := hap.pending
  penalty := Ledger.mem_retire hap.penalty (by rw [hap.status h]; nofun)
  id := hap.id

/-- Moves leave sound tables. -/
theorem Sound.move (h : d.Sound) (hmove : Move now d d') : d'.Sound := by
  cases hmove with
  | rest => exact h
  | issue r => exact (h.retire r.userId).insert r now Ledger.not_active_retire
  | revoke p revokedBy reason hp hactive => exact h.revoke hp hactive revokedBy now reason
  | sweep => exact h.lapse now
  | submit p reason hp hforce hban hnone =>
    obtain ⟨hactive, helapsed⟩ := Penalty.isInForce_eq_true.mp hforce
    exact h.file hp hactive hban (Penalty.lt_of_hasElapsed_eq_false helapsed) hnone reason
  | approve a p reviewer notes hap => exact h.approve hap reviewer now notes
  | supersede a p o reviewer notes hap =>
    exact h.reject hap .expired nofun nofun (h.exclusive.setStatus _ nofun) reviewer now notes
  | reinstate a p reviewer notes hap =>
    have hretired := hap.retire h
    refine (h.retire p.userId).reject hretired .active nofun nofun ?_ reviewer now notes
    exact (h.exclusive.retire p.userId).reactivate hretired.penalty Ledger.not_active_retire

/-! ## The course of every penalty -/

/-- Every penalty of the first table is in the second one as well, and has followed its course. -/
def Follows (d d' : Docket) : Prop :=
  ∀ p ∈ d.penalties.rows, ∃ q ∈ d'.penalties.rows, p.Follows q

theorem follows_mapRows {t : Table Penalty} {f : Penalty → Penalty}
    (hf : ∀ p ∈ t.rows, p.Follows (f p)) :
    ∀ p ∈ t.rows, ∃ q ∈ (t.mapRows f).rows, p.Follows q :=
  fun p hp => ⟨f p, List.mem_map_of_mem hp, hf p hp⟩

theorem follows_update {t : Table Penalty} (ht : t.Sound) {p : Penalty} (hp : p ∈ t.rows)
    {f : Penalty → Penalty} (hf : p.Follows (f p)) :
    ∀ q ∈ t.rows, ∃ q' ∈ (t.update p.id f).rows, q.Follows q' := by
  intro q hq
  by_cases hid : q.id = p.id
  · obtain rfl := ht.eq_of_key_eq hq hp hid
    exact ⟨f q, Table.mem_update hq f, hf⟩
  · exact ⟨q, Table.mem_update_of_ne hq hid f, .inl rfl⟩

/-- No penalty is lost, and each one follows its course. -/
theorem Move.follows (hmove : Move now d d') (h : d.Sound) : d.Follows d' := by
  cases hmove with
  | rest => exact fun p hp => ⟨p, hp, .inl rfl⟩
  | issue r =>
    intro p hp
    exact ⟨p.retire r.userId, List.mem_append_left _ (List.mem_map_of_mem hp),
      Penalty.retire_follows r.userId⟩
  | revoke p revokedBy reason hp hactive =>
    refine follows_update h.exclusive.ids hp (Penalty.follows_asRevoked ?_ _ _ _)
    rw [hactive]
    exact .revoke
  | sweep => exact follows_mapRows fun p _ => Penalty.lapse_follows
  | submit p reason hp hforce =>
    refine follows_update h.exclusive.ids hp (Penalty.follows_withStatus ?_)
    rw [(Penalty.isInForce_eq_true.mp hforce).1]
    exact .suspend
  | approve a p reviewer notes hap =>
    refine follows_update h.exclusive.ids hap.penalty (Penalty.follows_asRevoked ?_ _ _ _)
    rw [hap.status h]
    exact .overturn
  | supersede a p o reviewer notes hap =>
    refine follows_update h.exclusive.ids hap.penalty (Penalty.follows_withStatus ?_)
    rw [hap.status h]
    exact .supersede
  | reinstate a p reviewer notes hap =>
    intro q hq
    refine ⟨_, List.mem_map_of_mem (List.mem_map_of_mem hq), ?_⟩
    split
    · next hid =>
      obtain rfl := h.exclusive.ids.eq_of_key_eq hq hap.penalty (by simpa using hid)
      have hstatus := hap.status h
      rw [Penalty.retire_of_status_ne (by rw [hstatus]; nofun)]
      refine Penalty.follows_withStatus ?_
      rw [hstatus]
      exact .reinstate
    · exact Penalty.retire_follows p.userId

/-! ## Where every penalty comes from -/

/-- Every penalty of the second table has the terms of one of the first. -/
def Inherits (t u : Table Penalty) : Prop := ∀ q ∈ u.rows, ∃ p ∈ t.rows, p.SameTerms q

theorem Inherits.refl (t : Table Penalty) : Inherits t t := fun q hq => ⟨q, hq, .refl q⟩

theorem Inherits.trans {t u v : Table Penalty} (h : Inherits t u) (h' : Inherits u v) :
    Inherits t v := by
  intro q hq
  obtain ⟨p, hp, hpq⟩ := h' q hq
  obtain ⟨o, ho, hop⟩ := h p hp
  exact ⟨o, ho, hop.trans hpq⟩

theorem inherits_mapRows (t : Table Penalty) {f : Penalty → Penalty}
    (hf : ∀ p : Penalty, p.SameTerms (f p)) : Inherits t (t.mapRows f) := by
  intro q hq
  obtain ⟨p, hp, rfl⟩ := List.mem_map.mp hq
  exact ⟨p, hp, hf p⟩

theorem inherits_update (t : Table Penalty) (id : Int) {f : Penalty → Penalty}
    (hf : ∀ p : Penalty, p.SameTerms (f p)) : Inherits t (t.update id f) := by
  rw [Table.update_eq_mapRows]
  refine inherits_mapRows t fun p => ?_
  split
  · exact hf p
  · exact .refl p

theorem inherits_retire (t : Table Penalty) (userId : Int) :
    Inherits t (t.mapRows (Penalty.retire userId)) :=
  inherits_mapRows t fun _ => (Penalty.retire_follows userId).sameTerms

theorem inherits_lapse (t : Table Penalty) (now : Instant) :
    Inherits t (t.mapRows (Penalty.lapse now)) :=
  inherits_mapRows t fun _ => Penalty.lapse_follows.sameTerms

theorem inherits_setStatus (t : Table Penalty) (id : Int) (status : Penalty.Status) :
    Inherits t (t.update id fun p => p.withStatus status) :=
  inherits_update t id fun p => p.sameTerms_withStatus status

theorem inherits_revoke (t : Table Penalty) (id revokedBy : Int) (revokedAt : Instant)
    (reason : String) : Inherits t (t.update id fun p => p.asRevoked revokedBy revokedAt reason) :=
  inherits_update t id fun p => p.sameTerms_asRevoked revokedBy revokedAt reason

/-- A move invents no terms, except for a penalty that it issues. -/
theorem Move.origin (hmove : Move now d d') : ∀ q ∈ d'.penalties.rows,
    (∃ r : Penalty.Request, q = r.entry d.penalties.nextId now) ∨
      ∃ p ∈ d.penalties.rows, p.SameTerms q := by
  intro q hq
  cases hmove with
  | rest => exact .inr (Inherits.refl _ q hq)
  | issue r =>
    rcases List.mem_append.mp hq with hq | hq
    · exact .inr (inherits_retire _ _ q hq)
    · exact .inl ⟨r, List.mem_singleton.mp hq⟩
  | revoke p revokedBy reason => exact .inr (inherits_revoke _ _ _ _ _ q hq)
  | sweep => exact .inr (inherits_lapse _ _ q hq)
  | submit p reason => exact .inr (inherits_setStatus _ _ _ q hq)
  | approve a p reviewer notes => exact .inr (inherits_revoke _ _ _ _ _ q hq)
  | supersede a p o reviewer notes => exact .inr (inherits_setStatus _ _ _ q hq)
  | reinstate a p reviewer notes =>
    exact .inr ((inherits_retire _ _).trans (inherits_setStatus _ _ _) q hq)

/-- A move takes at most one identifier for a penalty. -/
theorem Move.lastId_le (hmove : Move now d d') :
    d'.penalties.lastId ≤ d.penalties.lastId + 1 := by
  cases hmove with
  | issue r =>
    show max d.penalties.lastId (d.penalties.lastId + 1) ≤ d.penalties.lastId + 1
    omega
  | _ => exact Int.le_add_one (Int.le_refl _)

/-- A move takes at most one identifier for an appeal. -/
theorem Move.lastAppealId_le (hmove : Move now d d') :
    d'.appeals.lastId ≤ d.appeals.lastId + 1 := by
  cases hmove with
  | submit p reason =>
    show max d.appeals.lastId (d.appeals.lastId + 1) ≤ d.appeals.lastId + 1
    omega
  | _ => exact Int.le_add_one (Int.le_refl _)

end Docket

end CivicForum
