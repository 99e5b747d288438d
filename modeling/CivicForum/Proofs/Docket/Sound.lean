import CivicForum.Appeal.Basic
import CivicForum.Proofs.Ledger.Exclusive

/-! # Penalties and the appeals against them

* `Penalty.Follows`: what may become of a penalty; its terms stay, and only some changes of status
  are possible.
* `Penalty.Sound`, `Appeal.Sound`: what every row says about its own course.
* `Appeal.Against`: what an appeal and its penalty say about each other.
* `Docket.Sound`: all of that for both tables, with at most one active penalty for each user and at
  most one appeal against each penalty.
* `Docket.Sound.mapActive`, `Docket.Sound.insert`, `Docket.Sound.file`, `Docket.Sound.decide`: the
  four ways in which rows change that keep it so.
-/

set_option autoImplicit false

namespace CivicForum

/-! ## The course of a penalty -/

/-- What an issuer laid down is the same in both rows. -/
structure Penalty.SameTerms (p q : Penalty) : Prop where
  id : q.id = p.id
  userId : q.userId = p.userId
  kind : q.kind = p.kind
  reason : q.reason = p.reason
  issuedBy : q.issuedBy = p.issuedBy
  issuedAt : q.issuedAt = p.issuedAt
  expiresAt : q.expiresAt = p.expiresAt
  relatedFlagIds : q.relatedFlagIds = p.relatedFlagIds

/-- The changes of status that there are. Nothing leads out of the expired and the revoked. -/
inductive Penalty.Status.Moves : Penalty.Status → Penalty.Status → Prop where
  | expire : Moves .active .expired
  | revoke : Moves .active .revoked
  | suspend : Moves .active .appealed
  | reinstate : Moves .appealed .active
  | supersede : Moves .appealed .expired
  | overturn : Moves .appealed .revoked

/-- What may become of a penalty. -/
def Penalty.Follows (p q : Penalty) : Prop :=
  q = p ∨ p.SameTerms q ∧ p.status.Moves q.status

namespace Penalty

variable {p q r : Penalty}

theorem SameTerms.refl (p : Penalty) : p.SameTerms p := ⟨rfl, rfl, rfl, rfl, rfl, rfl, rfl, rfl⟩

theorem SameTerms.trans (h : p.SameTerms q) (h' : q.SameTerms r) : p.SameTerms r where
  id := h'.id.trans h.id
  userId := h'.userId.trans h.userId
  kind := h'.kind.trans h.kind
  reason := h'.reason.trans h.reason
  issuedBy := h'.issuedBy.trans h.issuedBy
  issuedAt := h'.issuedAt.trans h.issuedAt
  expiresAt := h'.expiresAt.trans h.expiresAt
  relatedFlagIds := h'.relatedFlagIds.trans h.relatedFlagIds

theorem sameTerms_withStatus (p : Penalty) (status : Status) :
    p.SameTerms (p.withStatus status) := ⟨rfl, rfl, rfl, rfl, rfl, rfl, rfl, rfl⟩

theorem sameTerms_asRevoked (p : Penalty) (revokedBy : Int) (revokedAt : Instant)
    (reason : String) : p.SameTerms (p.asRevoked revokedBy revokedAt reason) :=
  ⟨rfl, rfl, rfl, rfl, rfl, rfl, rfl, rfl⟩

theorem Follows.sameTerms (h : p.Follows q) : p.SameTerms q := by
  rcases h with rfl | ⟨h, -⟩
  · exact .refl _
  · exact h

theorem Follows.eq_of_final (h : p.Follows q) (hp : p.status = .expired ∨ p.status = .revoked) :
    q = p := by
  rcases h with rfl | ⟨-, hmove⟩
  · rfl
  · rcases hp with hp | hp <;> rw [hp] at hmove <;> cases hmove

/-- The end of a penalty comes from its kind, and who revoked it is known exactly when somebody
did. -/
structure Sound (p : Penalty) : Prop where
  expiry : p.expiresAt = p.kind.length?.map p.issuedAt.plus
  revoked : p.status = .revoked →
    p.revokedBy.isSome ∧ p.revokedAt.isSome ∧ p.revokeReason.isSome
  standing : p.status ≠ .revoked →
    p.revokedBy = none ∧ p.revokedAt = none ∧ p.revokeReason = none

theorem Sound.withStatus (h : p.Sound) (hp : p.status ≠ .revoked) {status : Status}
    (hstatus : status ≠ .revoked) : (p.withStatus status).Sound where
  expiry := h.expiry
  revoked hr := absurd hr hstatus
  standing _ := h.standing hp

theorem Sound.asRevoked (h : p.Sound) (revokedBy : Int) (revokedAt : Instant) (reason : String) :
    (p.asRevoked revokedBy revokedAt reason).Sound where
  expiry := h.expiry
  revoked _ := ⟨rfl, rfl, rfl⟩
  standing hr := absurd rfl hr

theorem Request.sound_entry (r : Request) (id : Int) (now : Instant) : (r.entry id now).Sound where
  expiry := rfl
  revoked := nofun
  standing _ := ⟨rfl, rfl, rfl⟩

end Penalty

/-! ## The course of an appeal -/

/-- Reviewer, time of review and notes are there exactly when the appeal has been decided. -/
structure Appeal.Sound (a : Appeal) : Prop where
  pending : a.status = .pending →
    a.reviewedBy = none ∧ a.reviewedAt = none ∧ a.reviewNotes = none
  reviewed : a.status ≠ .pending →
    a.reviewedBy.isSome ∧ a.reviewedAt.isSome ∧ a.reviewNotes.isSome

theorem Appeal.sound_asReviewed (a : Appeal) (status : Appeal.Status) (hstatus : status ≠ .pending)
    (reviewer : Int) (now : Instant) (notes : String) :
    (a.asReviewed status reviewer now notes).Sound where
  pending h := absurd h hstatus
  reviewed _ := ⟨rfl, rfl, rfl⟩

/-- What an appeal and its penalty say about each other. -/
structure Appeal.Against (a : Appeal) (p : Penalty) : Prop where
  penalty : a.penaltyId = p.id
  user : a.userId = p.userId
  ban : p.kind ≠ .warning
  inTime : ∀ t, p.expiresAt = some t → a.createdAt < t
  pending : a.status = .pending → p.status = .appealed
  approved : a.status = .approved →
    p.status = .revoked ∧ p.revokedBy = a.reviewedBy ∧ p.revokedAt = a.reviewedAt ∧
      p.revokeReason = a.reviewNotes.map ("Appeal approved: " ++ ·)
  rejected : a.status = .rejected → p.status ≠ .appealed

/-- An active penalty may go, unless it goes to be appealed once more. -/
theorem Appeal.Against.of_active {a : Appeal} {p q : Penalty} (h : a.Against p)
    (hp : p.status = .active) (hpq : p.SameTerms q) (hq : q.status ≠ .appealed) :
    a.Against q where
  penalty := h.penalty.trans hpq.id.symm
  user := h.user.trans hpq.userId.symm
  ban := hpq.kind ▸ h.ban
  inTime := hpq.expiresAt ▸ h.inTime
  pending ha := by
    have := h.pending ha
    rw [hp] at this
    cases this
  approved ha := by
    have := (h.approved ha).1
    rw [hp] at this
    cases this
  rejected _ := hq

/-- An approved appeal revokes its penalty. -/
theorem Appeal.Against.approve {a : Appeal} {p : Penalty} (h : a.Against p) (reviewer : Int)
    (now : Instant) (notes : String) :
    (a.asReviewed .approved reviewer now notes).Against
      (p.asRevoked reviewer now ("Appeal approved: " ++ notes)) where
  penalty := h.penalty
  user := h.user
  ban := h.ban
  inTime := h.inTime
  pending := nofun
  approved _ := ⟨rfl, rfl, rfl, rfl⟩
  rejected := nofun

/-- A rejected appeal leaves no penalty suspended. -/
theorem Appeal.Against.reject {a : Appeal} {p : Penalty} (h : a.Against p) {status : Penalty.Status}
    (hstatus : status ≠ .appealed) (reviewer : Int) (now : Instant) (notes : String) :
    (a.asReviewed .rejected reviewer now notes).Against (p.withStatus status) where
  penalty := h.penalty
  user := h.user
  ban := h.ban
  inTime := h.inTime
  pending := nofun
  approved := nofun
  rejected _ := hstatus

/-! ## Both tables -/

/-- The penalties, and the appeals against them. -/
structure Docket where
  penalties : Table Penalty
  appeals : Table Appeal

def Store.docket (s : Store) : Docket := ⟨s.penalties, s.appeals⟩

/-- What holds of the two tables between units of work. -/
structure Docket.Sound (d : Docket) : Prop where
  exclusive : Ledger.Exclusive d.penalties
  appealIds : d.appeals.Sound
  penalty : ∀ p ∈ d.penalties.rows, p.Sound
  appeal : ∀ a ∈ d.appeals.rows, a.Sound ∧ ∃ p ∈ d.penalties.rows, a.Against p
  single : ∀ a ∈ d.appeals.rows, ∀ b ∈ d.appeals.rows, a.penaltyId = b.penaltyId → a = b
  suspended : ∀ p ∈ d.penalties.rows, p.status = .appealed →
    ∃ a ∈ d.appeals.rows, a.penaltyId = p.id ∧ a.status = .pending

namespace Docket

/-- Both tables with other penalties. -/
def withPenalties (d : Docket) (t : Table Penalty) : Docket := { d with penalties := t }

variable {d : Docket}

theorem sound_empty : Docket.Sound ⟨{}, {}⟩ where
  exclusive := Ledger.exclusive_empty
  appealIds := Table.sound_empty
  penalty := by simp
  appeal := by simp
  single := by simp
  suspended := by simp

theorem Sound.against (h : d.Sound) {a : Appeal} (ha : a ∈ d.appeals.rows) {p : Penalty}
    (hp : p ∈ d.penalties.rows) (hid : a.penaltyId = p.id) : a.Against p := by
  obtain ⟨-, q, hq, haq⟩ := h.appeal a ha
  obtain rfl := h.exclusive.ids.eq_of_key_eq hp hq (hid.symm.trans haq.penalty)
  exact haq

/-- Active penalties expire or are revoked. -/
theorem Sound.mapActive (h : d.Sound) {f : Penalty → Penalty}
    (hid : ∀ p, (f p).id = p.id) (huser : ∀ p, (f p).userId = p.userId)
    (hf : ∀ p ∈ d.penalties.rows, f p = p ∨
      p.status = .active ∧ p.SameTerms (f p) ∧ (f p).Sound ∧
        (f p).status ≠ .active ∧ (f p).status ≠ .appealed) :
    Sound (d.withPenalties (d.penalties.mapRows f)) where
  exclusive := h.exclusive.mapRows hid huser fun p hp hs => by
    rcases hf p hp with he | ⟨-, -, -, hne, -⟩
    · rwa [he] at hs
    · exact absurd hs hne
  appealIds := h.appealIds
  penalty := by
    simp only [withPenalties, Table.mapRows_rows, List.forall_mem_map]
    intro p hp
    rcases hf p hp with he | ⟨-, -, hs, -⟩
    · rw [he]
      exact h.penalty p hp
    · exact hs
  appeal := by
    intro a ha
    obtain ⟨hs, p, hp, hap⟩ := h.appeal a ha
    refine ⟨hs, f p, List.mem_map_of_mem hp, ?_⟩
    rcases hf p hp with he | ⟨hactive, hterms, -, -, hne⟩
    · rwa [he]
    · exact hap.of_active hactive hterms hne
  single := h.single
  suspended := by
    simp only [withPenalties, Table.mapRows_rows, List.forall_mem_map]
    intro p hp hs
    rcases hf p hp with he | ⟨-, -, -, -, hne⟩
    · rw [he] at hs ⊢
      exact h.suspended p hp hs
    · exact absurd hs hne

/-- A new penalty of a user without an active one. -/
theorem Sound.insert (h : d.Sound) (r : Penalty.Request) (now : Instant)
    (hnone : ∀ p ∈ d.penalties.rows, p.userId = r.userId → p.status ≠ .active) :
    Sound (d.withPenalties (d.penalties.insert (r.entry d.penalties.nextId now))) where
  exclusive := h.exclusive.insert rfl hnone
  appealIds := h.appealIds
  penalty := by
    simp only [withPenalties, Table.insert_rows, List.forall_mem_append, List.forall_mem_singleton]
    exact ⟨h.penalty, r.sound_entry _ _⟩
  appeal := by
    intro a ha
    obtain ⟨hs, p, hp, hap⟩ := h.appeal a ha
    exact ⟨hs, p, List.mem_append_left _ hp, hap⟩
  single := h.single
  suspended := by
    simp only [withPenalties, Table.insert_rows, List.forall_mem_append, List.forall_mem_singleton]
    exact ⟨h.suspended, nofun⟩

/-- An appeal is filed against an active ban that was never appealed before. -/
theorem Sound.file (h : d.Sound) {p : Penalty} (hp : p ∈ d.penalties.rows)
    (hactive : p.status = .active) (hban : p.kind ≠ .warning) {now : Instant}
    (hnow : ∀ t, p.expiresAt = some t → now < t)
    (hnone : ∀ a ∈ d.appeals.rows, a.penaltyId ≠ p.id) (reason : String) :
    Sound {
      penalties := d.penalties.update p.id fun p => p.withStatus .appealed
      appeals := d.appeals.insert (.filed d.appeals.nextId p.id p.userId reason now) } where
  exclusive := h.exclusive.setStatus p.id nofun
  appealIds := h.appealIds.insert rfl
  penalty := by
    have hstanding : p.status ≠ .revoked := by
      rw [hactive]
      nofun
    exact h.exclusive.ids.forall_mem_update hp ((h.penalty p hp).withStatus hstanding nofun)
      fun q hq _ => h.penalty q hq
  appeal := by
    simp only [Table.insert_rows, List.forall_mem_append, List.forall_mem_singleton]
    constructor
    · intro a ha
      obtain ⟨hs, q, hq, haq⟩ := h.appeal a ha
      have hne : q.id ≠ p.id := fun hid => hnone a ha (haq.penalty.trans hid)
      exact ⟨hs, q, Table.mem_update_of_ne hq hne _, haq⟩
    · refine ⟨⟨fun _ => ⟨rfl, rfl, rfl⟩, fun hne => absurd rfl hne⟩, p.withStatus .appealed,
        Table.mem_update hp _, ?_⟩
      exact ⟨rfl, rfl, hban, hnow, fun _ => rfl, nofun, nofun⟩
  single := by
    simp only [Table.insert_rows, List.forall_mem_append, List.forall_mem_singleton]
    refine ⟨fun a ha => ⟨h.single a ha, fun he => absurd he (hnone a ha)⟩, ?_, fun _ => trivial⟩
    exact fun a ha he => absurd he.symm (hnone a ha)
  suspended := by
    refine h.exclusive.ids.forall_mem_update hp (fun _ => ?_) fun q hq _ hs => ?_
    · exact ⟨_, List.mem_append_right _ (List.mem_singleton_self _), rfl, rfl⟩
    · obtain ⟨a, ha, haq⟩ := h.suspended q hq hs
      exact ⟨a, List.mem_append_left _ ha, haq⟩

/-- A pending appeal is decided, and its penalty takes the course that the decision gives it. -/
theorem Sound.decide (h : d.Sound) {a : Appeal} (ha : a ∈ d.appeals.rows) {p : Penalty}
    (hp : p ∈ d.penalties.rows) (hid : a.penaltyId = p.id) {f : Penalty → Penalty}
    {g : Appeal → Appeal} (hf : Ledger.Exclusive (d.penalties.update p.id f))
    (hfp : (f p).Sound) (hstatus : (f p).status ≠ .appealed)
    (hgid : ∀ b, (g b).id = b.id) (hgpenalty : ∀ b, (g b).penaltyId = b.penaltyId)
    (hga : (g a).Sound) (hagainst : (g a).Against (f p)) :
    Sound { penalties := d.penalties.update p.id f, appeals := d.appeals.update a.id g } where
  exclusive := hf
  appealIds := h.appealIds.update hgid
  penalty := h.exclusive.ids.forall_mem_update hp hfp fun q hq _ => h.penalty q hq
  appeal := by
    refine h.appealIds.forall_mem_update ha ⟨hga, f p, Table.mem_update hp f, hagainst⟩ ?_
    intro b hb hne
    obtain ⟨hs, q, hq, hbq⟩ := h.appeal b hb
    refine ⟨hs, q, Table.mem_update_of_ne hq (fun he => hne ?_) f, hbq⟩
    rw [h.single b hb a ha (hbq.penalty.trans (he.trans hid.symm))]
  single := by
    simp only [Table.update_eq_mapRows, Table.mapRows_rows, List.forall_mem_map, key_appeal]
    intro b hb c hc he
    have hbc : b = c := by
      apply h.single b hb c hc
      split at he <;> split at he <;> simpa only [hgpenalty] using he
    rw [hbc]
  suspended := by
    refine h.exclusive.ids.forall_mem_update hp (fun hs => absurd hs hstatus) ?_
    intro q hq hne hs
    obtain ⟨b, hb, hbq, hpending⟩ := h.suspended q hq hs
    refine ⟨b, Table.mem_update_of_ne hb (fun hba => hne ?_) g, hbq, hpending⟩
    obtain rfl := h.appealIds.eq_of_key_eq hb ha hba
    exact hbq.symm.trans hid

end Docket

end CivicForum
