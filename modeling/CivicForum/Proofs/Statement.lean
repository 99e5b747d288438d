import CivicForum.Proofs.Table
import CivicForum.Proofs.Work
import CivicForum.Store.Statement

/-! # What each statement writes

* `Store.setScore`, `Store.raised`, `Store.setStatus`, `Store.revoked`, `Store.withPenalty`,
  `Store.withAppeal`, `Store.resolved`: the store after a statement on one row.
* `Statement.yields_setPenaltyStatus`, `Statement.yields_insertPenalty`, …: one rule for each
  statement on users, penalties and appeals, with the row it returns and the refusals it can end
  with.
-/

set_option autoImplicit false

namespace CivicForum

@[simp] theorem key_penalty (p : Penalty) : Keyed.key p = p.id := rfl
@[simp] theorem key_appeal (a : Appeal) : Keyed.key a = a.id := rfl

/-! ## Rows as they are written -/

def Penalty.withStatus (p : Penalty) (status : Penalty.Status) : Penalty :=
  { p with status := status }

@[simp] theorem Penalty.kind_withStatus (p : Penalty) (status : Penalty.Status) :
    (p.withStatus status).kind = p.kind := rfl

@[simp] theorem Penalty.hasElapsed_withStatus (p : Penalty) (status : Penalty.Status)
    (now : Instant) : (p.withStatus status).hasElapsed now = p.hasElapsed now := rfl

theorem Member.createdAt_bump (m : Member) (c : Member.Counter) :
    (m.bump c).createdAt = m.createdAt := by
  cases c <;> rfl

theorem Member.registeredAt?_bump (m : Member) (c : Member.Counter) :
    (m.bump c).registeredAt? = m.registeredAt? := by
  unfold registeredAt?
  rw [createdAt_bump]

/-- The penalty as revoked. -/
def Penalty.asRevoked (p : Penalty) (revokedBy : Int) (revokedAt : Instant) (reason : String) :
    Penalty :=
  { p with
    status := .revoked
    revokedBy := some revokedBy
    revokedAt := some revokedAt
    revokeReason := some reason }

/-- The row that a request becomes. -/
def Penalty.Request.entry (r : Penalty.Request) (id : Int) (now : Instant) : Penalty where
  id := id
  userId := r.userId
  kind := r.kind
  status := .active
  reason := r.reason
  issuedBy := r.issuedBy
  issuedAt := now
  expiresAt := r.kind.length?.map now.plus
  relatedFlagIds := r.relatedFlagIds
  revokedBy := none
  revokedAt := none
  revokeReason := none

/-- An appeal as it is filed. -/
def Appeal.filed (id penaltyId userId : Int) (reason : String) (now : Instant) : Appeal where
  id := id
  penaltyId := penaltyId
  userId := userId
  reason := reason
  status := .pending
  createdAt := now
  reviewedBy := none
  reviewedAt := none
  reviewNotes := none

/-- The appeal as decided. -/
def Appeal.asReviewed (a : Appeal) (status : Appeal.Status) (reviewedBy : Int)
    (reviewedAt : Instant) (notes : String) : Appeal :=
  { a with
    status := status
    reviewedBy := some reviewedBy
    reviewedAt := some reviewedAt
    reviewNotes := some notes }

/-! ## Stores as they are left -/

namespace Store

def setScore (s : Store) (id score : Int) : Store :=
  { s with users := s.users.update id fun m => { m with trustScore := score } }

def raised (s : Store) (id : Int) (c : Member.Counter) : Store :=
  { s with users := s.users.update id fun m => m.bump c }

def setStatus (s : Store) (id : Int) (status : Penalty.Status) : Store :=
  { s with penalties := s.penalties.update id fun p => p.withStatus status }

def revoked (s : Store) (id revokedBy : Int) (revokedAt : Instant) (reason : String) : Store :=
  { s with penalties := s.penalties.update id fun p => p.asRevoked revokedBy revokedAt reason }

def withPenalty (s : Store) (p : Penalty) : Store :=
  { s with penalties := s.penalties.insert p }

def withAppeal (s : Store) (a : Appeal) : Store := { s with appeals := s.appeals.insert a }

def resolved (s : Store) (id : Int) (status : Appeal.Status) (reviewedBy : Int)
    (reviewedAt : Instant) (notes : String) : Store :=
  { s with appeals := s.appeals.update id fun a => a.asReviewed status reviewedBy reviewedAt notes }

theorem user?_raised_map (s : Store) (userId : Int) (c : Member.Counter) :
    (s.raised userId c).user? userId = (s.user? userId).map fun m => m.bump c :=
  Table.find?_update_self fun m => by cases c <;> rfl

theorem user?_raised {s : Store} {userId : Int} {m : Member} (hm : s.user? userId = some m)
    (c : Member.Counter) : (s.raised userId c).user? userId = some (m.bump c) := by
  rw [user?_raised_map, hm]
  rfl

end Store

namespace Statement

open Work

variable {J : Store → Prop} {s : Store} {E : Refusal → Prop}

/-! ## Constraints -/

theorem yields_freshId {α : Type} [Keyed α] {t : Table α} {Q : Int → Store → Prop}
    (hE : Text.wordMax < t.nextId → E (.database .full))
    (hQ : t.nextId ≤ Text.wordMax → Q t.nextId s) : Yields J s (freshId t) Q E := by
  unfold freshId
  split
  · next h => exact .pure (hQ h)
  · next h => exact .fault (hE (Int.not_le.mp h))

theorem yields_requireUser {t : Store} {id : Int} {Q : Unit → Store → Prop}
    (hE : t.users.contains id = false → E (.database .foreignKey))
    (hQ : t.users.contains id = true → Q () s) : Yields J s (requireUser t id) Q E := by
  unfold requireUser
  split
  · next h => exact .pure (hQ h)
  · next h => exact .fault (hE (eq_false_of_ne_true h))

/-- The storage has nothing to refuse when every other active penalty is of another user. -/
theorem yields_requireOneActive {t : Store} {userId : Int} {apartFrom : Option Int}
    {Q : Unit → Store → Prop}
    (hone : ∀ p ∈ t.penalties.rows, p.userId = userId → p.status = .active →
      apartFrom = some p.id) (hQ : Q () s) :
    Yields J s (requireOneActive t userId apartFrom) Q E := by
  unfold requireOneActive
  split
  · next h =>
    simp only [Bool.and_eq_true, List.any_eq_true, decide_eq_true_eq] at h
    obtain ⟨-, p, hp, ⟨hu, hs⟩, hne⟩ := h
    exact absurd (hone p hp hu hs) hne
  · exact .pure hQ

/-! ## Users -/

theorem yields_lockUser {id : Int} {Q : Bool → Store → Prop} (hJ : J s)
    (hQ : Q (s.users.contains id) s) : Yields J s (lockUser id) Q E :=
  .bind (.current (.bind (.put hJ (.pure hQ))))

theorem yields_setTrustScore {id score : Int} {Q : Unit → Store → Prop}
    (hJ : J (s.setScore id score)) (hQ : Q () (s.setScore id score)) :
    Yields J s (setTrustScore id score) Q E :=
  .bind (.current (.put hJ hQ))

theorem yields_raiseCounter {id : Int} {c : Member.Counter} {Q : Bool → Store → Prop}
    (hnone : s.user? id = none → Q false s)
    (hoverflow : ∀ m, s.user? id = some m → Text.wordMax ≤ m.counter c →
      E (.database (.overflow c.column)))
    (hJ : J (s.raised id c))
    (hQ : ∀ m, s.user? id = some m → m.counter c < Text.wordMax → Q true (s.raised id c)) :
    Yields J s (raiseCounter id c) Q E := by
  refine .bind (.current ?_)
  rcases hm : s.user? id with - | m
  · exact .pure (hnone hm)
  · dsimp only
    split
    · next hroom => exact .bind (.put hJ (.pure (hQ m hm hroom)))
    · next hfull => exact .fault (hoverflow m hm (Int.not_lt.mp hfull))

/-! ## Penalties -/

theorem yields_insertPenalty {r : Penalty.Request} {now : Instant} {Q : Penalty → Store → Prop}
    (hone : ∀ p ∈ s.penalties.rows, p.userId = r.userId → p.status ≠ .active)
    (hfull : Text.wordMax < s.penalties.nextId → E (.database .full))
    (huser : s.users.contains r.userId = false → E (.database .foreignKey))
    (hissuer : s.penalties.nextId ≤ Text.wordMax → s.users.contains r.issuedBy = false →
      E (.database .foreignKey))
    (hJ : J (s.withPenalty (r.entry s.penalties.nextId now)))
    (hQ : s.penalties.nextId ≤ Text.wordMax → s.users.contains r.issuedBy = true →
      Q (r.entry s.penalties.nextId now) (s.withPenalty (r.entry s.penalties.nextId now))) :
    Yields J s (insertPenalty r now) Q E := by
  refine .bind (.current (.bind (yields_freshId hfull fun hroom => ?_)))
  refine .bind (yields_requireOneActive (fun p hp hu ha => absurd ha (hone p hp hu)) ?_)
  refine .bind (yields_requireUser huser fun _ => ?_)
  refine .bind (yields_requireUser (hissuer hroom) fun hissued => ?_)
  exact .bind (.put hJ (.pure (hQ hroom hissued)))

theorem yields_setPenaltyStatus {id : Int} {status : Penalty.Status} {p : Penalty}
    {Q : Penalty → Store → Prop} (hp : s.penalty? id = some p)
    (hone : status = .active →
      ∀ q ∈ s.penalties.rows, q.userId = p.userId → q.status = .active → q.id = id)
    (hJ : J (s.setStatus id status)) (hQ : Q (p.withStatus status) (s.setStatus id status)) :
    Yields J s (setPenaltyStatus id status) Q E := by
  refine .bind (.current ?_)
  rw [hp]
  dsimp only
  split
  · next hstatus =>
    refine .bind (yields_requireOneActive (fun q hq hu ha => ?_) ?_)
    · rw [hone hstatus q hq hu ha]
    · exact .bind (.put hJ (.pure hQ))
  · exact .bind (.put hJ (.pure hQ))

theorem yields_markRevoked {id revokedBy : Int} {revokedAt : Instant} {reason : String}
    {p : Penalty} {Q : Penalty → Store → Prop} (hp : s.penalty? id = some p)
    (hkey : s.users.contains revokedBy = false → E (.database .foreignKey))
    (hJ : J (s.revoked id revokedBy revokedAt reason))
    (hQ : s.users.contains revokedBy = true →
      Q (p.asRevoked revokedBy revokedAt reason) (s.revoked id revokedBy revokedAt reason)) :
    Yields J s (markRevoked id revokedBy revokedAt reason) Q E := by
  refine .bind (.current ?_)
  rw [hp]
  refine .bind (yields_requireUser hkey fun hrevoker => ?_)
  exact .bind (.put hJ (.pure (hQ hrevoker)))

/-! ## Appeals -/

theorem yields_insertAppeal {penaltyId userId : Int} {reason : String} {now : Instant}
    {Q : Appeal → Store → Prop} (hnone : s.hasAppeal penaltyId = false)
    (hfull : Text.wordMax < s.appeals.nextId → E (.database .full))
    (hpenalty : s.penalties.contains penaltyId = false → E (.database .foreignKey))
    (huser : s.appeals.nextId ≤ Text.wordMax → s.users.contains userId = false →
      E (.database .foreignKey))
    (hJ : J (s.withAppeal (.filed s.appeals.nextId penaltyId userId reason now)))
    (hQ : s.appeals.nextId ≤ Text.wordMax → s.users.contains userId = true →
      Q (.filed s.appeals.nextId penaltyId userId reason now)
        (s.withAppeal (.filed s.appeals.nextId penaltyId userId reason now))) :
    Yields J s (insertAppeal penaltyId userId reason now) Q E := by
  refine .bind (.current (.bind (yields_freshId hfull fun hroom => ?_)))
  rw [hnone]
  dsimp only
  split
  · next h => cases h
  split
  · next h => exact .bind (.fault (hpenalty (by simpa using h)))
  · refine .bind (yields_requireUser (huser hroom) fun hfiler => ?_)
    exact .bind (.put hJ (.pure (hQ hroom hfiler)))

theorem yields_resolveAppeal {id reviewedBy : Int} {status : Appeal.Status}
    {reviewedAt : Instant} {notes : String} {a : Appeal} {Q : Appeal → Store → Prop}
    (ha : s.appeal? id = some a)
    (hkey : s.users.contains reviewedBy = false → E (.database .foreignKey))
    (hJ : J (s.resolved id status reviewedBy reviewedAt notes))
    (hQ : s.users.contains reviewedBy = true → Q (a.asReviewed status reviewedBy reviewedAt notes)
      (s.resolved id status reviewedBy reviewedAt notes)) :
    Yields J s (resolveAppeal id status reviewedBy reviewedAt notes) Q E := by
  refine .bind (.current ?_)
  rw [ha]
  refine .bind (yields_requireUser hkey fun hreviewer => ?_)
  exact .bind (.put hJ (.pure (hQ hreviewer)))

end Statement

end CivicForum
