import CivicForum.Penalty.Ledger
import CivicForum.Proofs.Effect
import CivicForum.Proofs.Ledger.Exclusive

/-! # What the operations of the ledger do

* `Store.issued`, `Store.swept`, `Store.reinstated`: the penalties after a successful operation.
* `Ledger.issueEffect`, `Ledger.revokeEffect`, `Reputation.recalculateEffect`: what comes of a
  request, in the order in which the reasons to refuse it are looked at.
* `Ledger.hasEffect_issue`, `Ledger.hasEffect_revoke`, `Ledger.yields_sweep`,
  `Ledger.yields_reinstate`: from penalties with at most one active one for each user, every
  statement of the operation leaves such penalties, and the operation has that effect.
* `Ledger.yields_insertPenalty_retire`: a new penalty never meets another active one.
-/

set_option autoImplicit false

namespace CivicForum

/-! ## The stores that operations lead to -/

/-- The refusal is not that two rows agree in a column that tells rows apart. -/
def Refusal.NotDuplicate (e : Refusal) : Prop := ∀ column, e ≠ .database (.duplicate column)

theorem Refusal.notDuplicate_cannotRevoke (text : String) :
    (Refusal.cannotRevoke text).NotDuplicate := nofun

theorem Refusal.notDuplicate_notFound (what : String) :
    (Refusal.notFound what).NotDuplicate := nofun

/-- Penalties have identifiers of their own, and no user has two that are active. -/
def Store.Exclusive (s : Store) : Prop := Ledger.Exclusive s.penalties

/-- The penalty, expired if it is active and its end has come. -/
def Penalty.lapse (now : Instant) (p : Penalty) : Penalty :=
  if p.status = .active ∧ p.hasElapsed now = true then p.withStatus .expired else p

namespace Store

/-- What the user has waiting for approval is removed. -/
def withoutPending (s : Store) (userId : Int) (reason : String) (now : Instant) : Store :=
  { s with
    ideas := s.ideas.mapRows fun i =>
      if i.userId = userId && i.isPending then Statement.removeIdea reason now i else i
    comments := s.comments.mapRows fun c =>
      if c.userId = userId && c.isPending then Statement.removeComment reason now c else c }

/-- The store with a new penalty, before the score is computed anew. -/
def issued (s : Store) (r : Penalty.Request) (now : Instant) : Store :=
  let t := (s.retire r.userId).withPenalty (r.entry s.penalties.nextId now)
  if r.removeContent && r.kind ≠ .warning then
    t.withoutPending r.userId ("user banned: " ++ r.reason) now
  else t

/-- The penalties with these identifiers expire. -/
def expired (s : Store) (ids : List Int) : Store :=
  { s with penalties := s.penalties.mapRows fun p =>
    if p.id ∈ ids then p.withStatus .expired else p }

/-- Every active penalty whose end has come expires. -/
def swept (s : Store) (now : Instant) : Store :=
  { s with penalties := s.penalties.mapRows (Penalty.lapse now) }

/-- The more severe of the penalty and its user's active one is active, the other one expires. -/
def reinstated (s : Store) (p : Penalty) : Store :=
  match s.activePenalty? p.userId with
  | some o =>
    if p.kind.severity ≤ o.kind.severity then s.setStatus p.id .expired
    else (s.retire p.userId).setStatus p.id .active
  | none => s.setStatus p.id .active

end Store

open Work Statement

variable {s : Store} {E : Refusal → Prop}

/-! ## Scores -/

theorem Reputation.yields_recalculate {J : Store → Prop} {userId : Int} {now : Instant}
    {Q : Int → Store → Prop} (hJ : ∀ score, J (s.setScore userId score))
    (hE : ∀ e, scoreOf s userId now = .error e → E e)
    (hQ : ∀ score, scoreOf s userId now = .ok score → Q score (s.setScore userId score)) :
    Yields J s (recalculate userId now) Q E := by
  refine .bind (.current (.bind (.lift (fun score hscore => ?_) hE)))
  exact .bind (yields_setTrustScore (hJ score) (.pure (hQ score hscore)))

/-- The score of a user is computed and stored. -/
def Reputation.recalculateEffect (s : Store) (userId : Int) (now : Instant) : Effect Int :=
  (scoreOf s userId now).map fun score => (score, s.setScore userId score)

theorem Reputation.hasEffect_recalculate (h : s.Exclusive) {userId : Int} {now : Instant} :
    HasEffect Store.Exclusive s (recalculate userId now) (recalculateEffect s userId now) := by
  unfold recalculateEffect
  refine yields_recalculate (fun _ => h) (fun e he => ?_) fun score hscore => ?_
  · rw [he]
    rfl
  · rw [hscore]
    rfl

theorem Reputation.recalculateEffect_eq_ok {userId score : Int} {now : Instant} {t : Store} :
    recalculateEffect s userId now = .ok (score, t) ↔
      scoreOf s userId now = .ok score ∧ t = s.setScore userId score := by
  unfold recalculateEffect
  rcases scoreOf s userId now with e | n
  · simp [Except.map]
  · simp only [Except.map, Except.ok.injEq, Prod.mk.injEq]
    constructor
    · rintro ⟨rfl, rfl⟩
      exact ⟨rfl, rfl⟩
    · rintro ⟨rfl, rfl⟩
      exact ⟨rfl, rfl⟩

theorem Reputation.recalculateEffect_eq_error {userId : Int} {now : Instant} {e : Refusal} :
    recalculateEffect s userId now = .error e ↔ scoreOf s userId now = .error e := by
  unfold recalculateEffect
  rcases scoreOf s userId now with e' | n <;> simp [Except.map]

theorem Reputation.notDuplicate_of_scoreOf {userId : Int} {now : Instant} {e : Refusal}
    (he : scoreOf s userId now = .error e) : e.NotDuplicate := by
  intro column
  rintro rfl
  unfold scoreOf requireMember at he
  cases hm : s.user? userId with
  | none => simp [hm, bind, Except.bind] at he
  | some m =>
    simp only [hm, bind, Except.bind] at he
    split at he <;> cases he

namespace Ledger

/-! ## Issuing -/

theorem penaltyInForce?_eq_some {userId : Int} {now : Instant} {p : Penalty} :
    s.penaltyInForce? userId now = some p ↔
      s.activePenalty? userId = some p ∧ p.hasElapsed now = false := by
  unfold Store.penaltyInForce?
  rw [Option.filter_eq_some_iff]
  refine and_congr_right fun hp => ?_
  rw [Penalty.isInForce, (mem_of_activePenalty? hp).2.2, Bool.not_eq_true']

theorem activePenalty?_retire (s : Store) (userId : Int) :
    (s.retire userId).activePenalty? userId = none := by
  refine List.find?_eq_none.mpr fun p hp => ?_
  have hactive := not_active_retire p hp
  simpa using hactive

theorem yields_expireElapsed (h : Exclusive s.penalties) {userId : Int} {now : Instant}
    {Q : Unit → Store → Prop}
    (hkept : (∀ p, s.activePenalty? userId = some p → p.hasElapsed now = false) → Q () s)
    (helapsed : ∀ p, s.activePenalty? userId = some p → p.hasElapsed now = true →
      Q () (s.retire userId)) :
    Yields Store.Exclusive s (expireElapsed userId now) Q E := by
  refine .bind (.current ?_)
  rcases ho : s.activePenalty? userId with - | o
  · exact .pure (hkept fun p hp => by rw [ho] at hp; cases hp)
  · obtain ⟨hmem, -, -⟩ := mem_of_activePenalty? ho
    dsimp only
    split
    · next hover =>
      refine .discard (yields_setPenaltyStatus (h.ids.find?_key hmem) nofun ?_ ?_)
      · exact h.setStatus _ nofun
      · rw [setStatus_expired_eq_retire h ho]
        exact helapsed o ho hover
    · next hrunning =>
      refine .pure (hkept fun p hp => ?_)
      obtain rfl := Option.some.inj (ho.symm.trans hp)
      exact eq_false_of_ne_true hrunning

theorem yields_supersede (h : Exclusive s.penalties) {userId : Int} {kind : Penalty.Kind}
    {Q : Unit → Store → Prop}
    (hbarred : ∀ p, s.activePenalty? userId = some p → kind.severity ≤ p.kind.severity →
      E (.alreadyPenalized p.kind))
    (hQ : (∀ p, s.activePenalty? userId = some p → p.kind.severity < kind.severity) →
      Q () (s.retire userId)) :
    Yields Store.Exclusive s (supersede userId kind) Q E := by
  refine .bind (.current ?_)
  rcases ho : s.activePenalty? userId with - | o
  · rw [retire_eq_self ho] at hQ
    exact .pure (hQ fun p hp => by rw [ho] at hp; cases hp)
  · obtain ⟨hmem, -, -⟩ := mem_of_activePenalty? ho
    dsimp only
    split
    · next hrank => exact .bind (.throw (hbarred o ho hrank))
    · next hrank =>
      refine .discard (yields_setPenaltyStatus (h.ids.find?_key hmem) nofun ?_ ?_)
      · exact h.setStatus _ nofun
      · rw [setStatus_expired_eq_retire h ho]
        refine hQ fun p hp => ?_
        obtain rfl := Option.some.inj (ho.symm.trans hp)
        exact Nat.lt_of_not_le hrank

/-- Way is made unless the user is missing or has a penalty in force that is as severe. -/
theorem yields_makeWay (h : Exclusive s.penalties) {r : Penalty.Request} {now : Instant}
    {Q : Unit → Store → Prop}
    (hmissing : s.users.contains r.userId = false → E (.notFound "user"))
    (hbarred : s.users.contains r.userId = true → ∀ p, s.penaltyInForce? r.userId now = some p →
      r.kind.severity ≤ p.kind.severity → E (.alreadyPenalized p.kind))
    (hQ : s.users.contains r.userId = true →
      (∀ p, s.penaltyInForce? r.userId now = some p → p.kind.severity < r.kind.severity) →
      Q () (s.retire r.userId)) :
    Yields Store.Exclusive s (makeWay r now) Q E := by
  refine .bind (yields_lockUser h ?_)
  dsimp only
  split
  · next hnone => exact .bind (.throw (hmissing (by simpa using hnone)))
  · next hsome =>
    have huser : s.users.contains r.userId = true := by simpa using hsome
    refine .bind (yields_expireElapsed h (fun hrunning => ?_) fun o ho hover => ?_)
    · refine yields_supersede h (fun p hp => ?_) fun hrank => hQ huser fun p hp => ?_
      · exact hbarred huser p (penaltyInForce?_eq_some.mpr ⟨hp, hrunning p hp⟩)
      · exact hrank p (penaltyInForce?_eq_some.mp hp).1
    · have hnone := activePenalty?_retire s r.userId
      refine yields_supersede (h.retire r.userId) (fun p hp => ?_) fun _ => ?_
      · rw [hnone] at hp
        cases hp
      · rw [Store.retire_retire]
        refine hQ huser fun p hp => ?_
        obtain ⟨hp, hrunning⟩ := penaltyInForce?_eq_some.mp hp
        obtain rfl := Option.some.inj (ho.symm.trans hp)
        rw [hover] at hrunning
        cases hrunning

/-- The storage finds no other active penalty when the user's has been retired. -/
theorem yields_insertPenalty_retire (h : Exclusive s.penalties) {r : Penalty.Request}
    {now : Instant} {Q : Penalty → Store → Prop}
    (hfull : Text.wordMax < s.penalties.nextId → E (.database .full))
    (huser : s.users.contains r.userId = false → E (.database .foreignKey))
    (hissuer : s.penalties.nextId ≤ Text.wordMax → s.users.contains r.issuedBy = false →
      E (.database .foreignKey))
    (hQ : s.penalties.nextId ≤ Text.wordMax → s.users.contains r.issuedBy = true →
      Q (r.entry s.penalties.nextId now)
        ((s.retire r.userId).withPenalty (r.entry s.penalties.nextId now))) :
    Yields Store.Exclusive (s.retire r.userId) (insertPenalty r now) Q E := by
  refine yields_insertPenalty not_active_retire hfull huser hissuer ?_ hQ
  exact (h.retire r.userId).insert rfl not_active_retire

theorem yields_enter (h : Exclusive s.penalties) {r : Penalty.Request} {now : Instant}
    {Q : Penalty → Store → Prop}
    (hfull : Text.wordMax < s.penalties.nextId → E (.database .full))
    (huser : s.users.contains r.userId = false → E (.database .foreignKey))
    (hissuer : s.penalties.nextId ≤ Text.wordMax → s.users.contains r.issuedBy = false →
      E (.database .foreignKey))
    (hQ : s.penalties.nextId ≤ Text.wordMax → s.users.contains r.issuedBy = true →
      Q (r.entry s.penalties.nextId now)
        ((s.retire r.userId).withPenalty (r.entry s.penalties.nextId now))) :
    Yields Store.Exclusive (s.retire r.userId) (enter r now) Q E := by
  have hinsert : Yields Store.Exclusive (s.retire r.userId) (insertPenalty r now) Q
      fun e => e.NotDuplicate ∧ E e :=
    yields_insertPenalty_retire h (fun hf => ⟨nofun, hfull hf⟩) (fun hu => ⟨nofun, huser hu⟩)
      (fun hroom hi => ⟨nofun, hissuer hroom hi⟩) hQ
  refine .tryCatch (hinsert.mono (fun _ ht => ht) (fun _ _ ht => ht) ?_)
  rintro e ⟨hnot, he⟩ t
  split
  · next column => exact absurd rfl (hnot column)
  · exact .throw he

theorem yields_removeContent {r : Penalty.Request} {now : Instant} {Q : Unit → Store → Prop}
    (h : Exclusive s.penalties)
    (hQ : Q () (if r.removeContent && r.kind ≠ .warning then
      s.withoutPending r.userId ("user banned: " ++ r.reason) now else s)) :
    Yields Store.Exclusive s (removeContent r now) Q E := by
  unfold removeContent
  split
  · next hr =>
    rw [if_pos hr] at hQ
    exact .bind (.bind (.current (.put h (.bind (.current (.put h hQ))))))
  · next hr =>
    rw [if_neg hr] at hQ
    exact .pure hQ

theorem issued_penalties {r : Penalty.Request} {now : Instant} :
    (s.issued r now).penalties =
      (s.retire r.userId).penalties.insert (r.entry s.penalties.nextId now) := by
  unfold Store.issued
  dsimp only
  split <;> rfl

theorem exclusive_issued (h : Exclusive s.penalties) (r : Penalty.Request) (now : Instant) :
    (s.issued r now).Exclusive := by
  unfold Store.Exclusive
  rw [issued_penalties]
  exact (h.retire r.userId).insert rfl not_active_retire

/-- What comes of a request for a penalty. The user is looked for first, then a penalty in force that
is as severe; then come the identifier, the issuer, and the score. -/
def issueEffect (s : Store) (r : Penalty.Request) (now : Instant) : Effect Penalty :=
  if s.users.contains r.userId = false then .error (.notFound "user")
  else
    match (s.penaltyInForce? r.userId now).filter fun p => r.kind.severity ≤ p.kind.severity with
    | some p => .error (.alreadyPenalized p.kind)
    | none =>
      if Text.wordMax < s.penalties.nextId then .error (.database .full)
      else if s.users.contains r.issuedBy = false then .error (.database .foreignKey)
      else (Reputation.recalculateEffect (s.issued r now) r.userId now).answering
        fun _ => r.entry s.penalties.nextId now

/-- The penalty bars no request that is more severe. -/
theorem filter_penaltyInForce?_eq_none {r : Penalty.Request} {now : Instant} :
    (s.penaltyInForce? r.userId now).filter (fun p => r.kind.severity ≤ p.kind.severity) = none ↔
      ∀ p, s.penaltyInForce? r.userId now = some p → p.kind.severity < r.kind.severity := by
  simp [Option.filter_eq_none_iff]

theorem hasEffect_issue (h : Exclusive s.penalties) (r : Penalty.Request) (now : Instant) :
    HasEffect Store.Exclusive s (issue r now) (issueEffect s r now) := by
  unfold issueEffect
  refine .bind (yields_makeWay h (fun hmissing => if_pos hmissing) (fun huser p hp hbarred => ?_)
    fun huser hrank => ?_)
  · simp [huser, hp, Option.filter, hbarred]
  rw [if_neg (by rw [huser]; nofun), filter_penaltyInForce?_eq_none.mpr hrank]
  dsimp only
  refine .bind (yields_enter h (fun hfull => if_pos hfull) (fun hnone => ?_)
    (fun hroom hissuer => ?_) fun hroom hissuer => ?_)
  · rw [huser] at hnone
    cases hnone
  · rw [if_neg (Int.not_lt.mpr hroom), if_pos hissuer]
  rw [if_neg (Int.not_lt.mpr hroom), if_neg (by rw [hissuer]; nofun)]
  refine .bind (yields_removeContent ((h.retire r.userId).insert rfl not_active_retire) ?_)
  have hscore : HasEffect Store.Exclusive (s.issued r now) (Reputation.recalculate r.userId now)
      (Reputation.recalculateEffect (s.issued r now) r.userId now) :=
    Reputation.hasEffect_recalculate (exclusive_issued h r now)
  refine .bind (.discard (hscore.mono (fun _ ht => ht) (fun score t ht => .pure ?_) fun e he => ?_))
  · rw [ht, Effect.answering_ok]
  · rw [he, Effect.answering_error]

theorem issueEffect_eq_ok {r : Penalty.Request} {now : Instant} {p : Penalty} {t : Store} :
    issueEffect s r now = .ok (p, t) ↔ s.users.contains r.userId = true ∧
      (∀ q, s.penaltyInForce? r.userId now = some q → q.kind.severity < r.kind.severity) ∧
      s.penalties.nextId ≤ Text.wordMax ∧ s.users.contains r.issuedBy = true ∧
      p = r.entry s.penalties.nextId now ∧ ∃ score,
        Reputation.scoreOf (s.issued r now) r.userId now = .ok score ∧
          t = (s.issued r now).setScore r.userId score := by
  rw [← filter_penaltyInForce?_eq_none]
  unfold issueEffect
  split
  · next huser => simp [huser]
  · next huser =>
    split
    · next q hq => simp [hq]
    · next hq =>
      split
      · next hfull => simp [Int.not_le.mpr hfull]
      · next hroom =>
        split
        · next hissuer => simp [hissuer]
        · next hissuer =>
          rw [Bool.not_eq_false] at huser hissuer
          rw [Effect.answering_eq_ok]
          simp only [Reputation.recalculateEffect_eq_ok]
          constructor
          · rintro ⟨score, ⟨hok, ht⟩, hp⟩
            exact ⟨huser, hq, Int.not_lt.mp hroom, hissuer, hp, score, hok, ht⟩
          · rintro ⟨-, -, -, -, hp, score, hok, ht⟩
            exact ⟨score, ⟨hok, ht⟩, hp⟩

/-- The five reasons for which a penalty is refused. -/
theorem cases_of_issueEffect_eq_error {r : Penalty.Request} {now : Instant} {e : Refusal}
    (he : issueEffect s r now = .error e) :
    s.users.contains r.userId = false ∧ e = .notFound "user" ∨
      (∃ p, s.penaltyInForce? r.userId now = some p ∧ r.kind.severity ≤ p.kind.severity ∧
        e = .alreadyPenalized p.kind) ∨
      Text.wordMax < s.penalties.nextId ∧ e = .database .full ∨
      s.users.contains r.issuedBy = false ∧ e = .database .foreignKey ∨
      Reputation.scoreOf (s.issued r now) r.userId now = .error e := by
  unfold issueEffect at he
  split at he
  · next huser => exact .inl ⟨huser, (Except.error.inj he).symm⟩
  split at he
  · next p hp =>
    obtain ⟨hp, hrank⟩ := Option.filter_eq_some_iff.mp hp
    exact .inr (.inl ⟨p, hp, by simpa using hrank, (Except.error.inj he).symm⟩)
  split at he
  · next hfull => exact .inr (.inr (.inl ⟨hfull, (Except.error.inj he).symm⟩))
  split at he
  · next hissuer => exact .inr (.inr (.inr (.inl ⟨hissuer, (Except.error.inj he).symm⟩)))
  · rw [Effect.answering_eq_error, Reputation.recalculateEffect_eq_error] at he
    exact .inr (.inr (.inr (.inr he)))

/-- A penalty is issued unless the user or the issuer is missing, a penalty in force is as severe, no
identifier is left, or the score cannot be computed. -/
theorem yields_issue (h : Exclusive s.penalties) {r : Penalty.Request} {now : Instant}
    {Q : Penalty → Store → Prop}
    (hmissing : s.users.contains r.userId = false → E (.notFound "user"))
    (hbarred : ∀ p, s.penaltyInForce? r.userId now = some p → r.kind.severity ≤ p.kind.severity →
      E (.alreadyPenalized p.kind))
    (hfull : Text.wordMax < s.penalties.nextId → E (.database .full))
    (hissuer : s.users.contains r.issuedBy = false → E (.database .foreignKey))
    (hscore : ∀ e, Reputation.scoreOf (s.issued r now) r.userId now = .error e → E e)
    (hQ : (∀ p, s.penaltyInForce? r.userId now = some p → p.kind.severity < r.kind.severity) →
      ∀ score, Reputation.scoreOf (s.issued r now) r.userId now = .ok score →
        Q (r.entry s.penalties.nextId now) ((s.issued r now).setScore r.userId score)) :
    Yields Store.Exclusive s (issue r now) Q E := by
  refine (hasEffect_issue h r now).mono (fun _ ht => ht) (fun p t hp => ?_) fun e he => ?_
  · obtain ⟨-, hrank, -, -, rfl, score, hok, rfl⟩ := issueEffect_eq_ok.mp hp
    exact hQ hrank score hok
  · obtain ⟨hnone, rfl⟩ | ⟨p, hp, hrank, rfl⟩ | ⟨hlast, rfl⟩ | ⟨hnone, rfl⟩ | he :=
      cases_of_issueEffect_eq_error he
    · exact hmissing hnone
    · exact hbarred p hp hrank
    · exact hfull hlast
    · exact hissuer hnone
    · exact hscore e he

/-! ## Revoking -/

theorem requirePenalty_eq_ok {id : Int} {p : Penalty} :
    requirePenalty s id = .ok p ↔ s.penalty? id = some p := by
  unfold requirePenalty
  cases s.penalty? id <;> simp

theorem requirePenalty_eq_error {id : Int} {e : Refusal} :
    requirePenalty s id = .error e ↔ s.penalty? id = none ∧ e = .notFound "penalty" := by
  unfold requirePenalty
  cases s.penalty? id <;> simp [eq_comm]

theorem notDuplicate_of_requirePenalty {id : Int} {e : Refusal}
    (he : requirePenalty s id = .error e) : e.NotDuplicate := by
  obtain ⟨-, rfl⟩ := requirePenalty_eq_error.mp he
  exact Refusal.notDuplicate_notFound _

/-- What comes of revoking a penalty, whatever its status. -/
def revokePenaltyEffect (s : Store) (p : Penalty) (revokedBy : Int) (reason : String)
    (now : Instant) : Effect Penalty :=
  if s.users.contains revokedBy = false then .error (.database .foreignKey)
  else (Reputation.recalculateEffect (s.revoked p.id revokedBy now reason) p.userId now).answering
    fun _ => p.asRevoked revokedBy now reason

theorem hasEffect_revokePenalty (h : Exclusive s.penalties) {p : Penalty}
    (hp : p ∈ s.penalties.rows) (revokedBy : Int) (reason : String) (now : Instant) :
    HasEffect Store.Exclusive s (revokePenalty p revokedBy reason now)
      (revokePenaltyEffect s p revokedBy reason now) := by
  have hnew : (s.revoked p.id revokedBy now reason).Exclusive := h.revoke p.id revokedBy now reason
  unfold revokePenaltyEffect
  refine .bind (yields_markRevoked (h.ids.find?_key hp) (fun hnone => if_pos hnone) hnew ?_)
  intro hrevoker
  rw [if_neg (by rw [hrevoker]; nofun)]
  refine .bind (.discard ((Reputation.hasEffect_recalculate hnew).mono (fun _ ht => ht)
    (fun score t ht => .pure ?_) fun e he => ?_))
  · rw [ht, Effect.answering_ok]
  · rw [he, Effect.answering_error]

theorem revokePenaltyEffect_eq_ok {p q : Penalty} {revokedBy : Int} {reason : String}
    {now : Instant} {t : Store} :
    revokePenaltyEffect s p revokedBy reason now = .ok (q, t) ↔
      s.users.contains revokedBy = true ∧ q = p.asRevoked revokedBy now reason ∧ ∃ score,
        Reputation.scoreOf (s.revoked p.id revokedBy now reason) p.userId now = .ok score ∧
          t = (s.revoked p.id revokedBy now reason).setScore p.userId score := by
  unfold revokePenaltyEffect
  split
  · next hnone => simp [hnone]
  · next hsome =>
    rw [Bool.not_eq_false] at hsome
    rw [Effect.answering_eq_ok]
    simp only [Reputation.recalculateEffect_eq_ok]
    constructor
    · rintro ⟨score, ⟨hok, ht⟩, hq⟩
      exact ⟨hsome, hq, score, hok, ht⟩
    · rintro ⟨-, hq, score, hok, ht⟩
      exact ⟨score, ⟨hok, ht⟩, hq⟩

theorem revokePenaltyEffect_eq_error {p : Penalty} {revokedBy : Int} {reason : String}
    {now : Instant} {e : Refusal} :
    revokePenaltyEffect s p revokedBy reason now = .error e ↔
      s.users.contains revokedBy = false ∧ e = .database .foreignKey ∨
      s.users.contains revokedBy = true ∧
        Reputation.scoreOf (s.revoked p.id revokedBy now reason) p.userId now = .error e := by
  unfold revokePenaltyEffect
  split
  · next hnone => simp [hnone, eq_comm]
  · next hsome =>
    rw [Bool.not_eq_false] at hsome
    simp only [hsome, Bool.true_eq_false, false_and, true_and, false_or,
      Effect.answering_eq_error, Reputation.recalculateEffect_eq_error]

theorem yields_revokePenalty (h : Exclusive s.penalties) {p : Penalty} (hp : p ∈ s.penalties.rows)
    {revokedBy : Int} {reason : String} {now : Instant} :
    Yields Store.Exclusive s (revokePenalty p revokedBy reason now)
      (fun q t => q = p.asRevoked revokedBy now reason ∧ ∃ score,
        Reputation.scoreOf (s.revoked p.id revokedBy now reason) p.userId now = .ok score ∧
          t = (s.revoked p.id revokedBy now reason).setScore p.userId score)
      Refusal.NotDuplicate := by
  refine (hasEffect_revokePenalty h hp revokedBy reason now).mono (fun _ ht => ht)
    (fun q t hq => (revokePenaltyEffect_eq_ok.mp hq).2) fun e he => ?_
  obtain ⟨-, rfl⟩ | ⟨-, he⟩ := revokePenaltyEffect_eq_error.mp he
  · nofun
  · exact Reputation.notDuplicate_of_scoreOf he

/-- Why a penalty that is not active is not revoked. -/
def notRevocable (p : Penalty) : Refusal :=
  .cannotRevoke ("only active penalties can be revoked; penalty " ++ Refusal.number p.id ++
    " is " ++ Named.title p.status)

/-- What comes of revoking an active penalty. -/
def revokeEffect (s : Store) (id revokedBy : Int) (reason : String) (now : Instant) :
    Effect Penalty :=
  match s.penalty? id with
  | none => .error (.notFound "penalty")
  | some p =>
    if p.status ≠ .active then .error (notRevocable p)
    else revokePenaltyEffect s p revokedBy reason now

theorem hasEffect_revoke (h : Exclusive s.penalties) (id revokedBy : Int) (reason : String)
    (now : Instant) :
    HasEffect Store.Exclusive s (revoke id revokedBy reason now)
      (revokeEffect s id revokedBy reason now) := by
  unfold revokeEffect
  refine .bind (.current (.bind (.lift (fun p hp => ?_) fun e he => ?_)))
  · rw [requirePenalty_eq_ok] at hp
    obtain ⟨hmem, rfl⟩ := Table.mem_of_find?_eq_some hp
    rw [hp]
    dsimp only
    split
    · exact .bind (.throw rfl)
    · exact hasEffect_revokePenalty h hmem revokedBy reason now
  · obtain ⟨hnone, rfl⟩ := requirePenalty_eq_error.mp he
    rw [hnone]

theorem of_revokeEffect_eq_ok {id revokedBy : Int} {reason : String} {now : Instant} {q : Penalty}
    {t : Store} (hq : revokeEffect s id revokedBy reason now = .ok (q, t)) :
    ∃ p, s.penalty? id = some p ∧ p.status = .active ∧
      revokePenaltyEffect s p revokedBy reason now = .ok (q, t) := by
  unfold revokeEffect at hq
  split at hq
  · cases hq
  next p hp =>
  split at hq
  · cases hq
  · next hstatus => exact ⟨p, hp, not_not.mp hstatus, hq⟩

theorem yields_revoke (h : Exclusive s.penalties) {id revokedBy : Int} {reason : String}
    {now : Instant} :
    Yields Store.Exclusive s (revoke id revokedBy reason now)
      (fun q t => ∃ p ∈ s.penalties.rows, p.id = id ∧ p.status = .active ∧
        q = p.asRevoked revokedBy now reason ∧ ∃ score,
          Reputation.scoreOf (s.revoked id revokedBy now reason) p.userId now = .ok score ∧
            t = (s.revoked id revokedBy now reason).setScore p.userId score)
      Refusal.NotDuplicate := by
  refine .bind (.current (.bind (.lift (fun p hp => ?_) fun e => notDuplicate_of_requirePenalty)))
  obtain ⟨hmem, rfl⟩ := Table.mem_of_find?_eq_some (requirePenalty_eq_ok.mp hp)
  dsimp only
  split
  · exact .bind (.throw (Refusal.notDuplicate_cannotRevoke _))
  · next hstatus =>
    refine (yields_revokePenalty h hmem).imp fun q t hq => ?_
    exact ⟨p, hmem, rfl, not_not.mp hstatus, hq⟩

/-! ## Expiry -/

theorem expired_cons {id : Int} {ids : List Int} :
    (s.setStatus id .expired).expired ids = s.expired (id :: ids) := by
  unfold Store.expired Store.setStatus
  simp only [Table.update_eq_mapRows, Table.mapRows_mapRows]
  congr 1
  apply Table.mapRows_congr
  intro p _
  by_cases hid : p.id = id <;> by_cases hids : p.id ∈ ids <;>
    simp [hid, hids, Penalty.withStatus]

theorem yields_expireAll {ps : List Penalty} (h : Exclusive s.penalties)
    (hps : ∀ p ∈ ps, ∃ q ∈ s.penalties.rows, q.id = p.id) {Q : Unit → Store → Prop}
    (hQ : Q () (s.expired (ps.map Penalty.id))) :
    Yields Store.Exclusive s (expireAll ps) Q E := by
  induction ps generalizing s with
  | nil =>
    have hself : s.expired [] = s := by
      unfold Store.expired
      rw [Table.mapRows_eq_self fun p _ => by simp]
    rw [List.map_nil, hself] at hQ
    exact .pure hQ
  | cons p ps ih =>
    obtain ⟨q, hq, hid⟩ := hps p (List.mem_cons_self ..)
    have hfind : s.penalty? p.id = some q := hid ▸ h.ids.find?_key hq
    have hnext : Exclusive (s.setStatus p.id .expired).penalties := h.setStatus _ nofun
    refine .bind (.discard (yields_setPenaltyStatus hfind nofun hnext ?_))
    refine ih hnext ?_ ?_
    · intro p' hp'
      obtain ⟨q', hq', hid'⟩ := hps p' (List.mem_cons_of_mem _ hp')
      refine ⟨_, List.mem_map_of_mem hq', ?_⟩
      dsimp only
      split
      · exact hid'
      · exact hid'
    · rw [expired_cons]
      exact hQ

theorem expired_duePenalties (h : Exclusive s.penalties) {now : Instant} :
    s.expired ((s.duePenalties now).map Penalty.id) = s.swept now := by
  unfold Store.expired Store.swept
  rw [Table.mapRows_congr fun p hp => ?_]
  unfold Penalty.lapse
  have hdue : p.id ∈ (s.duePenalties now).map Penalty.id ↔
      p.status = .active ∧ p.hasElapsed now = true := by
    simp only [Store.duePenalties, List.mem_map, List.mem_filter, Bool.and_eq_true,
      decide_eq_true_eq]
    constructor
    · rintro ⟨q, ⟨hq, hstatus⟩, hid⟩
      rwa [h.ids.eq_of_key_eq hp hq hid.symm]
    · exact fun hstatus => ⟨p, ⟨hp, hstatus⟩, rfl⟩
  simp only [hdue]

theorem yields_sweep (h : Exclusive s.penalties) {now : Instant} :
    Yields Store.Exclusive s (sweep now)
      (fun n t => n = (s.duePenalties now).length ∧ t = s.swept now) E := by
  refine .bind (.current (.bind (yields_expireAll h ?_ ?_)))
  · exact fun p hp => ⟨p, (List.mem_filter.mp hp).1, rfl⟩
  · rw [expired_duePenalties h]
    exact .pure ⟨rfl, rfl⟩

/-! ## Reinstating -/

theorem reinstated_users (s : Store) (p : Penalty) : (s.reinstated p).users = s.users := by
  unfold Store.reinstated
  split
  · split <;> rfl
  · rfl

theorem yields_reinstate (h : Exclusive s.penalties) {p : Penalty} (hp : p ∈ s.penalties.rows)
    (hstatus : p.status ≠ .active) {Q : Penalty → Store → Prop}
    (hQ : ∀ q, Q q (s.reinstated p)) : Yields Store.Exclusive s (reinstate p) Q E := by
  unfold Store.reinstated at hQ
  refine .bind (.current ?_)
  rcases ho : s.activePenalty? p.userId with - | o
  · rw [ho] at hQ
    have hnone := not_active_of_activePenalty?_eq_none ho
    refine yields_setPenaltyStatus (h.ids.find?_key hp) (fun _ q hq hu hs => ?_) ?_ (hQ _)
    · exact absurd hs (hnone q hq hu)
    · exact h.reactivate hp hnone
  · rw [ho] at hQ
    obtain ⟨hmem, -, -⟩ := mem_of_activePenalty? ho
    dsimp only at hQ ⊢
    split
    · next hrank =>
      rw [if_pos hrank] at hQ
      exact yields_setPenaltyStatus (h.ids.find?_key hp) nofun (h.setStatus _ nofun) (hQ _)
    · next hrank =>
      rw [if_neg hrank] at hQ
      refine .bind (.discard (yields_setPenaltyStatus (h.ids.find?_key hmem) nofun ?_ ?_))
      · exact h.setStatus _ nofun
      · rw [setStatus_expired_eq_retire h ho]
        have hexclusive := h.retire p.userId
        refine yields_setPenaltyStatus (hexclusive.ids.find?_key (mem_retire hp hstatus))
          (fun _ q hq hu hs => ?_) ?_ (hQ _)
        · exact absurd hs (not_active_retire q hq hu)
        · exact hexclusive.reactivate (mem_retire hp hstatus) not_active_retire

end Ledger

end CivicForum
