import CivicForum.Proofs.Session

/-! # What is in force after a rejection

A rejection decides between the contested penalty and the active one of the same user by their
severity. It does not ask which of the two has elapsed.

* `Store.standing`: the penalty that is active afterwards.
* `Store.owed`: the penalty that should be in force, the more severe of those that have not elapsed.
* `Store.misranks`: the severer of the two has elapsed, the other one has not.
* `Session.rejection_keeps_ban_iff`: the user is left with what is owed exactly when nothing was
  misranked; otherwise with nothing.
-/

set_option autoImplicit false

namespace CivicForum

/-! ## What is owed, and what stands -/

namespace Penalty

/-- The more severe of two penalties; of two that are equally severe, the second one. -/
def moreSevere? : Option Penalty → Option Penalty → Option Penalty
  | some p, some o => if p.kind.severity ≤ o.kind.severity then some o else some p
  | some p, none => some p
  | none, o => o

/-- The penalty as it is in force, unless its end has come. -/
def running? (p : Penalty) (now : Instant) : Option Penalty :=
  if p.hasElapsed now then none else some (p.withStatus .active)

end Penalty

namespace Store

/-- The penalty that should be in force once an appeal against `p` has been rejected. -/
def owed (s : Store) (p : Penalty) (now : Instant) : Option Penalty :=
  Penalty.moreSevere? (p.running? now) (s.penaltyInForce? p.userId now)

/-- The penalty that a rejection leaves active. -/
def standing (s : Store) (p : Penalty) : Penalty :=
  match s.activePenalty? p.userId with
  | some o => if p.kind.severity ≤ o.kind.severity then o else p.withStatus .active
  | none => p.withStatus .active

/-- Of the contested penalty and the active one of its user, one has elapsed and the other has not,
and it is the elapsed one that the severity speaks for. -/
def misranks (s : Store) (p : Penalty) (now : Instant) : Bool :=
  match s.activePenalty? p.userId with
  | some o =>
    if p.kind.severity ≤ o.kind.severity then o.hasElapsed now && !p.hasElapsed now
    else p.hasElapsed now && !o.hasElapsed now
  | none => false

end Store

namespace Appeals

variable {s : Store} {a : Appeal} {p : Penalty} {now : Instant}

theorem active_standing (s : Store) (p : Penalty) :
    (s.standing p).userId = p.userId ∧ (s.standing p).status = .active := by
  unfold Store.standing
  split
  · next o ho =>
    split
    · exact (Ledger.mem_of_activePenalty? ho).2
    · exact ⟨rfl, rfl⟩
  · exact ⟨rfl, rfl⟩

theorem standing_mem_reinstated (h : s.docket.Sound) (hap : s.docket.Contests a p) :
    s.standing p ∈ (s.reinstated p).penalties.rows := by
  have hstatus : p.status ≠ .active := by
    rw [hap.status h]
    nofun
  unfold Store.standing Store.reinstated
  rcases ho : s.activePenalty? p.userId with - | o
  · exact Table.mem_update hap.penalty _
  · obtain ⟨hmem, -, hactive⟩ := Ledger.mem_of_activePenalty? ho
    dsimp only
    split
    · refine Table.mem_update_of_ne hmem (fun hid => ?_) _
      obtain rfl := h.exclusive.ids.eq_of_key_eq hmem hap.penalty hid
      exact hstatus hactive
    · exact Table.mem_update (Ledger.mem_retire hap.penalty hstatus) _

/-- After a rejection, the user's active penalty is the one that ranks higher. -/
theorem activePenalty?_reinstated (h : s.docket.Sound) (hap : s.docket.Contests a p) :
    (s.reinstated p).activePenalty? p.userId = some (s.standing p) := by
  have hexclusive : Ledger.Exclusive (s.reinstated p).penalties :=
    (h.move (@move_reinstated s default a p 0 "" h hap)).exclusive
  exact (Ledger.activePenalty?_eq_some hexclusive).mpr
    ⟨standing_mem_reinstated h hap, active_standing s p⟩

/-! ## Time -/

theorem penaltyInForce?_of_activePenalty? {o : Penalty} {userId : Int}
    (ho : s.activePenalty? userId = some o) :
    s.penaltyInForce? userId now = if o.hasElapsed now then none else some o := by
  obtain ⟨-, -, hactive⟩ := Ledger.mem_of_activePenalty? ho
  unfold Store.penaltyInForce?
  rw [ho]
  cases helapsed : o.hasElapsed now <;>
    simp [Option.filter, Penalty.isInForce, hactive, helapsed]

theorem penaltyInForce?_reinstated (h : s.docket.Sound) (hap : s.docket.Contests a p) :
    (s.reinstated p).penaltyInForce? p.userId now =
      if (s.standing p).hasElapsed now then none else some (s.standing p) :=
  penaltyInForce?_of_activePenalty? (activePenalty?_reinstated h hap)

/-- What stands is what is owed exactly when nothing was misranked. -/
theorem standing_eq_owed_iff (s : Store) (p : Penalty) (now : Instant) :
    (if (s.standing p).hasElapsed now then none else some (s.standing p)) = s.owed p now ↔
      s.misranks p now = false := by
  unfold Store.standing Store.owed Store.misranks Penalty.running?
  rcases ho : s.activePenalty? p.userId with - | o
  · have hnone : s.penaltyInForce? p.userId now = none := by
      unfold Store.penaltyInForce?
      rw [ho]
      rfl
    rw [hnone]
    cases hp : p.hasElapsed now <;> simp [Penalty.moreSevere?, hp]
  · rw [penaltyInForce?_of_activePenalty? ho]
    by_cases hrank : p.kind.severity ≤ o.kind.severity <;>
      cases hp : p.hasElapsed now <;> cases helapsed : o.hasElapsed now <;>
        simp [Penalty.moreSevere?, hrank, hp, helapsed]

/-- Where something was misranked, what stands has elapsed, and something is owed. -/
theorem standing_of_misranks (h : s.misranks p now = true) :
    (s.standing p).hasElapsed now = true ∧ (s.owed p now).isSome := by
  unfold Store.standing Store.owed Penalty.running?
  unfold Store.misranks at h
  rcases ho : s.activePenalty? p.userId with - | o
  · rw [ho] at h
    cases h
  · rw [ho] at h
    rw [penaltyInForce?_of_activePenalty? ho]
    dsimp only at h ⊢
    split at h
    · next hrank =>
      obtain ⟨ho, hp⟩ : o.hasElapsed now = true ∧ p.hasElapsed now = false := by simpa using h
      rw [if_pos hrank, ho, hp]
      exact ⟨rfl, rfl⟩
    · next hrank =>
      obtain ⟨hp, ho⟩ : p.hasElapsed now = true ∧ o.hasElapsed now = false := by simpa using h
      rw [if_neg hrank, Penalty.hasElapsed_withStatus, hp, ho]
      exact ⟨rfl, rfl⟩

/-- What is owed is at least as severe as what was in force. -/
theorem owed_of_penaltyInForce? {o : Penalty} (ho : s.penaltyInForce? p.userId now = some o) :
    ∃ q, s.owed p now = some q ∧ o.kind.severity ≤ q.kind.severity := by
  unfold Store.owed Penalty.running?
  rw [ho]
  split
  · exact ⟨o, rfl, Nat.le_refl _⟩
  · dsimp only [Penalty.moreSevere?]
    split
    · exact ⟨o, rfl, Nat.le_refl _⟩
    · next hrank => exact ⟨p.withStatus .active, rfl, Nat.le_of_not_le hrank⟩

/-- What a rejection leaves in force. -/
theorem penaltyInForce?_of_reject (h : s.docket.Sound) {id reviewerId : Int} {notes : String}
    {b : Appeal} {t : Store}
    (hreview : (review id reviewerId .reject notes now).commit s = (.ok b, t)) :
    ∃ a p, s.pendingAppeal? id = some a ∧ s.penalty? a.penaltyId = some p ∧
      t.penaltyInForce? p.userId now =
        if (s.standing p).hasElapsed now then none else some (s.standing p) := by
  obtain ⟨a, p, ha, hap, status, u, ⟨-, rfl⟩, -, rfl⟩ := (yields_review h).of_commit_ok hreview
  refine ⟨a, p, ha, ?_, penaltyInForce?_reinstated h hap⟩
  rw [hap.id]
  exact h.exclusive.ids.find?_key hap.penalty

/-- A ban in force is followed by a ban, where what is owed comes into force. -/
theorem isSome_ban?_of_owed {t : Store}
    (howed : t.penaltyInForce? p.userId now = s.owed p now)
    (hban : (s.ban? p.userId now).isSome) : (t.ban? p.userId now).isSome := by
  obtain ⟨o, hban⟩ := Option.isSome_iff_exists.mp hban
  obtain ⟨ho, hkind⟩ := Option.filter_eq_some_iff.mp hban
  obtain ⟨q, hq, hrank⟩ := owed_of_penaltyInForce? ho
  have hqban : q.kind.isBan = true := by
    rw [Penalty.Kind.isBan_eq_true, ← Penalty.Kind.severity_pos_iff] at hkind ⊢
    exact Nat.lt_of_lt_of_le hkind hrank
  have hfound : t.ban? p.userId now = some q :=
    Option.filter_eq_some_iff.mpr ⟨howed.trans hq, hqban⟩
  rw [hfound]
  rfl

end Appeals

namespace Session

/-- A rejection that succeeds leaves the user with the penalty that is owed exactly when it
misranked nothing. If it misranked, it leaves nothing in force although something is owed; if not, a
user who was banned stays banned. -/
theorem rejection_keeps_ban_iff (systemId : Option Int) (start : Instant) (index : Bool)
    (as : List Action) :
    let f := (fresh systemId start index).after as
    ∀ id reviewerId notes b t,
      (Appeals.review id reviewerId .reject notes f.now).commit f.store = (.ok b, t) →
      ∃ a p, f.store.pendingAppeal? id = some a ∧ f.store.penalty? a.penaltyId = some p ∧
        (t.penaltyInForce? p.userId f.now = f.store.owed p f.now ↔
          f.store.misranks p f.now = false) ∧
        (f.store.misranks p f.now = true →
          t.penaltyInForce? p.userId f.now = none ∧ (f.store.owed p f.now).isSome) ∧
        (f.store.misranks p f.now = false →
          (f.store.ban? p.userId f.now).isSome → (t.ban? p.userId f.now).isSome) := by
  intro f id reviewerId notes b t hreview
  have h : f.store.docket.Sound := sound_run systemId start index as
  obtain ⟨a, p, ha, hp, hforce⟩ := Appeals.penaltyInForce?_of_reject h hreview
  have hiff : t.penaltyInForce? p.userId f.now = f.store.owed p f.now ↔
      f.store.misranks p f.now = false := by
    rw [hforce]
    exact Appeals.standing_eq_owed_iff f.store p f.now
  refine ⟨a, p, ha, hp, hiff, fun hmisranks => ?_, fun hranks => ?_⟩
  · obtain ⟨helapsed, howed⟩ := Appeals.standing_of_misranks hmisranks
    rw [hforce, if_pos helapsed]
    exact ⟨rfl, howed⟩
  · exact Appeals.isSome_ban?_of_owed (hiff.mpr hranks)

/-- A ban for a week is appealed, and after some time its user is banned for a day as well. -/
def secondBan (wait : Span) : List Action :=
  [.write (.createUser { username := "offender" }),
    .call (.issue ⟨2, .weekBan, "spam", 1, [], false⟩), .call (.submitAppeal 1 2 "sorry"),
    .advance wait, .call (.issue ⟨2, .dayBan, "again", 1, [], false⟩)]

/-- Half a day before the end of the week, the rejection leaves the user banned. -/
theorem ban_kept_within_week :
    let f := (fresh (some 1) ⟨1748779200, 0⟩ true).after (secondBan (.ofSeconds 561600))
    ∃ b t, (Appeals.review 1 1 .reject "no" f.now).commit f.store = (.ok b, t) ∧
      (t.ban? 2 f.now).isSome := by
  intro f
  have hok : ((Appeals.review 1 1 .reject "no" f.now).commit f.store).1.toOption.isSome := by
    decide +kernel
  have hrow : ((f.store.pendingAppeal? 1).bind fun a => f.store.penalty? a.penaltyId).all fun p =>
      p.userId = 2 ∧ f.store.misranks p f.now = false := by decide +kernel
  have hban : (f.store.ban? 2 f.now).isSome := by decide +kernel
  rcases hreview : (Appeals.review 1 1 .reject "no" f.now).commit f.store with ⟨e | b, t⟩
  · rw [hreview] at hok
    cases hok
  · obtain ⟨a, p, ha, hp, -, -, hkept⟩ := rejection_keeps_ban_iff (some 1) ⟨1748779200, 0⟩ true
      (secondBan (.ofSeconds 561600)) 1 1 "no" b t hreview
    rw [ha, Option.bind_some, hp, Option.all_some, decide_eq_true_eq] at hrow
    obtain ⟨huser, hranks⟩ := hrow
    rw [huser] at hkept
    exact ⟨b, t, rfl, hkept hranks hban⟩

/-- Once the week is over, the rejection frees a user who is banned for some more hours. -/
theorem ban_lost_after_week :
    let f := fresh (some 1) ⟨1748779200, 0⟩ true
    let as := secondBan (.ofSeconds 561600) ++ [.advance (.ofSeconds 43201)]
    let g := ((f.after as).step (.call (.reviewAppeal 1 1 "reject" "no"))).2
    f.forward as ∧ ((f.after as).store.ban? 2 g.now).isSome ∧
      g.store.appeals.rows.map Appeal.status = [.rejected] ∧
      g.store.penaltyInForce? 2 g.now = none := by
  decide +kernel

end Session

end CivicForum
