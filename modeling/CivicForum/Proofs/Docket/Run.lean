import CivicForum.Proofs.Session

/-! # Penalties and appeals over whole runs

* `Session.penalties_follow_their_course`: rows keep their terms, move along the life cycle, and
  rest once they are expired or revoked.
* `Session.appeals_agree_with_penalties`: what both tables say about each other, whatever has happened.
-/

set_option autoImplicit false

namespace CivicForum

namespace Session

variable {f : Session} {p : Penalty}

/-! ## The life cycle of a penalty -/

theorem follows_step (h : f.store.docket.Sound) (hp : p ∈ f.store.penalties.rows) (a : Action) :
    ∃ q ∈ (f.step a).2.store.penalties.rows, p.Follows q :=
  (moved_step h a).docket.follows h p hp

/-- A penalty is never lost, and rests once it is expired or revoked. -/
theorem sameTerms_after (h : f.store.docket.Sound) (hp : p ∈ f.store.penalties.rows)
    (as : List Action) :
    ∃ q ∈ (f.after as).store.penalties.rows, p.SameTerms q ∧
      (p.status = .expired ∨ p.status = .revoked → q = p) := by
  induction as generalizing f p with
  | nil => exact ⟨p, hp, .refl p, fun _ => rfl⟩
  | cons a as ih =>
    obtain ⟨q, hq, hfollows⟩ := follows_step h hp a
    obtain ⟨r, hr, hterms, hrest⟩ := ih (h.move (moved_step h a).docket) hq
    refine ⟨r, hr, hfollows.sameTerms.trans hterms, fun hfinal => ?_⟩
    obtain rfl := hfollows.eq_of_final hfinal
    exact hrest hfinal

/-- Whatever happens, every penalty ends when its kind says and is marked as revoked exactly when it
is; the next action keeps its terms and moves its status along the life cycle if at all; and it is
never lost, nor changed again once it is expired or revoked. -/
theorem penalties_follow_their_course (systemId : Option Int) (now : Instant) (index : Bool)
    (as : List Action) (p : Penalty)
    (hp : p ∈ ((fresh systemId now index).after as).store.penalties.rows) :
    let f := (fresh systemId now index).after as
    p.Sound ∧
      (∀ a, ∃ q, (f.step a).2.store.penalty? p.id = some q ∧ p.Follows q) ∧
      ∀ bs, ∃ q, (f.after bs).store.penalty? p.id = some q ∧ p.SameTerms q ∧
        (p.status = .expired ∨ p.status = .revoked → q = p) := by
  intro f
  have h : f.store.docket.Sound := sound_run systemId now index as
  refine ⟨h.penalty p hp, fun a => ?_, fun bs => ?_⟩
  · have hnext := h.move (moved_step h a).docket
    obtain ⟨q, hq, hfollows⟩ := follows_step h hp a
    exact ⟨q, hnext.exclusive.ids.find?_eq_some.mpr ⟨hq, hfollows.sameTerms.id⟩, hfollows⟩
  · have hlater := sound_after h bs
    obtain ⟨q, hq, hterms, hrest⟩ := sameTerms_after h hp bs
    exact ⟨q, hlater.exclusive.ids.find?_eq_some.mpr ⟨hq, hterms.id⟩, hterms, hrest⟩

/-- A ban for a day that has run out and was swept. -/
def lapsedBan : List Action :=
  [.write (.createUser { username := "offender" }),
    .call (.issue ⟨2, .dayBan, "spam", 1, [], false⟩), .advance (.ofHours 24), .call .sweep]

def lapsedPenalty : Penalty where
  id := 1
  userId := 2
  kind := .dayBan
  status := .expired
  reason := "spam"
  issuedBy := 1
  issuedAt := ⟨0, 0⟩
  expiresAt := some ⟨86400, 0⟩
  relatedFlagIds := []
  revokedBy := none
  revokedAt := none
  revokeReason := none

/-- Nothing that happens afterwards changes the ban. -/
theorem lapsed_penalty_rests :
    let f := (fresh (some 1) ⟨0, 0⟩ true).after lapsedBan
    lapsedPenalty ∈ f.store.penalties.rows ∧
      ∀ bs, (f.after bs).store.penalty? 1 = some lapsedPenalty := by
  intro f
  have hmem : lapsedPenalty ∈ f.store.penalties.rows := by decide +kernel
  refine ⟨hmem, fun bs => ?_⟩
  obtain ⟨-, -, hrun⟩ :=
    penalties_follow_their_course (some 1) ⟨0, 0⟩ true lapsedBan lapsedPenalty hmem
  obtain ⟨q, hq, -, hrest⟩ := hrun bs
  rw [hrest (.inl rfl)] at hq
  exact hq

/-! ## Appeals and penalties -/

end Session

namespace Docket

variable {d : Docket}

/-- A penalty is suspended exactly as long as an appeal against it is pending. -/
theorem Sound.appealed_iff (h : d.Sound) {p : Penalty} (hp : p ∈ d.penalties.rows) :
    p.status = .appealed ↔ ∃ a ∈ d.appeals.rows, a.penaltyId = p.id ∧ a.status = .pending := by
  refine ⟨h.suspended p hp, ?_⟩
  rintro ⟨a, ha, hid, hpending⟩
  exact (h.against ha hp hid).pending hpending

theorem Sound.nodup_penaltyIds (h : d.Sound) : (d.appeals.rows.map Appeal.penaltyId).Nodup :=
  h.appealIds.nodup.map_on h.single

end Docket

namespace Session

/-- Whatever happens, a penalty is suspended exactly as long as an appeal against it is pending, the
list of pending appeals names every suspended penalty once, no penalty is appealed twice, and every
appeal agrees with its penalty. -/
theorem appeals_agree_with_penalties (systemId : Option Int) (now : Instant) (index : Bool)
    (as : List Action) :
    let f := (fresh systemId now index).after as
    (∀ p ∈ f.store.penalties.rows, p.status = .appealed ↔
      ∃ a ∈ f.store.appeals.rows, a.penaltyId = p.id ∧ a.status = .pending) ∧
    (∃ pending, (Call.pendingAppeals.run f.systemId f.now f.store).1 = .ok (.appeals pending) ∧
      (pending.map Appeal.penaltyId).Nodup ∧
      ∀ id, id ∈ pending.map Appeal.penaltyId ↔
        ∃ p, f.store.penalty? id = some p ∧ p.status = .appealed) ∧
    (f.store.appeals.rows.map Appeal.penaltyId).Nodup ∧
    ∀ a ∈ f.store.appeals.rows, a.Sound ∧
      ∃ p, f.store.penalty? a.penaltyId = some p ∧ a.Against p := by
  intro f
  have h : f.store.docket.Sound := sound_run systemId now index as
  have hlook : ∀ {id : Int} {p : Penalty}, f.store.penalty? id = some p ↔
      p ∈ f.store.penalties.rows ∧ p.id = id := h.exclusive.ids.find?_eq_some
  refine ⟨fun p hp => h.appealed_iff hp, ⟨f.store.pendingAppeals, rfl, ?_, fun id => ?_⟩,
    h.nodup_penaltyIds, fun a ha => ?_⟩
  · exact h.nodup_penaltyIds.sublist (List.filter_sublist.map _)
  · simp only [Store.pendingAppeals, List.mem_map, List.mem_filter, decide_eq_true_eq]
    constructor
    · rintro ⟨a, ⟨ha, hpending⟩, rfl⟩
      obtain ⟨-, p, hp, hap⟩ := h.appeal a ha
      exact ⟨p, hlook.mpr ⟨hp, hap.penalty.symm⟩, hap.pending hpending⟩
    · rintro ⟨p, hp, hstatus⟩
      obtain ⟨hmem, rfl⟩ := hlook.mp hp
      obtain ⟨a, ha, hid, hpending⟩ := h.suspended p hmem hstatus
      exact ⟨a, ⟨ha, hpending⟩, hid⟩
  · obtain ⟨hs, p, hp, hap⟩ := h.appeal a ha
    exact ⟨hs, p, hlook.mpr ⟨hp, hap.penalty.symm⟩, hap⟩

end Session

end CivicForum
