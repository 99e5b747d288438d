import CivicForum.Proofs.Appeal.Once
import CivicForum.Proofs.Docket.Run
import CivicForum.Proofs.Ledger.Recommendation

/-! # An offence counts for its whole lookback

* `Store.severity_lt_nextKind_of_standing`: a penalty that was issued recently enough counts, whatever
  its status, unless it is revoked.
* `Session.issued_of_answer?`: what an admitted request leaves in the ledger.
* `Session.offence_counts_for_its_lookback`: after a penalty other than a permanent ban, the user is
  recommended a more severe one until the lookback is over, whatever happens in between.
-/

set_option autoImplicit false

namespace CivicForum

/-- The lookback of a kind that leads to escalation, in days. -/
theorem Penalty.Kind.lookback_eq {k : Kind} (h : k ≠ .permanentBan) :
    k.lookback = .ofDays (if k = .monthBan then 90 else 30) := by
  cases k with
  | permanentBan => exact absurd rfl h
  | _ => rfl

theorem Store.severity_lt_nextKind_of_standing {s : Store} {p : Penalty} {now : Instant}
    (hp : p ∈ s.penalties.rows) (hkind : p.kind ≠ .permanentBan) (hstanding : p.status ≠ .revoked)
    (hrecent : now.minus p.kind.lookback ≤ p.issuedAt) :
    p.kind.severity < (s.nextKind p.userId now).severity :=
  Penalty.severity_lt_nextKind (mem_penaltiesOf.mpr ⟨hp, rfl⟩)
    (Penalty.qualifies_eq_true.mpr ⟨hstanding, hkind, hrecent⟩)

namespace Session

variable {f : Session} {a : Action} {r : Penalty.Request} {p : Penalty}

theorem issueEffect_of_answer? (h : f.store.docket.Sound) (ha : a.call? = some (.issue r))
    (hans : f.answer? a = some (.penalty p)) :
    Ledger.issueEffect f.store r f.now = .ok (p, (f.step a).2.store) := by
  have hrun := run_of_answer? ha hans
  rw [Call.run_of_effect? h rfl] at hrun
  obtain ⟨q, hq, hqp⟩ := Effect.answering_eq_ok.mp (Effect.eq_ok_of_on hrun)
  obtain rfl := Answer.penalty.inj hqp
  exact hq

theorem issued_of_answer? (h : f.store.docket.Sound) (ha : a.call? = some (.issue r))
    (hans : f.answer? a = some (.penalty p)) :
    p = r.entry f.store.penalties.nextId f.now ∧ p ∈ (f.step a).2.store.penalties.rows := by
  have hissue := issueEffect_of_answer? h ha hans
  obtain ⟨-, -, -, -, rfl, score, -, hstore⟩ := Ledger.issueEffect_eq_ok.mp hissue
  refine ⟨rfl, ?_⟩
  have hrows : (f.step a).2.store.penalties = (f.store.issued r f.now).penalties := by
    rw [hstore]
    rfl
  rw [hrows, Ledger.issued_penalties]
  exact List.mem_append_right _ (List.mem_singleton_self _)

theorem answer?_nextPenalty {userId : Int} (ha : a.call? = some (.nextPenalty userId)) :
    f.answer? a = some (.kind (f.store.nextKind userId f.now)) := by
  unfold answer?
  rw [ha]
  rfl

/-- Once a penalty has been issued, it stays on record, and as long as it is not revoked and its
lookback is not over, whoever asks is recommended a more severe one for its user: 90 days after a ban
for a month, 30 days after a warning or a shorter ban, whatever happens in between. -/
theorem offence_counts_for_its_lookback (systemId : Option Int) (start : Instant) (index : Bool)
    (as : List Action) (a : Action) (r : Penalty.Request) (p : Penalty) :
    let f := (fresh systemId start index).after as
    a.call? = some (.issue r) → f.answer? a = some (.penalty p) →
    p.userId = r.userId ∧ p.kind = r.kind ∧ p.issuedAt = f.now ∧ ∀ bs,
      let g := (f.step a).2.after bs
      ∃ q, g.store.penalty? p.id = some q ∧ p.SameTerms q ∧
        (r.kind ≠ .permanentBan → q.status ≠ .revoked →
          g.now.minus (.ofDays (if r.kind = .monthBan then 90 else 30)) ≤ f.now →
          ∀ b, b.call? = some (.nextPenalty r.userId) →
            ∃ k, g.answer? b = some (.kind k) ∧ r.kind.severity < k.severity) := by
  intro f ha hans
  have h : f.store.docket.Sound := sound_run systemId start index as
  have hnext := h.move (moved_step h a).docket
  obtain ⟨rfl, hmem⟩ := issued_of_answer? h ha hans
  refine ⟨rfl, rfl, rfl, fun bs => ?_⟩
  intro g
  have hlater : g.store.docket.Sound := sound_after hnext bs
  obtain ⟨q, hq, hterms, -⟩ := sameTerms_after hnext hmem bs
  refine ⟨q, hlater.exclusive.ids.find?_eq_some.mpr ⟨hq, hterms.id⟩, hterms, ?_⟩
  intro hkind hstanding hrecent b hb
  refine ⟨_, answer?_nextPenalty hb, ?_⟩
  rw [← Penalty.Kind.lookback_eq hkind] at hrecent
  have hqkind : q.kind = r.kind := hterms.kind
  have hquser : q.userId = r.userId := hterms.userId
  have hqissued : q.issuedAt = f.now := hterms.issuedAt
  rw [← hqkind, ← hqissued] at hrecent
  rw [← hqkind, ← hquser]
  exact Store.severity_lt_nextKind_of_standing hq (hqkind ▸ hkind) hstanding hrecent

/-- A ban for a week is appealed, and while the appeal is pending its user is banned for a day. The
appeal is rejected, which puts the longer ban back, and a sweep ends it. -/
def contestedWeek : List Action :=
  [.call (.submitAppeal 1 2 "sorry"), .advance (.ofDays 6),
    .call (.issue ⟨2, .dayBan, "again", 1, [], false⟩),
    .call (.reviewAppeal 1 1 "reject" "no"), .advance (.ofDays 24),
    .request { method := "POST", target := "/v1/moderation/penalties/expire" }]

/-- Thirty days later to the nanosecond, the ban still counts. -/
theorem week_ban_counts_to_the_last_instant :
    let f := (fresh (some 1) ⟨1748779200, 0⟩ true).after
      [.write (.createUser { username := "offender" })]
    let issue : Action := .call (.issue ⟨2, .weekBan, "spam", 1, [], false⟩)
    let ask : Action := .request { method := "GET", target := "/v1/moderation/users/2/penalties/next" }
    let g := (f.step issue).2.after contestedWeek
    g.now.minus (.ofDays 30) = f.now ∧
      (g.store.penalty? 1).map Penalty.status = some .expired ∧
      ∃ k, g.answer? ask = some (.kind k) ∧ Penalty.Kind.weekBan.severity < k.severity := by
  intro f issue ask g
  have hnow : g.now.minus (.ofDays 30) = f.now := by decide +kernel
  have hstatus : (g.store.penalty? 1).map Penalty.status = some .expired := by decide +kernel
  have hans : f.answer? issue =
      some (.penalty (Penalty.Request.entry ⟨2, .weekBan, "spam", 1, [], false⟩ 1 f.now)) := by
    decide +kernel
  obtain ⟨-, -, -, hlater⟩ := offence_counts_for_its_lookback (some 1) ⟨1748779200, 0⟩ true
    [.write (.createUser { username := "offender" })] issue ⟨2, .weekBan, "spam", 1, [], false⟩ _
    rfl hans
  obtain ⟨q, hq, -, hcounts⟩ := hlater contestedWeek
  have hexpired : q.status = .expired := by
    have hq : g.store.penalty? 1 = some q := hq
    rw [hq] at hstatus
    exact Option.some.inj hstatus
  have hrecent : g.now.minus (.ofDays 30) ≤ f.now := by
    rw [hnow]
    exact Instant.le_refl _
  refine ⟨hnow, hstatus, hcounts nofun (by rw [hexpired]; nofun) hrecent ask ?_⟩
  decide +kernel

end Session

end CivicForum
