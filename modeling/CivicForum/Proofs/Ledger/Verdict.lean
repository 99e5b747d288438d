import CivicForum.Proofs.Ledger.Admission
import CivicForum.Proofs.Outcome
import CivicForum.Proofs.Session

/-! # Verdicts on requests for penalties

* `Penalty.Bars`: a penalty in force stands in the way of a request.
* `Ledger.Verdict`: the answers to a request, each with what it takes.
* `Ledger.Verdict.answer_eq`, `Ledger.exists_verdict`: a request gets the one answer that there is a
  verdict for.
* `Store.Granted`: the penalties, the appeals and the ban of the user once a request is granted.
* `Session.verdict_on_every_request`: so it is for every request in every forum.
-/

set_option autoImplicit false

namespace CivicForum

open Work

/-- The penalty is in force for the user of the request, and at least as severe as what is asked
for. -/
structure Penalty.Bars (p : Penalty) (r : Penalty.Request) (now : Instant) : Prop where
  user : p.userId = r.userId
  active : p.status = .active
  running : p.hasElapsed now = false
  severe : r.kind.severity ≤ p.kind.severity

/-- The user of the request exists, nothing bars the request, and an identifier is left. -/
structure Store.Open (s : Store) (r : Penalty.Request) (now : Instant) (m : Member) : Prop where
  member : s.user? r.userId = some m
  unbarred : ∀ p ∈ s.penalties.rows, ¬ p.Bars r now
  room : s.penalties.nextId ≤ Text.wordMax

namespace Ledger

/-- The answers to a request for a penalty. -/
inductive Verdict (s : Store) (r : Penalty.Request) (now : Instant) :
    Except Refusal Penalty → Prop where
  | noUser (hm : s.user? r.userId = none) : Verdict s r now (.error (.notFound "user"))
  | barred (m : Member) (p : Penalty) (hm : s.user? r.userId = some m)
      (hp : p ∈ s.penalties.rows) (hbars : p.Bars r now) :
      Verdict s r now (.error (.alreadyPenalized p.kind))
  | full (m : Member) (hm : s.user? r.userId = some m)
      (hfree : ∀ p ∈ s.penalties.rows, ¬ p.Bars r now)
      (hfull : Text.wordMax < s.penalties.nextId) : Verdict s r now (.error (.database .full))
  | noIssuer (m : Member) (hopen : s.Open r now m) (hissuer : s.user? r.issuedBy = none) :
      Verdict s r now (.error (.database .foreignKey))
  | unread (m issuer : Member) (hopen : s.Open r now m) (hissuer : s.user? r.issuedBy = some issuer)
      (hraw : m.registeredAt? = none) :
      Verdict s r now (.error (.invalidTimestamp r.userId m.createdAt))
  | granted (m issuer : Member) (registered : Instant) (hopen : s.Open r now m)
      (hissuer : s.user? r.issuedBy = some issuer) (hread : m.registeredAt? = some registered) :
      Verdict s r now (.ok (r.entry s.penalties.nextId now))

variable {s t : Store} {r : Penalty.Request} {now : Instant} {x : Except Refusal Penalty}
  {m : Member}

/-! ## What bars a request -/

theorem filter_penaltyInForce?_eq_some (h : s.Exclusive) {p : Penalty} :
    (s.penaltyInForce? r.userId now).filter (fun p => r.kind.severity ≤ p.kind.severity) = some p ↔
      p ∈ s.penalties.rows ∧ p.Bars r now := by
  rw [Option.filter_eq_some_iff, penaltyInForce?_eq_some, activePenalty?_eq_some h,
    decide_eq_true_eq]
  constructor
  · rintro ⟨⟨⟨hp, huser, hactive⟩, hrunning⟩, hsevere⟩
    exact ⟨hp, huser, hactive, hrunning, hsevere⟩
  · rintro ⟨hp, huser, hactive, hrunning, hsevere⟩
    exact ⟨⟨⟨hp, huser, hactive⟩, hrunning⟩, hsevere⟩

theorem filter_penaltyInForce?_of_unbarred (h : s.Exclusive)
    (hfree : ∀ p ∈ s.penalties.rows, ¬ p.Bars r now) :
    (s.penaltyInForce? r.userId now).filter (fun p => r.kind.severity ≤ p.kind.severity) = none := by
  refine Option.eq_none_iff_forall_ne_some.mpr fun p hp => ?_
  obtain ⟨hmem, hbars⟩ := (filter_penaltyInForce?_eq_some h).mp hp
  exact hfree p hmem hbars

/-! ## One verdict for each request -/

theorem issueEffect_of_open (h : s.Exclusive) (hopen : s.Open r now m) :
    issueEffect s r now = if s.users.contains r.issuedBy = false then .error (.database .foreignKey)
      else (Reputation.recalculateEffect (s.issued r now) r.userId now).answering
        fun _ => r.entry s.penalties.nextId now := by
  have huser : s.users.contains r.userId = true := Table.contains_of_find?_eq_some hopen.member
  unfold issueEffect
  rw [huser, filter_penaltyInForce?_of_unbarred h hopen.unbarred]
  exact (if_neg nofun).trans (if_neg (Int.not_lt.mpr hopen.room))

theorem Verdict.answer_eq (h : s.Exclusive) (hx : Verdict s r now x) :
    ((issueEffect s r now).on s).1 = x := by
  cases hx with
  | noUser hm =>
    have huser : s.users.contains r.userId = false := Table.contains_of_find?_eq_none hm
    rw [issueEffect, if_pos huser]
    rfl
  | barred m p hm hp hbars =>
    have huser : s.users.contains r.userId = true := Table.contains_of_find?_eq_some hm
    rw [issueEffect, huser, (filter_penaltyInForce?_eq_some h).mpr ⟨hp, hbars⟩]
    rfl
  | full m hm hfree hfull =>
    have huser : s.users.contains r.userId = true := Table.contains_of_find?_eq_some hm
    rw [issueEffect, huser, filter_penaltyInForce?_of_unbarred h hfree]
    dsimp only
    rw [if_neg nofun, if_pos hfull]
    rfl
  | noIssuer m hopen hissuer =>
    have hnone : s.users.contains r.issuedBy = false := Table.contains_of_find?_eq_none hissuer
    rw [issueEffect_of_open h hopen, if_pos hnone]
    rfl
  | unread m issuer hopen hissuer hraw =>
    have hthere : s.users.contains r.issuedBy = true := Table.contains_of_find?_eq_some hissuer
    have hscore : Reputation.scoreOf (s.issued r now) r.userId now =
        .error (.invalidTimestamp r.userId m.createdAt) := by
      refine Reputation.scoreOf_of_unreadable ?_ hraw
      unfold Store.user?
      rw [Store.issued_users]
      exact hopen.member
    rw [issueEffect_of_open h hopen, if_neg (by rw [hthere]; nofun),
      Reputation.recalculateEffect_eq_error.mpr hscore]
    rfl
  | granted m issuer registered hopen hissuer hread =>
    have hthere : s.users.contains r.issuedBy = true := Table.contains_of_find?_eq_some hissuer
    have hscore : Reputation.scoreOf (s.issued r now) r.userId now =
        .ok (m.scoreAt registered now true) := scoreOf_issued h hopen.member hread
    rw [issueEffect_of_open h hopen, if_neg (by rw [hthere]; nofun),
      Reputation.recalculateEffect_eq_ok.mpr ⟨hscore, rfl⟩]
    rfl

theorem exists_verdict (s : Store) (r : Penalty.Request) (now : Instant) :
    ∃ x, Verdict s r now x := by
  rcases hm : s.user? r.userId with - | m
  · exact ⟨_, .noUser hm⟩
  by_cases hbars : ∃ p ∈ s.penalties.rows, p.Bars r now
  · obtain ⟨p, hp, hbars⟩ := hbars
    exact ⟨_, .barred m p hm hp hbars⟩
  have hfree : ∀ p ∈ s.penalties.rows, ¬ p.Bars r now := fun p hp hb => hbars ⟨p, hp, hb⟩
  rcases Int.lt_or_le Text.wordMax s.penalties.nextId with hfull | hroom
  · exact ⟨_, .full m hm hfree hfull⟩
  have hopen : s.Open r now m := ⟨hm, hfree, hroom⟩
  rcases hissuer : s.user? r.issuedBy with - | issuer
  · exact ⟨_, .noIssuer m hopen hissuer⟩
  rcases hread : m.registeredAt? with - | registered
  · exact ⟨_, .unread m issuer hopen hissuer hread⟩
  · exact ⟨_, .granted m issuer registered hopen hissuer hread⟩

end Ledger

/-! ## What a granted request leaves -/

/-- The user's active penalty has expired, the new one is the last row, and no other penalty and no
appeal has changed. -/
structure Store.Granted (s : Store) (r : Penalty.Request) (now : Instant) (t : Store) : Prop where
  rows : t.penalties.rows = (s.penalties.rows.map fun p =>
    if p.userId = r.userId ∧ p.status = .active then { p with status := .expired } else p) ++
      [r.entry s.penalties.nextId now]
  lastId : t.penalties.lastId = s.penalties.nextId
  appeals : t.appeals = s.appeals

namespace Ledger

variable {s t : Store} {r : Penalty.Request} {now : Instant} {p : Penalty}

theorem ban?_of_penaltyInForce? {userId : Int} (hp : s.penaltyInForce? userId now = some p) :
    s.ban? userId now = if p.kind = .warning then none else some p := by
  unfold Store.ban?
  rw [hp, Option.filter_some]
  cases p.kind <;> rfl

theorem granted_of_issueEffect (h : s.Exclusive) (hp : issueEffect s r now = .ok (p, t)) :
    s.Granted r now t ∧
      t.ban? r.userId now = if r.kind = .warning then none else some p := by
  obtain ⟨-, -, -, -, rfl, score, -, rfl⟩ := issueEffect_eq_ok.mp hp
  obtain ⟨hdocket, -⟩ := Prod.mk.inj (issued_core s r now score)
  refine ⟨⟨?_, ?_, congrArg Docket.appeals hdocket⟩, ?_⟩
  · exact congrArg (fun d => d.penalties.rows) hdocket
  · refine (congrArg (fun d => d.penalties.lastId) hdocket).trans ?_
    exact Int.max_eq_right (Int.le_add_one (Int.le_refl _))
  · exact ban?_of_penaltyInForce? (penaltyInForce?_issued h r now)

end Ledger

/-! ## Whole runs -/

namespace Session

theorem map_penalty_injective {x y : Except Refusal Penalty}
    (h : x.map Answer.penalty = y.map .penalty) : x = y := by
  rcases x with e | p <;> rcases y with e' | q <;> cases h <;> rfl

/-- Whatever has happened, a request for a penalty gets the one answer that there is a verdict for,
and a refusal leaves the store as it was. A request that is granted makes the user's active penalty
expire, whether it had elapsed or is superseded, adds one row, and leaves every other penalty and all
appeals alone; the user is then banned by the new penalty unless that is a warning. No action takes
more than one identifier, so that they are never used up in practice. -/
theorem verdict_on_every_request (systemId : Option Int) (start : Instant) (index : Bool)
    (as : List Action) (r : Penalty.Request) (now : Instant) :
    let f := (fresh systemId start index).after as
    let o := (Call.issue r).run f.systemId now f.store
    (∃ x, Ledger.Verdict f.store r now x) ∧
    (∀ x : Except Refusal Penalty, o.1 = x.map .penalty ↔ Ledger.Verdict f.store r now x) ∧
    (∀ e, o.1 = .error e → o.2 = f.store) ∧
    (∀ p, o.1 = .ok (.penalty p) → f.store.Granted r now o.2 ∧
      ((Call.ban r.userId).run f.systemId now o.2).1 =
        .ok (.maybePenalty (if r.kind = .warning then none else some p))) ∧
    f.store.penalties.lastId ≤ as.length := by
  intro f o
  have h : f.store.docket.Sound := sound_run systemId start index as
  have ho : o = ((Ledger.issueEffect f.store r now).answering .penalty).on f.store :=
    Call.run_of_effect? h rfl f.systemId
  have hanswer : o.1 = ((Ledger.issueEffect f.store r now).on f.store).1.map .penalty := by
    rw [ho, Effect.on_answering]
  have hverdict := Ledger.exists_verdict f.store r now
  refine ⟨hverdict, fun x => ⟨fun hx => ?_, fun hx => ?_⟩, fun e he => ?_, fun p hp => ?_, ?_⟩
  · obtain ⟨y, hy⟩ := hverdict
    rw [hanswer, hy.answer_eq h.exclusive] at hx
    rwa [← map_penalty_injective hx]
  · rw [hanswer, hx.answer_eq h.exclusive]
  · exact Work.store_of_commit_error (Prod.ext he rfl)
  · have hok := Effect.eq_ok_of_on (ho.symm.trans (Prod.ext hp rfl))
    obtain ⟨q, hq, hqp⟩ := Effect.answering_eq_ok.mp hok
    obtain rfl := Answer.penalty.inj hqp
    obtain ⟨hgranted, hban⟩ := Ledger.granted_of_issueEffect h.exclusive hq
    refine ⟨hgranted, ?_⟩
    rw [← hban]
    rfl
  · exact lastId_run_le systemId start index as

/-- A ban for a week that has run out and was not swept. -/
def servedBan : List Action :=
  [.write (.createUser { username := "offender" }),
    .call (.issue ⟨2, .weekBan, "spam", 1, [], false⟩), .advance (.ofHours 168)]

/-- It bars no ban for a day, which takes its place; somebody who is not there cannot issue one. -/
theorem day_ban_after_served_ban :
    let f := (fresh (some 1) ⟨1748779200, 0⟩ true).after servedBan
    let r : Penalty.Request := ⟨2, .dayBan, "again", 1, [], false⟩
    let o := (Call.issue r).run f.systemId f.now f.store
    (o.1 = .ok (.penalty (r.entry 2 f.now)) ∧
      o.2.penalties.rows.map Penalty.status = [.expired, .active]) ∧
    ((Call.issue { r with issuedBy := 9 }).run f.systemId f.now f.store).1 =
      .error (.database .foreignKey) := by
  intro f r o
  have hserved : ∀ p ∈ f.store.penalties.rows, p.hasElapsed f.now = true := by decide +kernel
  have hfree : ∀ r, ∀ p ∈ f.store.penalties.rows, ¬ p.Bars r f.now := by
    intro r p hp hbars
    have hrunning := hbars.running
    rw [hserved p hp] at hrunning
    cases hrunning
  have hrow : ((f.store.user? 2).bind Member.registeredAt?).isSome := by decide +kernel
  obtain ⟨registered, hrow⟩ := Option.isSome_iff_exists.mp hrow
  obtain ⟨m, hm, hread⟩ := Option.bind_eq_some_iff.mp hrow
  have hissuer : (f.store.user? 1).isSome := by decide +kernel
  obtain ⟨issuer, hissuer⟩ := Option.isSome_iff_exists.mp hissuer
  have hnext : f.store.penalties.nextId = 2 := by decide +kernel
  have hroom : f.store.penalties.nextId ≤ Text.wordMax := by
    rw [hnext]
    decide
  obtain ⟨-, hanswer, -, hgranted, -⟩ :=
    verdict_on_every_request (some 1) ⟨1748779200, 0⟩ true servedBan r f.now
  obtain ⟨-, hmissing, -⟩ := verdict_on_every_request (some 1) ⟨1748779200, 0⟩ true servedBan
    { r with issuedBy := 9 } f.now
  have ho : o.1 = .ok (.penalty (r.entry 2 f.now)) := by
    rw [← hnext]
    exact (hanswer (.ok _)).mpr
      (.granted m issuer registered ⟨hm, hfree r, hroom⟩ hissuer hread)
  refine ⟨⟨ho, ?_⟩, ?_⟩
  · rw [(hgranted _ ho).1.rows]
    decide +kernel
  · exact (hmissing (.error _)).mpr (.noIssuer m ⟨hm, hfree _, hroom⟩ (by decide +kernel))

end Session

end CivicForum
