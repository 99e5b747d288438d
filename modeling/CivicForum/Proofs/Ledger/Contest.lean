import CivicForum.Proofs.Ledger.Admission
import CivicForum.Proofs.Ledger.Escalation
import CivicForum.Proofs.Ledger.Run

/-! # Issuers who race

Several issuers ask for penalties of one user at the same time. One after the other is served, in an
order that nobody controls.

* `Session.contenders`: the kind in force at the start, and those asked for so far.
* `Session.Contested`: what holds while the requests are served.
* `Contested.admit`, `Contested.bar`: one request; `Contested.issues`: any number of them.
* `Session.racing_issuers_agree`: in every order, the same kind is in force at the end, and the same
  score is stored.
-/

set_option autoImplicit false

namespace CivicForum

theorem Penalty.Kind.severity_le_four (k : Penalty.Kind) : k.severity ≤ 4 := by
  cases k <;> decide

/-- The action was answered. -/
def Outcome.isAnswer : Outcome → Bool
  | .answer _ => true
  | _ => false

namespace Session

def issues (rs : List Penalty.Request) : List Action := rs.map fun r => .call (.issue r)

/-- The kind of the user's penalty in force, if any, and the kinds asked for. -/
def contenders (f : Session) (userId : Int) (rs : List Penalty.Request) : List Penalty.Kind :=
  ((f.store.penaltyInForce? userId f.now).map Penalty.kind).toList ++
    rs.map Penalty.Request.kind

variable {f g : Session} {userId : Int} {m : Member} {registered : Instant}
  {before rs : List Penalty.Request} {r : Penalty.Request}

/-- What holds after some of the requests that the forum `f` was asked for at once. The rank in force
is the highest one so far, and the score counts it as soon as it is another one than at the start. -/
structure Contested (f : Session) (userId : Int) (m : Member) (registered : Instant)
    (before : List Penalty.Request) (g : Session) : Prop where
  now : g.now = f.now
  sound : g.store.docket.Sound
  users : ∀ id, g.store.users.contains id = f.store.users.contains id
  rank : ∀ n, g.store.rank userId g.now ≤ n ↔ ∀ k ∈ f.contenders userId before, k.severity < n
  member : g.store.user? userId = some { m with
    trustScore := if g.store.rank userId g.now = f.store.rank userId f.now then m.trustScore
      else m.scoreAt registered f.now true }
  /-- Every admission takes an identifier, and leads to a higher rank. -/
  room : g.store.penalties.lastId + 5 ≤ Text.wordMax + g.store.rank userId g.now

theorem Contested.start (h : f.store.docket.Sound) (hm : f.store.user? userId = some m)
    (hroom : f.store.penalties.lastId + 5 ≤ Text.wordMax) :
    f.Contested userId m registered [] f where
  now := rfl
  sound := h
  users _ := rfl
  rank n := by
    rw [Store.rank_le_iff]
    simp [contenders]
  member := by
    rw [if_pos rfl, hm]
  room := by omega

theorem forall_contenders_append {n : Nat} :
    (∀ k ∈ f.contenders userId (before ++ [r]), k.severity < n) ↔
      (∀ k ∈ f.contenders userId before, k.severity < n) ∧ r.kind.severity < n := by
  simp only [contenders, List.map_append, List.map_cons, List.map_nil, ← List.append_assoc,
    List.forall_mem_append, List.forall_mem_singleton]

theorem Contested.start_rank_le (hg : f.Contested userId m registered before g) :
    f.store.rank userId f.now ≤ g.store.rank userId g.now := by
  refine Store.rank_le_iff.mpr fun p hp => ?_
  refine (hg.rank _).mp (Nat.le_refl _) p.kind (List.mem_append_left _ ?_)
  rw [hp]
  exact List.mem_singleton_self _

theorem Contested.admit (hg : f.Contested userId m registered before g)
    (hregistered : m.registeredAt? = some registered) (hr : r.userId = userId)
    (hissuer : f.store.users.contains r.issuedBy = true)
    (hmost : ∀ k ∈ f.contenders userId before, k.severity < r.kind.severity) :
    ∃ p t, g.step (.call (.issue r)) = (.answer (.penalty p), { g with store := t }) ∧
      p.kind = r.kind ∧ f.Contested userId m registered (before ++ [r]) { g with store := t } := by
  subst hr
  have hrank := (hg.rank _).mpr hmost
  have hstart := hg.start_rank_le
  have hroom := hg.room
  have hsevere := r.kind.severity_le_four
  have hnext : g.store.penalties.nextId ≤ Text.wordMax := by
    unfold Table.nextId
    omega
  rw [← hg.users] at hissuer
  obtain ⟨t, hrun, hadmitted⟩ := Call.run_issue_admitted g.systemId hg.sound hg.member
    hregistered hissuer hnext hrank
  have hstep := step_call_of_ok hrun
  have hnew := Store.rank_of_penaltyInForce? hadmitted.inForce
  have hsound := hg.sound.move (moved_step hg.sound (.call (.issue r))).docket
  rw [hstep] at hsound
  refine ⟨_, t, hstep, rfl, hg.now, hsound, fun id => ?_, fun n => ?_, ?_, ?_⟩
  · exact (hadmitted.users id).trans (hg.users id)
  · rw [hnew, forall_contenders_append]
    refine ⟨fun hn => ⟨fun k hk => Nat.lt_trans (hmost k hk) hn, hn⟩, fun hn => hn.2⟩
  · rw [hnew, if_neg]
    · rw [hadmitted.member, ← hg.now]
      rfl
    · exact Nat.ne_of_gt (Nat.lt_succ_of_le (Nat.le_trans hstart hrank))
  · rw [hnew, hadmitted.lastId]
    show _ ≤ Text.wordMax + ((r.kind.severity + 1 : Nat) : Int)
    omega

theorem Contested.bar (hg : f.Contested userId m registered before g) (hr : r.userId = userId)
    (hmost : ¬ ∀ k ∈ f.contenders userId before, k.severity < r.kind.severity) :
    ∃ k, g.step (.call (.issue r)) = (.refused (.alreadyPenalized k), g) ∧
      f.Contested userId m registered (before ++ [r]) g := by
  subst hr
  have hrank := mt (hg.rank _).mp hmost
  obtain ⟨p, hp, hbarred⟩ : ∃ p, g.store.penaltyInForce? r.userId g.now = some p ∧
      r.kind.severity ≤ p.kind.severity := by
    simpa [Store.rank_le_iff] using hrank
  have huser : g.store.users.contains r.userId = true :=
    Table.contains_of_find?_eq_some hg.member
  have hrun := Call.run_issue_barred g.systemId hg.sound huser hp hbarred
  refine ⟨p.kind, step_call_of_error hrun, hg.now, hg.sound, hg.users, fun n => ?_, hg.member,
    hg.room⟩
  rw [forall_contenders_append, hg.rank n]
  refine ⟨fun hn => ⟨hn, ?_⟩, fun hn => hn.1⟩
  have hle := (hg.rank n).mpr hn
  omega

theorem Contested.issues (hg : f.Contested userId m registered before g)
    (hregistered : m.registeredAt? = some registered)
    (hrs : ∀ r ∈ rs, r.userId = userId ∧ f.store.users.contains r.issuedBy = true) :
    f.Contested userId m registered (before ++ rs) (g.after (issues rs)) := by
  induction rs generalizing before g with
  | nil =>
    rw [List.append_nil]
    exact hg
  | cons r rs ih =>
    obtain ⟨⟨hr, hissuer⟩, hrest⟩ := List.forall_mem_cons.mp hrs
    rw [List.append_cons]
    by_cases hmost : ∀ k ∈ f.contenders userId before, k.severity < r.kind.severity
    · obtain ⟨p, t, hstep, -, hnext⟩ := hg.admit hregistered hr hissuer hmost
      rw [Session.issues, List.map_cons, after, hstep]
      exact ih hnext hrest
    · obtain ⟨k, hstep, hnext⟩ := hg.bar hr hmost
      rw [Session.issues, List.map_cons, after, hstep]
      exact ih hnext hrest

theorem Contested.outcome (hg : f.Contested userId m registered before g)
    (hregistered : m.registeredAt? = some registered) (hr : r.userId = userId)
    (hissuer : f.store.users.contains r.issuedBy = true) :
    let o := (g.step (.call (.issue r))).1
    if ∀ k ∈ f.contenders userId before, k.severity < r.kind.severity then
      ∃ p, o = .answer (.penalty p) ∧ p.kind = r.kind
    else ∃ k, o = .refused (.alreadyPenalized k) := by
  intro o
  split
  · next hmost =>
    obtain ⟨p, t, hstep, hkind, -⟩ := hg.admit hregistered hr hissuer hmost
    exact ⟨p, congrArg Prod.fst hstep, hkind⟩
  · next hmost =>
    obtain ⟨k, hstep, -⟩ := hg.bar hr hmost
    exact ⟨k, congrArg Prod.fst hstep⟩

/-- Once something has been asked for, a most severe contender is in force, and the score counts it
unless it was in force at the start. -/
theorem Contested.exists_inForce (hg : f.Contested userId m registered rs g) (hrs : rs ≠ []) :
    ∃ p, g.store.penaltyInForce? userId g.now = some p ∧ p.kind ∈ f.contenders userId rs ∧
      (∀ k ∈ f.contenders userId rs, k.severity ≤ p.kind.severity) ∧
      (g.store.user? userId).map Member.trustScore =
        some (if p.kind.severity + 1 = f.store.rank userId f.now then m.trustScore
          else m.scoreAt registered f.now true) := by
  obtain ⟨r, hr⟩ := List.exists_mem_of_ne_nil rs hrs
  have hasked : r.kind ∈ f.contenders userId rs := List.mem_append_right _ (List.mem_map_of_mem hr)
  have hpos : ¬ g.store.rank userId g.now ≤ 0 := fun hle =>
    Nat.not_lt_zero _ ((hg.rank 0).mp hle r.kind hasked)
  rcases hp : g.store.penaltyInForce? userId g.now with - | p
  · exact absurd (Store.rank_le_iff.mpr fun p hp' => by rw [hp] at hp'; cases hp') hpos
  have hrank := Store.rank_of_penaltyInForce? hp
  have hmost : ∀ k ∈ f.contenders userId rs, k.severity ≤ p.kind.severity := fun k hk =>
    Nat.le_of_lt_succ ((hg.rank _).mp (Nat.le_of_eq hrank) k hk)
  refine ⟨p, rfl, ?_, hmost, ?_⟩
  · obtain ⟨k, hk, hsevere⟩ : ∃ k ∈ f.contenders userId rs, p.kind.severity ≤ k.severity := by
      have hnot := mt (hg.rank p.kind.severity).mpr (by omega)
      simpa using hnot
    rwa [Penalty.Kind.severity_injective (Nat.le_antisymm hsevere (hmost k hk))]
  · rw [hg.member, hrank]
    rfl

/-- Two most severe contenders of the same requests are of one kind, whatever the order. -/
theorem kind_eq_of_perm {order : List Penalty.Request} (horder : order.Perm rs)
    {k l : Penalty.Kind} (hk : k ∈ f.contenders userId order)
    (hkmost : ∀ i ∈ f.contenders userId order, i.severity ≤ k.severity)
    (hl : l ∈ f.contenders userId rs)
    (hlmost : ∀ i ∈ f.contenders userId rs, i.severity ≤ l.severity) : k = l := by
  have hperm : (f.contenders userId order).Perm (f.contenders userId rs) :=
    (horder.map _).append_left _
  exact Penalty.Kind.severity_injective
    (Nat.le_antisymm (hlmost k (hperm.mem_iff.mp hk)) (hkmost l (hperm.mem_iff.mpr hl)))

/-! ## The same request several times -/

theorem repeated_of_step_eq {a : Action} {o : Outcome} (h : f.step a = (o, f)) (n : Nat) :
    f.repeated a n = (List.replicate n o, f) := by
  induction n with
  | zero => rfl
  | succ n ih =>
    rw [repeated, h]
    dsimp only
    rw [ih, List.replicate_succ]

theorem Contested.answers_repeated_of_bar (hg : f.Contested userId m registered before g)
    (hr : r.userId = userId)
    (hmost : ¬ ∀ k ∈ f.contenders userId before, k.severity < r.kind.severity) (n : Nat) :
    (g.repeated (.call (.issue r)) n).1.filter Outcome.isAnswer = [] := by
  obtain ⟨k, hstep, -⟩ := hg.bar hr hmost
  rw [repeated_of_step_eq hstep, List.filter_replicate_of_neg]
  exact Bool.false_ne_true

theorem Contested.answers_repeated (hg : f.Contested userId m registered before g)
    (hregistered : m.registeredAt? = some registered) (hr : r.userId = userId)
    (hissuer : f.store.users.contains r.issuedBy = true) (n : Nat) :
    ((g.repeated (.call (.issue r)) n).1.filter Outcome.isAnswer).length ≤ 1 := by
  by_cases hmost : ∀ k ∈ f.contenders userId before, k.severity < r.kind.severity
  · cases n with
    | zero => exact Nat.zero_le 1
    | succ n =>
      obtain ⟨p, t, hstep, -, hnext⟩ := hg.admit hregistered hr hissuer hmost
      have hagain : ¬ ∀ k ∈ f.contenders userId (before ++ [r]), k.severity < r.kind.severity :=
        fun hall => Nat.lt_irrefl _ (forall_contenders_append.mp hall).2
      rw [repeated, hstep]
      dsimp only
      rw [List.filter_cons_of_pos rfl, hnext.answers_repeated_of_bar hr hagain]
      exact Nat.le_refl 1
  · rw [hg.answers_repeated_of_bar hr hmost]
    exact Nat.zero_le 1

/-! ## Whatever the order -/

/-- Requests for penalties of a user who can be scored, from issuers who exist, are served in any
order. Each one is admitted exactly when it is more severe than what was in force at the start and
than every request before it, and refused as already penalized otherwise. At the end, one penalty is
active, a most severe one, and neither its kind nor the score depends on the order. Of identical
requests, at most one is admitted.

Five identifiers must be left for penalties (`lastId_after_le`), since at most five requests are
admitted. -/
theorem racing_issuers_agree (systemId : Option Int) (start : Instant) (index : Bool)
    (as : List Action) (userId : Int) (m : Member) (registered : Instant)
    (rs : List Penalty.Request) :
    let f := (fresh systemId start index).after as
    f.store.user? userId = some m → m.registeredAt? = some registered → rs ≠ [] →
    (∀ r ∈ rs, r.userId = userId ∧ f.store.users.contains r.issuedBy = true) →
    f.store.penalties.lastId + 5 ≤ Text.wordMax →
    (∃ kind score, kind ∈ f.contenders userId rs ∧
      (∀ k ∈ f.contenders userId rs, k.severity ≤ kind.severity) ∧
      ∀ order : List Penalty.Request, order.Perm rs →
        (∀ before r later, order = before ++ r :: later →
          let o := ((f.after (issues before)).step (.call (.issue r))).1
          if ∀ k ∈ f.contenders userId before, k.severity < r.kind.severity then
            ∃ p, o = .answer (.penalty p) ∧ p.kind = r.kind
          else ∃ k, o = .refused (.alreadyPenalized k)) ∧
        let g := f.after (issues order)
        ∃ p, g.store.activePenalties userId = [p] ∧ p.kind = kind ∧
          g.store.penaltyInForce? userId g.now = some p ∧
          (g.store.user? userId).map Member.trustScore = some score) ∧
    ∀ r ∈ rs, ∀ n, ((f.repeated (.call (.issue r)) n).1.filter Outcome.isAnswer).length ≤ 1 := by
  intro f hm hregistered hrs hissuers hroom
  have hstart : f.Contested userId m registered [] f :=
    .start (sound_run systemId start index as) hm hroom
  have hend : f.Contested userId m registered rs (f.after (issues rs)) :=
    hstart.issues hregistered hissuers
  obtain ⟨p, -, hmem, hmost, -⟩ := hend.exists_inForce hrs
  refine ⟨⟨p.kind, if p.kind.severity + 1 = f.store.rank userId f.now then m.trustScore
    else m.scoreAt registered f.now true, hmem, hmost, fun order horder => ?_⟩, ?_⟩
  · have horderIssuers : ∀ r ∈ order, r.userId = userId ∧
        f.store.users.contains r.issuedBy = true := fun r hr => hissuers r (horder.mem_iff.mp hr)
    refine ⟨fun before r later hsplit => ?_, ?_⟩
    · rw [hsplit, List.forall_mem_append, List.forall_mem_cons] at horderIssuers
      obtain ⟨hbefore, ⟨hr, hissuer⟩, -⟩ := horderIssuers
      exact (hstart.issues hregistered hbefore).outcome hregistered hr hissuer
    · have hg := hstart.issues hregistered horderIssuers
      have hne : order ≠ [] := fun hnil => hrs (hnil ▸ horder).symm.eq_nil
      obtain ⟨q, hq, hqmem, hqmost, hscore⟩ := hg.exists_inForce hne
      have hkind := kind_eq_of_perm horder hqmem hqmost hmem hmost
      rw [hkind] at hscore
      have hactive := (Ledger.penaltyInForce?_eq_some.mp hq).1
      exact ⟨q, Store.Exclusive.activePenalties_eq hg.sound.exclusive hactive, hkind, hq, hscore⟩
  · intro r hr n
    exact hstart.answers_repeated hregistered (hissuers r hr).1 (hissuers r hr).2 n

/-- Three issuers who ask for penalties of one user. -/
def rivals : List Penalty.Request :=
  [⟨2, .warning, "spam", 1, [], false⟩, ⟨2, .weekBan, "spam", 1, [], false⟩,
    ⟨2, .dayBan, "spam", 1, [], false⟩]

/-- Whoever of them comes first, the ban for a week is in force at the end, and the score counts one
penalty. -/
theorem rivals_agree :
    let f := (fresh (some 1) ⟨1748779200, 0⟩ true).after
      [.write (.createUser { username := "offender" })]
    ∀ order : List Penalty.Request, order.Perm rivals →
      let g := f.after (issues order)
      (g.store.activePenalties 2).map Penalty.kind = [.weekBan] ∧
        (g.store.user? 2).map Member.trustScore = some 30 := by
  intro f
  have hrow : ((f.store.user? 2).bind Member.registeredAt?).isSome := by decide +kernel
  obtain ⟨registered, hrow⟩ := Option.isSome_iff_exists.mp hrow
  obtain ⟨m, hm, hregistered⟩ := Option.bind_eq_some_iff.mp hrow
  have hissuers : ∀ r ∈ rivals, r.userId = 2 ∧ f.store.users.contains r.issuedBy = true := by
    decide +kernel
  have hroom : f.store.penalties.lastId + 5 ≤ Text.wordMax := by decide +kernel
  have hscore : ((f.after (issues rivals)).store.user? 2).map Member.trustScore = some 30 := by
    decide +kernel
  have hmost : ∀ kind ∈ f.contenders 2 rivals,
      (∀ k ∈ f.contenders 2 rivals, k.severity ≤ kind.severity) → kind = .weekBan := by
    decide +kernel
  obtain ⟨⟨kind, score, hmem, hkind, hagree⟩, -⟩ := racing_issuers_agree (some 1) ⟨1748779200, 0⟩
    true [.write (.createUser { username := "offender" })] 2 m registered rivals hm hregistered
    nofun hissuers hroom
  obtain rfl := hmost kind hmem hkind
  obtain ⟨-, -, -, -, -, hrivals⟩ := hagree rivals (.refl _)
  intro order horder g
  obtain ⟨-, p, hactive, hp, -, hend⟩ := hagree order horder
  have hactive : g.store.activePenalties 2 = [p] := hactive
  refine ⟨?_, hend.trans (hrivals.symm.trans hscore)⟩
  rw [hactive, List.map_cons, List.map_nil, hp]

end Session

end CivicForum
