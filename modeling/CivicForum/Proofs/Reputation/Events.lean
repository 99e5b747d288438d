import CivicForum.Proofs.Frame
import CivicForum.Proofs.Holdings

/-! # Reputation events in any order

* `Action.tally`: how many events of a kind a run asks for, for each user.
* `Member.tallied`, `Store.tallied`: everybody's row with these events counted, and with the scores
  of those whom they concern computed anew.
* `Session.event_step`: an event is answered and counted, once.
* `Session.after_events`: so the forum after a run of events depends on their numbers alone.
* `Session.events_counted_in_any_order`: none is refused, none is lost, and their order does not
  matter.
-/

set_option autoImplicit false

namespace CivicForum

/-! ## Numbers of events -/

/-- How many events of a kind the actions ask for, for a user. -/
def Action.tally (as : List Action) (c : Member.Counter) (userId : Int) : Nat :=
  as.countP fun a => a.call? = some (.record c userId)

/-- No event of any kind. -/
def Member.Quiet (k : Member.Counter → Nat) : Prop := ∀ c, k c = 0

instance (k : Member.Counter → Nat) : Decidable (Member.Quiet k) :=
  decidable_of_iff (k .approvedComments = 0 ∧ k .upheldFlags = 0 ∧ k .validatedReports = 0)
    ⟨fun ⟨ha, hu, hv⟩ c => by cases c <;> assumption, fun h => ⟨h _, h _, h _⟩⟩

namespace Member

variable {m : Member} {k l : Counter → Nat} {now : Instant} {isPenalized : Bool} {c : Counter}

/-- The row with so many events counted. -/
def raisedBy (m : Member) (k : Counter → Nat) : Member :=
  { m with
    approvedComments := m.approvedComments + k .approvedComments
    upheldFlags := m.upheldFlags + k .upheldFlags
    validatedReports := m.validatedReports + k .validatedReports }

/-- The row with so many events counted, and the score computed anew if there was one. -/
def tallied (m : Member) (k : Counter → Nat) (now : Instant) (isPenalized : Bool) : Member :=
  if Quiet k then m
  else
    match m.registeredAt? with
    | some registered =>
      { m.raisedBy k with trustScore := (m.raisedBy k).scoreAt registered now isPenalized }
    | none => m.raisedBy k

theorem counter_raisedBy : (m.raisedBy k).counter c = m.counter c + k c := by cases c <;> rfl

theorem raisedBy_raisedBy :
    (m.raisedBy k).raisedBy l = m.raisedBy fun c => k c + l c := by
  simp only [raisedBy, Int.natCast_add, Int.add_assoc]

theorem tallied_of_quiet (hk : Quiet k) : m.tallied k now isPenalized = m := if_pos hk

theorem tallied_of_readable (hk : ¬ Quiet k) {registered : Instant}
    (hm : m.registeredAt? = some registered) : m.tallied k now isPenalized =
      { m.raisedBy k with trustScore := (m.raisedBy k).scoreAt registered now isPenalized } := by
  unfold tallied
  rw [if_neg hk, hm]

theorem tallied_of_unreadable (hk : ¬ Quiet k) (hm : m.registeredAt? = none) :
    m.tallied k now isPenalized = m.raisedBy k := by
  unfold tallied
  rw [if_neg hk, hm]

theorem sameAccount_tallied (m : Member) (k : Counter → Nat) (now : Instant)
    (isPenalized : Bool) : m.SameAccount (m.tallied k now isPenalized) := by
  unfold tallied
  split
  · exact .refl m
  split
  · exact ⟨rfl, rfl, rfl, rfl, rfl⟩
  · exact ⟨rfl, rfl, rfl, rfl, rfl⟩

theorem counter_tallied (m : Member) (k : Counter → Nat) (now : Instant) (isPenalized : Bool)
    (c : Counter) : (m.tallied k now isPenalized).counter c = m.counter c + k c := by
  by_cases hk : Quiet k
  · rw [tallied_of_quiet hk, hk c]
    exact (Int.add_zero _).symm
  rcases hm : m.registeredAt? with - | registered
  · rw [tallied_of_unreadable hk hm, counter_raisedBy]
  · rw [tallied_of_readable hk hm, ← counter_raisedBy]
    cases c <;> rfl

theorem registeredAt?_tallied :
    (m.tallied k now isPenalized).registeredAt? = m.registeredAt? := by
  unfold registeredAt?
  rw [(sameAccount_tallied m k now isPenalized).createdAt]

/-- Events that are counted later add to those that are counted already. -/
theorem tallied_tallied : (m.tallied k now isPenalized).tallied l now isPenalized =
    m.tallied (fun c => k c + l c) now isPenalized := by
  by_cases hk : Quiet k
  · have hsum : (fun c => k c + l c) = l := funext fun c => by rw [hk c, Nat.zero_add]
    rw [tallied_of_quiet hk, hsum]
  by_cases hl : Quiet l
  · have hsum : (fun c => k c + l c) = k := funext fun c => by rw [hl c, Nat.add_zero]
    rw [tallied_of_quiet hl, hsum]
  have hboth : ¬ Quiet fun c => k c + l c := fun h => hk fun c => by
    have hsum : k c + l c = 0 := h c
    omega
  rcases hm : m.registeredAt? with - | registered
  · have hm' : (m.tallied k now isPenalized).registeredAt? = none := registeredAt?_tallied.trans hm
    rw [tallied_of_unreadable hl hm', tallied_of_unreadable hk hm, tallied_of_unreadable hboth hm,
      raisedBy_raisedBy]
  · have hm' : (m.tallied k now isPenalized).registeredAt? = some registered :=
      registeredAt?_tallied.trans hm
    rw [tallied_of_readable hl hm', tallied_of_readable hk hm, tallied_of_readable hboth hm,
      ← raisedBy_raisedBy]
    rfl

theorem raisedBy_one : m.raisedBy (fun d => if d = c then 1 else 0) = m.bump c := by
  cases c <;> simp [raisedBy, bump]

end Member

/-! ## Everybody's events -/

namespace Store

variable {s : Store} {now : Instant} {n : Member.Counter → Int → Nat} {userId : Int} {m : Member}

/-- Everybody's events are counted, and the scores of those whom they concern computed anew. -/
def tallied (s : Store) (now : Instant) (n : Member.Counter → Int → Nat) : Store :=
  { s with
    users := s.users.mapRows fun m =>
      m.tallied (fun c => n c m.id) now (s.isPenalized m.id now) }

theorem tallied_none (h : ∀ c id, n c id = 0) : s.tallied now n = s := by
  have hrows : s.users.mapRows (fun m => m.tallied (fun c => n c m.id) now
      (s.isPenalized m.id now)) = s.users :=
    Table.mapRows_eq_self fun m _ => Member.tallied_of_quiet fun c => h c m.id
  unfold tallied
  rw [hrows]

theorem tallied_tallied {l : Member.Counter → Int → Nat} :
    (s.tallied now n).tallied now l = s.tallied now fun c id => n c id + l c id := by
  unfold tallied
  dsimp only
  rw [Table.mapRows_mapRows]
  congr 1
  refine Table.mapRows_congr fun m _ => ?_
  have hid : (m.tallied (fun c => n c m.id) now (s.isPenalized m.id now)).id = m.id :=
    (Member.sameAccount_tallied m _ now _).id
  rw [Function.comp_apply, hid]
  exact Member.tallied_tallied

theorem user?_tallied (hm : s.user? userId = some m) : (s.tallied now n).user? userId =
    some (m.tallied (fun c => n c userId) now (s.isPenalized userId now)) := by
  obtain ⟨-, hid⟩ := Table.mem_of_find?_eq_some hm
  have hfind : (s.tallied now n).user? userId = (s.user? userId).map _ :=
    Table.find?_mapRows fun m => (Member.sameAccount_tallied m _ now _).id
  rw [hfind, hm, Option.map_some, show m.id = userId from hid]

theorem sound_tallied (h : s.users.Sound) : (s.tallied now n).users.Sound :=
  h.mapRows fun m => (Member.sameAccount_tallied m _ now _).id

theorem freshScore_tallied (hm : s.user? userId = some m) {registered : Instant}
    (hreadable : m.registeredAt? = some registered) {c : Member.Counter} (hc : n c userId ≠ 0) :
    ∃ m', (s.tallied now n).FreshScore userId now m' registered := by
  have hnot : ¬ Member.Quiet fun c => n c userId := fun h => hc (h c)
  refine ⟨_, user?_tallied hm, Member.registeredAt?_tallied.trans hreadable, ?_⟩
  rw [Member.tallied_of_readable hnot hreadable]
  rfl

end Store

/-! ## One event -/

namespace Session

variable {f : Session} {a : Action} {c : Member.Counter} {userId : Int} {m : Member}
  {registered : Instant}

/-- One event of one user. -/
def single (c : Member.Counter) (userId : Int) (d : Member.Counter) (id : Int) : Nat :=
  if d = c ∧ id = userId then 1 else 0

theorem raised_setScore_eq (h : f.store.users.Sound) (hm : f.store.user? userId = some m)
    (hreadable : m.registeredAt? = some registered) :
    (f.store.raised userId c).setScore userId
        ((m.bump c).scoreAt registered f.now (f.store.isPenalized userId f.now)) =
      f.store.tallied f.now (single c userId) := by
  unfold Store.setScore Store.raised Store.tallied
  simp only [Table.update_eq_mapRows, Table.mapRows_mapRows]
  congr 1
  refine Table.mapRows_congr fun r hr => ?_
  rw [Function.comp_apply]
  by_cases hid : Keyed.key r = userId
  · obtain ⟨hmem, hkey⟩ := Table.mem_of_find?_eq_some hm
    obtain rfl : r = m := h.eq_of_key_eq hr hmem (hid.trans hkey.symm)
    have hone : (fun d => single c userId d r.id) = fun d => if d = c then 1 else 0 := by
      funext d
      unfold single
      rw [show r.id = userId from hid]
      simp
    have hnot : ¬ Member.Quiet fun d => if d = c then 1 else 0 := fun hquiet => by
      have hzero := hquiet c
      simp at hzero
    have hbump : Keyed.key (r.bump c) = userId := by
      rw [← hid]
      cases c <;> rfl
    rw [hone, Member.tallied_of_readable hnot hreadable, Member.raisedBy_one, if_pos hid,
      if_pos hbump, show r.id = userId from hid]
  · have hquiet : Member.Quiet fun d => single c userId d r.id := fun d =>
      if_neg fun hboth => hid hboth.2
    rw [Member.tallied_of_quiet hquiet, if_neg hid, if_neg hid]

/-- An event of a user whose time of registration can be read is answered and counted, as long as
the counter has room. -/
theorem event_step (h : f.store.docket.Sound) (husers : f.store.users.Sound)
    (ha : a.call? = some (.record c userId)) (hm : f.store.user? userId = some m)
    (hreadable : m.registeredAt? = some registered) (hroom : m.counter c < Text.wordMax) :
    (∃ score, f.answer? a = some (.score score)) ∧
      (f.step a).2 = { f with store := f.store.tallied f.now (single c userId) } := by
  let raised : Store := f.store.raised userId c
  let score : Int := (m.bump c).scoreAt registered f.now (f.store.isPenalized userId f.now)
  have hraised : raised.user? userId = some (m.bump c) := Store.user?_raised hm c
  have hid : (m.bump c).id = userId := (Table.mem_of_find?_eq_some hraised).2
  have hscore : Reputation.scoreOf raised userId f.now = .ok score := by
    refine Reputation.scoreOf_eq_ok.mpr ⟨m.bump c, registered, hraised, ?_, ?_⟩
    · rw [Member.registeredAt?_bump, hreadable]
    · have hexclusive : raised.Exclusive := h.exclusive
      rw [Store.ofInputs_scoreInputs hexclusive, hid]
      rfl
  have heffect : Reputation.recordEffect f.store c userId f.now =
      .ok (score, f.store.tallied f.now (single c userId)) := by
    unfold Reputation.recordEffect
    rw [hm]
    dsimp only
    rw [if_pos hroom, ← raised_setScore_eq husers hm hreadable]
    exact Reputation.recalculateEffect_eq_ok.mpr ⟨hscore, rfl⟩
  have hrun : (Call.record c userId).run f.systemId f.now f.store =
      (.ok (.score score), f.store.tallied f.now (single c userId)) := by
    rw [Call.run_of_effect? h rfl, heffect]
    rfl
  refine ⟨⟨score, ?_⟩, ?_⟩
  · unfold answer?
    rw [ha, Option.bind_some, hrun]
    rfl
  · rw [step_of_call? ha, hrun]

/-! ## Runs of events -/

/-- The action is an event of a user whose time of registration can be read, and whose counter has
room for so many events. -/
def Records (s : Store) (n : Member.Counter → Int → Nat) (a : Action) : Prop :=
  ∃ c userId m registered, a.call? = some (.record c userId) ∧ s.user? userId = some m ∧
    m.registeredAt? = some registered ∧ m.counter c + n c userId ≤ Text.wordMax

theorem tally_cons (ha : a.call? = some (.record c userId)) (as : List Action)
    (d : Member.Counter) (id : Int) :
    Action.tally (a :: as) d id = single c userId d id + Action.tally as d id := by
  unfold Action.tally single
  rw [List.countP_cons, ha, Nat.add_comm]
  congr 1
  simp only [Option.some.injEq, Call.record.injEq, decide_eq_true_eq, @eq_comm _ c,
    @eq_comm _ userId]

theorem tally_pos (ha : a.call? = some (.record c userId)) {as : List Action} (hmem : a ∈ as) :
    Action.tally as c userId ≠ 0 := by
  have hpos : 0 < Action.tally as c userId :=
    List.countP_pos_iff.mpr ⟨a, hmem, decide_eq_true ha⟩
  omega

theorem records_iff {s : Store} {n : Member.Counter → Int → Nat} {a : Action} : Records s n a ↔
    (match a.call? with
      | some (.record c userId) => (s.user? userId).any fun m =>
        m.registeredAt?.isSome && decide (m.counter c + n c userId ≤ Text.wordMax)
      | _ => false) = true := by
  constructor
  · rintro ⟨c, userId, m, registered, ha, hm, hreadable, hroom⟩
    rw [ha]
    dsimp only
    rw [hm, Option.any_some, hreadable, Option.isSome_some, Bool.true_and]
    exact decide_eq_true hroom
  · intro h
    split at h
    · next c userId ha =>
      obtain ⟨m, hm, hready⟩ := (Option.any_eq_true _ _).mp h
      rw [Bool.and_eq_true, decide_eq_true_eq] at hready
      obtain ⟨registered, hreadable⟩ := Option.isSome_iff_exists.mp hready.1
      exact ⟨c, userId, m, registered, ha, hm, hreadable, hready.2⟩
    · cases h

instance (s : Store) (n : Member.Counter → Int → Nat) (a : Action) : Decidable (Records s n a) :=
  decidable_of_iff _ records_iff.symm

/-- What is counted already and what is still to come always add up to the same. -/
theorem Records.tallied {s : Store} {now : Instant} {k l : Member.Counter → Int → Nat}
    (h : Records s (fun d id => k d id + l d id) a) : Records (s.tallied now k) l a := by
  obtain ⟨c, userId, m, registered, ha, hm, hreadable, hroom⟩ := h
  refine ⟨c, userId, _, registered, ha, Store.user?_tallied hm,
    Member.registeredAt?_tallied.trans hreadable, ?_⟩
  have hroom : m.counter c + (k c userId + l c userId : Nat) ≤ Text.wordMax := hroom
  rw [Member.counter_tallied]
  omega

/-- A run of events answers each of them, and what it comes to depends on their numbers alone. -/
theorem after_events (h : f.store.docket.Sound) (husers : f.store.users.Sound) {as : List Action}
    (has : ∀ a ∈ as, Records f.store (Action.tally as) a) :
    (∀ bs a cs, as = bs ++ a :: cs → ∃ score, (f.after bs).answer? a = some (.score score)) ∧
      f.after as = { f with store := f.store.tallied f.now (Action.tally as) } := by
  induction as generalizing f with
  | nil =>
    refine ⟨fun bs a cs hsplit => ?_, ?_⟩
    · cases bs <;> cases hsplit
    · have hnone : f.store.tallied f.now (Action.tally []) = f.store :=
        Store.tallied_none fun _ _ => rfl
      rw [hnone]
      rfl
  | cons a as ih =>
    obtain ⟨c, userId, m, registered, ha, hm, hreadable, hroom⟩ := has a List.mem_cons_self
    have htally : Action.tally (a :: as) =
        fun d id => single c userId d id + Action.tally as d id :=
      funext fun d => funext fun id => tally_cons ha as d id
    have hpos := tally_pos ha (List.mem_cons_self (a := a) (l := as))
    obtain ⟨hanswer, hstep⟩ := event_step h husers ha hm hreadable (by omega)
    have hrest : ∀ b ∈ as, Records (f.step a).2.store (Action.tally as) b := by
      intro b hb
      have hrecords := has b (List.mem_cons_of_mem a hb)
      rw [htally] at hrecords
      rw [hstep]
      exact hrecords.tallied
    have hdocket : (f.step a).2.store.docket.Sound := by
      rw [hstep]
      exact h
    have htallied : (f.step a).2.store.users.Sound := by
      rw [hstep]
      exact Store.sound_tallied husers
    obtain ⟨hanswers, hafter⟩ := ih hdocket htallied hrest
    refine ⟨fun bs b cs hsplit => ?_, ?_⟩
    · cases bs with
      | nil =>
        obtain ⟨rfl, -⟩ := List.cons.inj hsplit
        exact hanswer
      | cons x bs =>
        obtain ⟨rfl, hrest⟩ := List.cons.inj hsplit
        exact hanswers bs b cs hrest
    · rw [after, hafter, hstep, Store.tallied_tallied, htally]

/-- Whatever has happened, events of existing users whose times of registration can be read and
whose counters have room are all answered, one after the other in any order. Each counter grows by
exactly the number of its events, and nothing else of an account changes; each user with an event
has the score that the new counters give, and every other row, and every other table, stays as it
is. The forum afterwards is the same in whatever order the events have come. -/
theorem events_counted_in_any_order (systemId : Option Int) (start : Instant) (index : Bool)
    (before as : List Action) :
    let f := (fresh systemId start index).after before
    let g := f.after as
    (∀ a ∈ as, Records f.store (Action.tally as) a) →
    (∀ order : List Action, order.Perm as →
      (∀ bs a cs, order = bs ++ a :: cs → ∃ n, (f.after bs).answer? a = some (.score n)) ∧
      f.after order = g) ∧
    (∀ userId m, f.store.user? userId = some m →
      ∃ m', g.store.user? userId = some m' ∧ m.SameAccount m' ∧
        (∀ c, m'.counter c = m.counter c + Action.tally as c userId) ∧
        ((∀ c, Action.tally as c userId = 0) → m' = m)) ∧
    (∀ a ∈ as, ∀ c userId, a.call? = some (.record c userId) →
      ∃ m' registered, g.store.FreshScore userId f.now m' registered) ∧
    g = { f with store := { f.store with users := g.store.users } } := by
  intro f g has
  have hdocket : f.store.docket.Sound := sound_run systemId start index before
  have husers : f.store.users.Sound :=
    sound_users_after (sound_users_fresh systemId start index) before
  have hg : g = { f with store := f.store.tallied f.now (Action.tally as) } :=
    (after_events hdocket husers has).2
  refine ⟨fun order horder => ?_, fun userId m hm => ?_, fun a ha c userId hc => ?_, ?_⟩
  · have htally : Action.tally order = Action.tally as :=
      funext fun c => funext fun userId => horder.countP_eq _
    have hready : ∀ a ∈ order, Records f.store (Action.tally order) a := by
      rw [htally]
      exact fun a ha => has a (horder.mem_iff.mp ha)
    obtain ⟨hanswers, hafter⟩ := after_events hdocket husers hready
    refine ⟨hanswers, ?_⟩
    rw [hafter, hg, htally]
  · rw [hg]
    exact ⟨_, Store.user?_tallied hm, Member.sameAccount_tallied _ _ _ _,
      Member.counter_tallied m _ _ _, Member.tallied_of_quiet⟩
  · obtain ⟨c', userId', m, registered, hc', hm, hreadable, -⟩ := has a ha
    obtain ⟨rfl, rfl⟩ := Call.record.inj (Option.some.inj (hc'.symm.trans hc))
    rw [hg]
    obtain ⟨m', hfresh⟩ := Store.freshScore_tallied hm hreadable (tally_pos hc ha)
    exact ⟨m', registered, hfresh⟩
  · rw [hg]
    rfl

/-- An approved comment that is reported over the network. -/
def posted : Action :=
  .request { method := "POST", target := "/v1/moderation/users/2/events/comment_approved" }

def eventful : List Action :=
  [.call (.record .approvedComments 2), .call (.record .upheldFlags 3), posted,
    .call (.record .validatedReports 2)]

theorem events_of_two_users_counted :
    let f := (fresh (some 1) ⟨1748779200, 0⟩ true).after twoUsers
    let g := f.after eventful
    f.after eventful.reverse = g ∧
    (∃ n, (f.after [.call (.record .validatedReports 2)]).answer? posted = some (.score n)) ∧
    (∃ m, g.store.user? 2 = some m ∧ m.counter .approvedComments = 2 ∧
      m.counter .upheldFlags = 0 ∧ m.counter .validatedReports = 1) ∧
    ∃ m registered, g.store.FreshScore 3 f.now m registered := by
  intro f g
  obtain ⟨horders, hcounts, hscores, -⟩ :=
    events_counted_in_any_order (some 1) ⟨1748779200, 0⟩ true twoUsers eventful (by decide +kernel)
  obtain ⟨hanswers, hsame⟩ := horders eventful.reverse eventful.reverse_perm
  refine ⟨hsame, hanswers [_] _ _ rfl, ?_, ?_⟩
  · have hclean : (f.store.user? 2).any fun m => m.approvedComments = 0 && m.upheldFlags = 0 &&
        m.validatedReports = 0 := by decide +kernel
    obtain ⟨m, hm, hzero⟩ := (Option.any_eq_true _ _).mp hclean
    simp only [Bool.and_eq_true, decide_eq_true_eq] at hzero
    obtain ⟨⟨happroved, hupheld⟩, hvalidated⟩ := hzero
    obtain ⟨m', hm', -, hcounters, -⟩ := hcounts 2 m hm
    have htally : Action.tally eventful .approvedComments 2 = 2 ∧
        Action.tally eventful .upheldFlags 2 = 0 ∧
        Action.tally eventful .validatedReports 2 = 1 := by decide +kernel
    refine ⟨m', hm', ?_, ?_, ?_⟩
    · rw [hcounters, htally.1]
      exact congrArg (· + 2) happroved
    · rw [hcounters, htally.2.1]
      exact congrArg (· + 0) hupheld
    · rw [hcounters, htally.2.2]
      exact congrArg (· + 1) hvalidated
  · exact hscores _ (List.mem_cons_of_mem _ List.mem_cons_self) .upheldFlags 3 rfl

end Session

end CivicForum
