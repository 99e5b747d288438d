import CivicForum.Proofs.Appeal.Once
import CivicForum.Proofs.Reputation.Score

/-! # Users do not disturb each other

* `Store.holdings`: the rows that belong to a user.
* `Store.OnlyOf`: two stores differ in what belongs to one user, and nowhere else.
* `Call.Concerns`: the user whom a call is about; a penalty and an appeal lead to one.
* `Call.onlyOf_run`, `Call.carried_of_run`: what such a call leaves alone, and what it makes of the
  user's own row.
* `Call.answer_of_holdings`: what is asked about a user is answered from what belongs to the user.
* `Session.users_do_not_disturb_each_other`: both in every forum that a fresh one can become.
-/

set_option autoImplicit false

namespace CivicForum

/-! ## The rows of an owner -/

namespace Table

variable {α : Type} {t : Table α} {owner : α → Int} {f : α → α} {u v id : Int}

/-- The rows that belong to a user. -/
def owned (t : Table α) (owner : α → Int) (userId : Int) : List α :=
  t.rows.filter fun r => owner r = userId

/-- What is written to the rows of one owner is not written to those of another. -/
theorem owned_mapRows_of_ne (howner : ∀ r, owner (f r) = owner r)
    (hf : ∀ r ∈ t.rows, owner r ≠ u → f r = r) (hv : v ≠ u) :
    (t.mapRows f).owned owner v = t.owned owner v := by
  have hfilter : (fun r => decide (owner r = v)) ∘ f = fun r => decide (owner r = v) :=
    funext fun r => by rw [Function.comp_apply, howner]
  have hself : ∀ r ∈ t.owned owner v, f r = r := by
    intro r hr
    obtain ⟨hmem, hr⟩ := List.mem_filter.mp hr
    exact hf r hmem (of_decide_eq_true hr ▸ hv)
  unfold owned at *
  rw [mapRows_rows, List.filter_map, hfilter, List.map_congr_left hself, List.map_id']

theorem owned_update_of_ne [Keyed α] (howner : ∀ r, owner (f r) = owner r)
    (hid : ∀ r ∈ t.rows, Keyed.key r = id → owner r = u) (hv : v ≠ u) :
    (t.update id f).owned owner v = t.owned owner v := by
  rw [update_eq_mapRows]
  refine owned_mapRows_of_ne (fun r => ?_) (fun r hr hne => ?_) hv
  · split
    · exact howner r
    · rfl
  · exact if_neg fun hkey => hne (hid r hr hkey)

theorem owned_insert_of_ne [Keyed α] {r : α} (hv : v ≠ owner r) :
    (t.insert r).owned owner v = t.owned owner v := by
  have hnot : [r].filter (fun r => decide (owner r = v)) = [] :=
    List.filter_eq_nil_iff.mpr fun q hq => by
      rw [List.mem_singleton.mp hq, decide_eq_true_eq]
      exact hv.symm
  unfold owned
  rw [insert_rows, List.filter_append, hnot, List.append_nil]

end Table

/-! ## What belongs to a user -/

/-- The rows that belong to a user. -/
structure Holdings where
  users : List Member
  penalties : List Penalty
  appeals : List Appeal
  ideas : List Idea
  comments : List Comment

namespace Store

variable {s t w : Store} {u : Int}

def holdings (s : Store) (userId : Int) : Holdings where
  users := s.users.owned Member.id userId
  penalties := s.penalties.owned Penalty.userId userId
  appeals := s.appeals.owned Appeal.userId userId
  ideas := s.ideas.owned Idea.userId userId
  comments := s.comments.owned Comment.userId userId

/-- The stores differ in what belongs to one user, and nowhere else. -/
structure OnlyOf (u : Int) (s t : Store) : Prop where
  holdings : ∀ v, v ≠ u → t.holdings v = s.holdings v
  flags : t.flags = s.flags
  keywords : t.keywords = s.keywords

namespace OnlyOf

theorem refl (u : Int) (s : Store) : OnlyOf u s s := ⟨fun _ _ => rfl, rfl, rfl⟩

theorem trans (h : OnlyOf u s t) (h' : OnlyOf u t w) : OnlyOf u s w where
  holdings v hv := (h'.holdings v hv).trans (h.holdings v hv)
  flags := h'.flags.trans h.flags
  keywords := h'.keywords.trans h.keywords

/-! ### Statements on one user -/

theorem setScore (s : Store) (u score : Int) : OnlyOf u s (s.setScore u score) where
  holdings v hv := by
    have husers : (s.setScore u score).users.owned Member.id v = s.users.owned Member.id v :=
      Table.owned_update_of_ne (fun _ => rfl) (fun _ _ hkey => hkey) hv
    unfold Store.holdings
    rw [husers]
    rfl
  flags := rfl
  keywords := rfl

theorem raised (s : Store) (u : Int) (c : Member.Counter) : OnlyOf u s (s.raised u c) where
  holdings v hv := by
    have husers : (s.raised u c).users.owned Member.id v = s.users.owned Member.id v :=
      Table.owned_update_of_ne (fun m => by cases c <;> rfl) (fun _ _ hkey => hkey) hv
    unfold Store.holdings
    rw [husers]
    rfl
  flags := rfl
  keywords := rfl

/-- Another table of penalties with the same rows of all other users. -/
theorem penalties {ps : Table Penalty}
    (h : ∀ v, v ≠ u → ps.owned Penalty.userId v = s.penalties.owned Penalty.userId v) :
    OnlyOf u s { s with penalties := ps } where
  holdings v hv := by
    unfold Store.holdings
    rw [h v hv]
  flags := rfl
  keywords := rfl

theorem appeals {as : Table Appeal}
    (h : ∀ v, v ≠ u → as.owned Appeal.userId v = s.appeals.owned Appeal.userId v) :
    OnlyOf u s { s with appeals := as } where
  holdings v hv := by
    unfold Store.holdings
    rw [h v hv]
  flags := rfl
  keywords := rfl

theorem retire (s : Store) (u : Int) : OnlyOf u s (s.retire u) := by
  refine .penalties fun v hv => Table.owned_mapRows_of_ne (fun _ => Penalty.retire_userId) ?_ hv
  intro p _ hu
  exact if_neg fun hp => hu hp.1

theorem setStatus {id : Int} (hid : ∀ p ∈ s.penalties.rows, p.id = id → p.userId = u)
    (status : Penalty.Status) : OnlyOf u s (s.setStatus id status) :=
  .penalties fun _ hv => Table.owned_update_of_ne (fun _ => rfl) hid hv

theorem revoked {id : Int} (hid : ∀ p ∈ s.penalties.rows, p.id = id → p.userId = u)
    (revokedBy : Int) (revokedAt : Instant) (reason : String) :
    OnlyOf u s (s.revoked id revokedBy revokedAt reason) :=
  .penalties fun _ hv => Table.owned_update_of_ne (fun _ => rfl) hid hv

theorem withPenalty (s : Store) (p : Penalty) : OnlyOf p.userId s (s.withPenalty p) :=
  .penalties fun _ hv => Table.owned_insert_of_ne hv

theorem withAppeal (s : Store) (a : Appeal) : OnlyOf a.userId s (s.withAppeal a) :=
  .appeals fun _ hv => Table.owned_insert_of_ne hv

theorem resolved {id : Int} (hid : ∀ a ∈ s.appeals.rows, a.id = id → a.userId = u)
    (status : Appeal.Status) (reviewedBy : Int) (reviewedAt : Instant) (notes : String) :
    OnlyOf u s (s.resolved id status reviewedBy reviewedAt notes) :=
  .appeals fun _ hv => Table.owned_update_of_ne (fun _ => rfl) hid hv

theorem withoutPending (s : Store) (u : Int) (reason : String) (now : Instant) :
    OnlyOf u s (s.withoutPending u reason now) where
  holdings v hv := by
    have hideas : (s.withoutPending u reason now).ideas.owned Idea.userId v =
        s.ideas.owned Idea.userId v := by
      refine Table.owned_mapRows_of_ne (fun i => ?_) (fun i _ hu => ?_) hv
      · split <;> rfl
      · exact if_neg (by simp [hu])
    have hcomments : (s.withoutPending u reason now).comments.owned Comment.userId v =
        s.comments.owned Comment.userId v := by
      refine Table.owned_mapRows_of_ne (fun c => ?_) (fun c _ hu => ?_) hv
      · split <;> rfl
      · exact if_neg (by simp [hu])
    unfold Store.holdings
    rw [hideas, hcomments]
    rfl
  flags := rfl
  keywords := rfl

/-! ### Operations on one user -/

theorem issued (s : Store) (r : Penalty.Request) (now : Instant) :
    OnlyOf r.userId s (s.issued r now) := by
  have hentered : OnlyOf r.userId s
      ((s.retire r.userId).withPenalty (r.entry s.penalties.nextId now)) :=
    (retire s r.userId).trans (withPenalty _ (r.entry s.penalties.nextId now))
  unfold Store.issued
  dsimp only
  split
  · exact hentered.trans (withoutPending _ _ _ _)
  · exact hentered

variable {p : Penalty}

theorem reinstated (hid : ∀ q ∈ s.penalties.rows, q.id = p.id → q.userId = p.userId) :
    OnlyOf p.userId s (s.reinstated p) := by
  have hretired : ∀ q ∈ (s.retire p.userId).penalties.rows, q.id = p.id → q.userId = p.userId := by
    intro q hq hqid
    obtain ⟨o, ho, rfl⟩ := List.mem_map.mp hq
    rw [Penalty.retire_id] at hqid
    rw [Penalty.retire_userId]
    exact hid o ho hqid
  unfold Store.reinstated
  split
  · split
    · exact setStatus hid _
    · exact (retire s p.userId).trans (setStatus hretired _)
  · exact setStatus hid _

theorem appealed (hid : ∀ q ∈ s.penalties.rows, q.id = p.id → q.userId = p.userId)
    (reason : String) (now : Instant) : OnlyOf p.userId s (s.appealed p reason now) := by
  let t := s.withAppeal (.filed s.appeals.nextId p.id p.userId reason now)
  have hfiled : OnlyOf p.userId s t :=
    withAppeal s (.filed s.appeals.nextId p.id p.userId reason now)
  have hid : ∀ q ∈ t.penalties.rows, q.id = p.id → q.userId = p.userId := hid
  exact hfiled.trans (setStatus hid .appealed)

end OnlyOf

end Store

/-! ## Calls about a user -/

namespace Call

variable {s t : Store} {u v systemId : Int} {now : Instant} {c : Call}

/-- The call is about the user. A penalty and an appeal lead to the user of the penalty, whoever
acts. -/
inductive Concerns (s : Store) : Call → Int → Prop where
  | recalculate (userId : Int) : Concerns s (.recalculate userId) userId
  | record (k : Member.Counter) (userId : Int) : Concerns s (.record k userId) userId
  | issue (r : Penalty.Request) : Concerns s (.issue r) r.userId
  | revoke (p : Penalty) (hp : p ∈ s.penalties.rows) (revokedBy : Int) (reason : String) :
      Concerns s (.revoke p.id revokedBy reason) p.userId
  | submitAppeal (p : Penalty) (hp : p ∈ s.penalties.rows) (userId : Int) (reason : String) :
      Concerns s (.submitAppeal p.id userId reason) p.userId
  | reviewAppeal (a : Appeal) (p : Penalty) (ha : a ∈ s.appeals.rows) (hp : p ∈ s.penalties.rows)
      (hap : a.penaltyId = p.id) (reviewerId : Int) (decision notes : String) :
      Concerns s (.reviewAppeal a.id reviewerId decision notes) p.userId

/-- What the call counts for its user. -/
def counted : Call → Member → Member
  | .record k _, m => m.bump k
  | _, m => m

/-- What a call about a user leaves when it is not refused. -/
structure Carried (c : Call) (u : Int) (s t : Store) : Prop where
  others : Store.OnlyOf u s t
  own : ∃ score : Member → Int,
    t.user? u = (s.user? u).map fun m => { c.counted m with trustScore := score m }

theorem user?_counted {w : Store} (hw : w.users = s.users) (hc : c.counted = id) :
    w.user? u = (s.user? u).map c.counted := by
  rw [hc, Option.map_id, Store.user?, hw]
  rfl

/-- The score is the last thing that is stored. -/
theorem Carried.setScore {w : Store} {score : Int} (h : Store.OnlyOf u s w)
    (hu : w.user? u = (s.user? u).map c.counted) : Carried c u s (w.setScore u score) where
  others := h.trans (.setScore w u score)
  own := by
    refine ⟨fun _ => score, ?_⟩
    rw [Store.user?_setScore, hu, Option.map_map]
    rfl

theorem Carried.of_users_eq (h : Store.OnlyOf u s t) (hu : t.users = s.users)
    (hc : c.counted = id) : Carried c u s t where
  others := h
  own := by
    refine ⟨Member.trustScore, ?_⟩
    have hself : (fun m : Member => { c.counted m with trustScore := m.trustScore }) =
        c.counted := by
      rw [hc]
      rfl
    rw [hself]
    exact user?_counted hu hc

/-- The decision has been carried out on the penalty of the appeal. -/
theorem Carried.of_settled {p : Penalty} {reviewerId : Int} {notes : String}
    {d : Appeal.Decision} {status : Appeal.Status}
    (hp : ∀ q ∈ s.penalties.rows, q.id = p.id → q.userId = p.userId)
    (h : Appeals.Settled s p reviewerId notes now d status t) (hc : c.counted = id) :
    Carried c p.userId s t := by
  cases d with
  | approve =>
    obtain ⟨-, score, -, rfl⟩ := h
    exact .setScore (.revoked hp _ _ _) (user?_counted rfl hc)
  | reject =>
    obtain ⟨-, rfl⟩ := h
    exact .of_users_eq (.reinstated hp) (Ledger.reinstated_users s p) hc

theorem Carried.resolved {id : Int} (h : Carried c u s t)
    (hid : ∀ a ∈ t.appeals.rows, a.id = id → a.userId = u) (status : Appeal.Status)
    (reviewedBy : Int) (reviewedAt : Instant) (notes : String) :
    Carried c u s (t.resolved id status reviewedBy reviewedAt notes) where
  others := h.others.trans (.resolved hid status reviewedBy reviewedAt notes)
  own := h.own

theorem carried_of_effect? (h : s.docket.Sound) (hc : c.Concerns s u) {x : Effect Answer}
    {ans : Answer} (hx : c.effect? s now = some x) (hok : x = .ok (ans, t)) :
    Carried c u s t := by
  have howner : ∀ p ∈ s.penalties.rows, ∀ q ∈ s.penalties.rows, q.id = p.id →
      q.userId = p.userId := fun p hp q hq hid => by
    rw [h.exclusive.ids.eq_of_key_eq hq hp hid]
  cases hc with
  | recalculate =>
    obtain rfl := Option.some.inj hx
    obtain ⟨score, hscore, -⟩ := Effect.answering_eq_ok.mp hok
    obtain ⟨-, rfl⟩ := Reputation.recalculateEffect_eq_ok.mp hscore
    exact .setScore (.refl u s) (user?_counted rfl rfl)
  | record k =>
    obtain rfl := Option.some.inj hx
    obtain ⟨score, hscore, -⟩ := Effect.answering_eq_ok.mp hok
    obtain ⟨-, rfl⟩ := Reputation.of_recordEffect_eq_ok hscore
    exact .setScore (.raised s u k) (s.user?_raised_map u k)
  | issue r =>
    obtain rfl := Option.some.inj hx
    obtain ⟨p, hp, -⟩ := Effect.answering_eq_ok.mp hok
    obtain ⟨-, -, -, -, -, score, -, rfl⟩ := Ledger.issueEffect_eq_ok.mp hp
    exact .setScore (.issued s r now) (user?_counted (Store.issued_users s r now) rfl)
  | revoke p hp revokedBy reason =>
    obtain rfl := Option.some.inj hx
    obtain ⟨q, hq, -⟩ := Effect.answering_eq_ok.mp hok
    obtain ⟨o, ho, -, hrevoked⟩ := Ledger.of_revokeEffect_eq_ok hq
    obtain rfl := Option.some.inj ((h.exclusive.ids.find?_key hp).symm.trans ho)
    obtain ⟨-, -, score, -, rfl⟩ := Ledger.revokePenaltyEffect_eq_ok.mp hrevoked
    exact .setScore (.revoked (howner p hp) _ _ _) (user?_counted rfl rfl)
  | submitAppeal p hp userId reason =>
    obtain rfl := Option.some.inj hx
    obtain ⟨a, ha, -⟩ := Effect.answering_eq_ok.mp hok
    obtain ⟨q, hq, -, -, -, -, rfl⟩ := Appeals.of_submitEffect_eq_ok ha
    obtain rfl := Option.some.inj ((h.exclusive.ids.find?_key hp).symm.trans hq)
    exact .of_users_eq (.appealed (howner p hp) reason now) rfl rfl
  | reviewAppeal a p ha hp hap reviewerId decision notes =>
    rcases hd : Appeal.Decision.ofText decision with e | d
    · rw [effect?_of_unread hd] at hx
      obtain rfl := Option.some.inj hx
      cases hok
    · rw [effect?_of_read hd] at hx
      obtain rfl := Option.some.inj hx
      obtain ⟨b, hb, -⟩ := Effect.answering_eq_ok.mp hok
      obtain ⟨a', q, status, w, ha', hq, hsettled, -, rfl⟩ := Appeals.of_reviewEffect_eq_ok hb
      obtain ⟨hfind, -⟩ := Option.filter_eq_some_iff.mp ha'
      obtain rfl := Option.some.inj ((h.appealIds.find?_key ha).symm.trans hfind)
      obtain rfl := Option.some.inj ((h.exclusive.ids.find?_key hp).symm.trans (hap ▸ hq))
      refine Carried.resolved (.of_settled (howner p hp) hsettled rfl) ?_ _ _ _ _
      rw [hsettled.kept.1]
      intro a' ha' hid
      rw [h.appealIds.eq_of_key_eq ha' ha hid]
      exact (h.against ha hp hap).user

theorem carried_of_run (h : s.docket.Sound) (hc : c.Concerns s u) {ans : Answer}
    (hrun : c.run systemId now s = (.ok ans, t)) : Carried c u s t := by
  obtain ⟨x, hx⟩ : ∃ x, c.effect? s now = some x := by
    cases hc with
    | reviewAppeal a p ha hp hap reviewerId decision notes =>
      rcases hd : Appeal.Decision.ofText decision with e | d
      · exact ⟨_, effect?_of_unread hd⟩
      · exact ⟨_, effect?_of_read hd⟩
    | _ => exact ⟨_, rfl⟩
  rw [run_of_effect? h hx] at hrun
  exact carried_of_effect? h hc hx (Effect.eq_ok_of_on hrun)

/-- Refused or not, the call leaves everybody else alone. -/
theorem onlyOf_run (h : s.docket.Sound) (hc : c.Concerns s u) (systemId : Int) (now : Instant) :
    Store.OnlyOf u s (c.run systemId now s).2 := by
  rcases hrun : c.run systemId now s with ⟨e | ans, t⟩
  · rw [Work.store_of_commit_error hrun]
    exact .refl u s
  · exact (carried_of_run h hc hrun).others

/-! ### What is asked about a user -/

/-- The call asks about the user. -/
def AsksAbout (u : Int) : Call → Prop
  | .profile id | .requiresApproval id | .admission id | .ban id => id = u
  | .activePenalty id | .nextPenalty id | .penaltiesOf id | .appealsOf id => id = u
  | _ => False

end Call

namespace Store

variable {s t : Store} {v : Int}

theorem user?_of_holdings (h : t.holdings v = s.holdings v) : t.user? v = s.user? v := by
  have husers : t.users.owned Member.id v = s.users.owned Member.id v :=
    congrArg Holdings.users h
  have hfirst : ∀ w : Store, (w.users.owned Member.id v).head? = w.user? v :=
    fun _ => List.head?_filter
  rw [← hfirst t, ← hfirst s, husers]

theorem penaltiesOf_of_holdings (h : t.holdings v = s.holdings v) :
    t.penaltiesOf v = s.penaltiesOf v := congrArg (fun o => o.penalties.reverse) h

theorem appealsOf_of_holdings (h : t.holdings v = s.holdings v) :
    t.appealsOf v = s.appealsOf v := congrArg (fun o => o.appeals.reverse) h

theorem activePenalty?_of_holdings (h : t.holdings v = s.holdings v) :
    t.activePenalty? v = s.activePenalty? v := by
  have hpenalties : t.penalties.owned Penalty.userId v = s.penalties.owned Penalty.userId v :=
    congrArg Holdings.penalties h
  have hfirst : ∀ w : Store, (w.penalties.owned Penalty.userId v).find?
      (fun p => p.status = .active) = w.activePenalty? v := fun w => by
    unfold activePenalty? Table.owned
    simp only [List.find?_filter, Bool.decide_and, Bool.decide_eq_true]
  rw [← hfirst t, ← hfirst s, hpenalties]

end Store

namespace Call

variable {s t : Store} {u v systemId : Int} {now : Instant} {c : Call}

/-- What is asked about a user is answered from what belongs to the user. -/
theorem answer_of_holdings (hc : c.AsksAbout v) (h : t.holdings v = s.holdings v)
    (systemId : Int) (now : Instant) :
    (c.run systemId now t).1 = (c.run systemId now s).1 := by
  have hmember : Reputation.requireMember t v = Reputation.requireMember s v := by
    unfold Reputation.requireMember
    rw [Store.user?_of_holdings h]
  have hlook : ∀ g : Member → Answer,
      (Work.commit (do return g (← Reputation.requireMember (← Work.current) v)) t).1 =
        (Work.commit (do return g (← Reputation.requireMember (← Work.current) v)) s).1 := by
    intro g
    rw [Work.commit_look (fun w => Reputation.requireMember w v),
      Work.commit_look (fun w => Reputation.requireMember w v), hmember]
  have hforce : t.penaltyInForce? v now = s.penaltyInForce? v now := by
    unfold Store.penaltyInForce?
    rw [Store.activePenalty?_of_holdings h]
  cases c with
  | profile id =>
    obtain rfl : id = v := hc
    exact hlook fun m => .profile m.profile
  | requiresApproval id =>
    obtain rfl : id = v := hc
    exact hlook fun m => .truth m.requiresApproval
  | admission id =>
    obtain rfl : id = v := hc
    exact hlook fun m => .admission (.ofRequirement m.requiresApproval)
  | ban id =>
    obtain rfl : id = v := hc
    have hban : t.ban? id now = s.ban? id now := by
      unfold Store.ban?
      rw [hforce]
    exact congrArg (fun p => Except.ok (Answer.maybePenalty p)) hban
  | activePenalty id =>
    obtain rfl : id = v := hc
    exact congrArg (fun p => Except.ok (Answer.maybePenalty p)) hforce
  | nextPenalty id =>
    obtain rfl : id = v := hc
    exact congrArg (fun ps => Except.ok (Answer.kind (Penalty.nextKind ps now)))
      (Store.penaltiesOf_of_holdings h)
  | penaltiesOf id =>
    obtain rfl : id = v := hc
    exact congrArg (fun ps => Except.ok (Answer.penalties ps)) (Store.penaltiesOf_of_holdings h)
  | appealsOf id =>
    obtain rfl : id = v := hc
    exact congrArg (fun as => Except.ok (Answer.appeals as)) (Store.appealsOf_of_holdings h)
  | _ => exact hc.elim

end Call

/-! ## The user's own row -/

/-- The columns that no service writes are the same in both rows. -/
structure Member.SameAccount (m n : Member) : Prop where
  id : n.id = m.id
  username : n.username = m.username
  isAdmin : n.isAdmin = m.isAdmin
  approvalOverride : n.approvalOverride = m.approvalOverride
  createdAt : n.createdAt = m.createdAt

theorem Member.SameAccount.refl (m : Member) : m.SameAccount m := ⟨rfl, rfl, rfl, rfl, rfl⟩

theorem Member.counter_bump (m : Member) (k l : Counter) :
    (m.bump k).counter l = m.counter l + if k = l then 1 else 0 := by
  cases k <;> cases l <;> simp [bump, counter]

namespace Call

variable {s t : Store} {u : Int} {c : Call}

/-- How many events of a kind the call counts for a user. -/
def counts (k : Member.Counter) : Call → Int
  | .record l _ => if l = k then 1 else 0
  | _ => 0

theorem sameAccount_counted (c : Call) (m : Member) (score : Int) :
    m.SameAccount { c.counted m with trustScore := score } := by
  cases c with
  | record k userId => cases k <;> exact ⟨rfl, rfl, rfl, rfl, rfl⟩
  | _ => exact ⟨rfl, rfl, rfl, rfl, rfl⟩

theorem counter_counted (c : Call) (m : Member) (k : Member.Counter) :
    (c.counted m).counter k = m.counter k + c.counts k := by
  cases c with
  | record l userId => exact m.counter_bump l k
  | _ => exact (Int.add_zero _).symm

end Call

namespace Session

variable {f : Session} {a : Action} {c : Call}

theorem store_of_refused (ha : a.call? = some c) (hans : f.answer? a = none) :
    (c.run f.systemId f.now f.store).2 = f.store := by
  unfold answer? at hans
  rw [ha, Option.bind_some] at hans
  exact Work.commit_of_refused (by rw [Option.isNone_iff_eq_none]; exact hans)

/-- A user is left alone by everything that is done about another one, refused or not: the user's
row, penalties, appeals, ideas and comments stay as they are, as do all flags and keywords, and what
is asked about the user is answered as before, at any time. In the row of the user whom the call is
about, nothing changes but the score, and in a reputation event the one counter, which grows by
one. -/
theorem users_do_not_disturb_each_other (systemId : Option Int) (start : Instant) (index : Bool)
    (as : List Action) (a : Action) (c : Call) (u : Int) :
    let f := (fresh systemId start index).after as
    let g := (f.step a).2
    a.call? = some c → c.Concerns f.store u →
    (∀ v, v ≠ u → g.store.holdings v = f.store.holdings v ∧
      ∀ q : Call, q.AsksAbout v → ∀ now,
        (q.run g.systemId now g.store).1 = (q.run f.systemId now f.store).1) ∧
    g.store.flags = f.store.flags ∧ g.store.keywords = f.store.keywords ∧
    (f.answer? a = none → g = f) ∧
    (f.store.user? u = none → g.store.user? u = none) ∧
    ∀ m, f.store.user? u = some m → ∃ n, g.store.user? u = some n ∧ m.SameAccount n ∧
      ∀ k, n.counter k = m.counter k + if (f.answer? a).isSome then c.counts k else 0 := by
  intro f g ha hc
  have h : f.store.docket.Sound := sound_run systemId start index as
  have hg : g = { f with store := (c.run f.systemId f.now f.store).2 } := step_of_call? ha
  have honly : Store.OnlyOf u f.store g.store := by
    rw [hg]
    exact Call.onlyOf_run h hc f.systemId f.now
  refine ⟨fun v hv => ⟨honly.holdings v hv, fun q hq now => ?_⟩, honly.flags, honly.keywords, ?_⟩
  · have hsystem : g.systemId = f.systemId := by rw [hg]
    rw [hsystem]
    exact Call.answer_of_holdings hq (honly.holdings v hv) f.systemId now
  rcases hans : f.answer? a with - | ans
  · have hkept : g = f := by
      rw [hg, store_of_refused ha hans]
    rw [hkept]
    exact ⟨fun _ => rfl, id, fun m hm => ⟨m, hm, .refl m, fun k => (Int.add_zero _).symm⟩⟩
  · obtain ⟨-, score, hown⟩ := Call.carried_of_run h hc (run_of_answer? ha hans)
    refine ⟨nofun, fun hnone => ?_, fun m hm => ?_⟩
    · exact hown.trans (by rw [hnone]; rfl)
    · refine ⟨_, hown.trans (by rw [hm]; rfl), c.sameAccount_counted m (score m), fun k => ?_⟩
      exact c.counter_counted m k

/-- Two users have a comment waiting for approval, and one of them has been warned. -/
def twoUsers : List Action :=
  [.write (.createUser { username := "offender" }),
    .write (.createUser { username := "moderator" }),
    .write (.createComment 2 false), .write (.createComment 3 false),
    .call (.issue ⟨3, .warning, "tone", 1, [], false⟩)]

/-- The moderator who bans the offender keeps comment, warning and score. -/
theorem issuer_left_alone :
    let f := (fresh (some 1) ⟨1748779200, 0⟩ true).after twoUsers
    let a : Action := .call (.issue ⟨2, .weekBan, "spam", 3, [], true⟩)
    let g := (f.step a).2
    (f.answer? a).isSome = true ∧ g.store.comments ≠ f.store.comments ∧
      g.store.holdings 3 = f.store.holdings 3 ∧
      ((Call.activePenalty 3).run g.systemId f.now g.store).1 =
        ((Call.activePenalty 3).run f.systemId f.now f.store).1 ∧
      ∀ m, f.store.user? 2 = some m → ∃ n, g.store.user? 2 = some n ∧ m.SameAccount n := by
  intro f a g
  have hissued : (f.answer? a).isSome = true := by decide +kernel
  have hremoved : g.store.comments ≠ f.store.comments := by decide +kernel
  obtain ⟨hothers, -, -, -, -, hown⟩ :=
    users_do_not_disturb_each_other (some 1) ⟨1748779200, 0⟩ true twoUsers a
      (.issue ⟨2, .weekBan, "spam", 3, [], true⟩) 2 rfl (.issue _)
  obtain ⟨hholdings, hanswers⟩ := hothers 3 (by decide)
  refine ⟨hissued, hremoved, hholdings, hanswers (.activePenalty 3) rfl f.now, fun m hm => ?_⟩
  obtain ⟨n, hn, haccount, -⟩ := hown m hm
  exact ⟨n, hn, haccount⟩

end Session

end CivicForum
