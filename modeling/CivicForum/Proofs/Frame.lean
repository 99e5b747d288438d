import CivicForum.Proofs.Session

/-! # What calls leave alone

* `Store.userIds`: which users there are.
* `Store.reports`: the watchlist and the flags; `Store.frame`: both. No statement on scores,
  counters, penalties, appeals or content writes them.
* `Call.frames_work`: only calls on the watchlist write any of it.
* `Session.contains_after`: nobody ever leaves the forum.
* `Session.sound_users_after`: no two users of a reachable forum share an identifier.
-/

set_option autoImplicit false

namespace CivicForum

open Work

/-- The identifiers of the users, and the last one that was given out. -/
def Store.userIds (s : Store) : List Int × Int := (s.users.rows.map Keyed.key, s.users.lastId)

/-- The watchlist and the flags. -/
def Store.reports (s : Store) : Table Watch.Entry × Table Flag := (s.keywords, s.flags)

/-- What statements on scores, counters, penalties, appeals and content leave alone. -/
def Store.frame (s : Store) : (List Int × Int) × Table Watch.Entry × Table Flag :=
  (s.userIds, s.reports)

/-! ## Work that only checks -/

namespace Work.Keeps

variable {γ α : Type} {f : Store → γ}

theorem discard {w : Work α} (hw : Keeps f w) : Keeps f (discard w) :=
  fun s => .discard (hw s)

theorem refuse {e : Refusal} {β : Type} {g : β → Work α} :
    Keeps f ((MonadExcept.throw e : Work β) >>= g) := fun _ => .bind (.throw trivial)

/-- A handler that refuses in any case writes nothing either. -/
theorem tryCatch {w : Work α} {handler : Refusal → Work α} (hw : Keeps f w)
    (hhandler : ∀ e, ∃ e', handler e = MonadExcept.throw e') : Keeps f (tryCatch w handler) := by
  intro s
  refine .tryCatch ((hw s).mono (fun _ ht => ht) (fun _ _ ht => ht) fun e _ t => ?_)
  obtain ⟨e', he⟩ := hhandler e
  rw [he]
  exact .throw trivial

theorem check {s : Store} {α β : Type} {w : Work α} {g : α → Work β}
    (hw : Keeps (fun t : Store => t) w)
    (hg : ∀ a, Yields (fun t => f t = f s) s (g a) (fun _ t => f t = f s) fun _ => True) :
    Yields (fun t => f t = f s) s (w >>= g) (fun _ t => f t = f s) fun _ => True := by
  refine .bind ((hw s).mono (fun t ht => congrArg f ht) (fun a t ht => ?_) fun _ he => he)
  obtain rfl : t = s := ht
  exact hg a

end Work.Keeps

namespace Statement

variable {γ : Type} {f : Store → γ}

theorem keeps_freshId {α : Type} [Keyed α] {t : Table α} : Keeps f (freshId t) :=
  fun _ => yields_freshId (fun _ => trivial) fun _ => rfl

theorem keeps_requireUser {t : Store} {id : Int} : Keeps f (requireUser t id) :=
  fun _ => yields_requireUser (fun _ => trivial) fun _ => rfl

theorem keeps_requireOneActive {t : Store} {userId : Int} {apartFrom : Option Int} :
    Keeps f (requireOneActive t userId apartFrom) := by
  unfold requireOneActive
  split
  · exact .throw
  · exact .pure

/-! ## Statements on users, penalties, appeals and content -/

theorem keys_update {α : Type} [Keyed α] (t : Table α) (id : Int) {g : α → α}
    (hg : ∀ r, Keyed.key (g r) = Keyed.key r) :
    (t.update id g).rows.map Keyed.key = t.rows.map Keyed.key := by
  rw [Table.update_eq_mapRows, Table.mapRows_rows, List.map_map]
  refine List.map_congr_left fun r _ => ?_
  rw [Function.comp_apply]
  split
  · exact hg r
  · rfl

theorem frame_setScore (s : Store) (id score : Int) :
    (s.setScore id score).frame = s.frame := by
  have hkeys := keys_update s.users id (g := fun m => { m with trustScore := score }) fun _ => rfl
  unfold Store.frame Store.userIds
  rw [← hkeys]
  rfl

theorem frame_raised (s : Store) (id : Int) (c : Member.Counter) :
    (s.raised id c).frame = s.frame := by
  have hkeys := keys_update s.users id (g := fun m => m.bump c) fun m => by cases c <;> rfl
  unfold Store.frame Store.userIds
  rw [← hkeys]
  rfl

theorem frames_setTrustScore {id score : Int} : Keeps Store.frame (setTrustScore id score) :=
  fun s => yields_setTrustScore (frame_setScore s id score) (frame_setScore s id score)

theorem frames_raiseCounter {id : Int} {c : Member.Counter} :
    Keeps Store.frame (raiseCounter id c) :=
  fun s => yields_raiseCounter (fun _ => rfl) (fun _ _ _ => trivial) (frame_raised s id c)
    fun _ _ _ => frame_raised s id c

theorem frames_insertPenalty {r : Penalty.Request} {now : Instant} :
    Keeps Store.frame (insertPenalty r now) := by
  refine fun s => .bind (.current (Keeps.check keeps_freshId fun id => ?_))
  refine Keeps.check keeps_requireOneActive fun _ => Keeps.check keeps_requireUser fun _ => ?_
  exact Keeps.check keeps_requireUser fun _ => Keeps.put rfl

theorem frames_setPenaltyStatus {id : Int} {status : Penalty.Status} :
    Keeps Store.frame (setPenaltyStatus id status) := by
  refine fun s => .bind (.current ?_)
  rcases s.penalty? id with - | p
  · exact .fault trivial
  · dsimp only
    split
    · exact Keeps.check keeps_requireOneActive fun _ => Keeps.put rfl
    · exact Keeps.put rfl

theorem frames_markRevoked {id revokedBy : Int} {revokedAt : Instant} {reason : String} :
    Keeps Store.frame (markRevoked id revokedBy revokedAt reason) := by
  refine fun s => .bind (.current ?_)
  rcases s.penalty? id with - | p
  · exact .fault trivial
  · exact Keeps.check keeps_requireUser fun _ => Keeps.put rfl

theorem frames_insertAppeal {penaltyId userId : Int} {reason : String} {now : Instant} :
    Keeps Store.frame (insertAppeal penaltyId userId reason now) := by
  refine fun s => .bind (.current (Keeps.check keeps_freshId fun id => ?_))
  dsimp only
  split
  · exact .bind (.fault trivial)
  split
  · exact .bind (.fault trivial)
  · exact Keeps.check keeps_requireUser fun _ => Keeps.put rfl

theorem frames_resolveAppeal {id reviewedBy : Int} {status : Appeal.Status}
    {reviewedAt : Instant} {notes : String} :
    Keeps Store.frame (resolveAppeal id status reviewedBy reviewedAt notes) := by
  refine fun s => .bind (.current ?_)
  rcases s.appeal? id with - | a
  · exact .fault trivial
  · exact Keeps.check keeps_requireUser fun _ => Keeps.put rfl

theorem frames_removeIdeas {userId : Int} {reason : String} {now : Instant} :
    Keeps Store.frame (removeIdeas userId reason now) :=
  fun _ => .bind (.current (.put rfl rfl))

theorem frames_removeComments {userId : Int} {reason : String} {now : Instant} :
    Keeps Store.frame (removeComments userId reason now) :=
  fun _ => .bind (.current (.put rfl rfl))

theorem frames_insertIdea {userId : Int} {status : String} :
    Keeps Store.frame (insertIdea userId status) := by
  refine fun s => .bind (.current (Keeps.check keeps_freshId fun id => ?_))
  exact Keeps.check keeps_requireUser fun _ => Keeps.put rfl

theorem frames_insertComment {userId : Int} {isApproved : Bool} :
    Keeps Store.frame (insertComment userId isApproved) := by
  refine fun s => .bind (.current (Keeps.check keeps_freshId fun id => ?_))
  exact Keeps.check keeps_requireUser fun _ => Keeps.put rfl

end Statement

/-! ## Services -/

open Statement

theorem Reputation.frames_recalculate {userId : Int} {now : Instant} :
    Keeps Store.frame (recalculate userId now) :=
  .bind .current fun _ => .bind .lift fun _ => .bind frames_setTrustScore fun _ => .pure

theorem Reputation.frames_record {c : Member.Counter} {userId : Int} {now : Instant} :
    Keeps Store.frame (record c userId now) := by
  refine .bind frames_raiseCounter fun counted => ?_
  split
  · exact .refuse
  · exact frames_recalculate

namespace Ledger

variable {now : Instant}

theorem frames_expireElapsed {userId : Int} : Keeps Store.frame (expireElapsed userId now) := by
  refine .bind .current fun s => ?_
  rcases s.activePenalty? userId with - | p
  · exact .pure
  · dsimp only
    split
    · exact .discard frames_setPenaltyStatus
    · exact .pure

theorem frames_supersede {userId : Int} {kind : Penalty.Kind} :
    Keeps Store.frame (supersede userId kind) := by
  refine .bind .current fun s => ?_
  rcases s.activePenalty? userId with - | p
  · exact .pure
  · dsimp only
    split
    · exact .refuse
    · exact .discard frames_setPenaltyStatus

theorem frames_makeWay {r : Penalty.Request} : Keeps Store.frame (makeWay r now) := by
  refine .bind (fun _ => yields_lockUser rfl rfl) fun found => ?_
  split
  · exact .refuse
  · exact .bind frames_expireElapsed fun _ => frames_supersede

theorem frames_enter {r : Penalty.Request} : Keeps Store.frame (enter r now) := by
  refine .tryCatch frames_insertPenalty fun e => ?_
  split
  · exact ⟨_, rfl⟩
  · exact ⟨_, rfl⟩

theorem frames_removeContent {r : Penalty.Request} : Keeps Store.frame (removeContent r now) := by
  unfold removeContent
  split
  · exact .bind frames_removeIdeas fun _ => frames_removeComments
  · exact .pure

theorem frames_issue {r : Penalty.Request} : Keeps Store.frame (issue r now) := by
  refine .bind frames_makeWay fun _ => .bind frames_enter fun p => ?_
  refine .bind frames_removeContent fun _ => ?_
  exact .bind (.discard Reputation.frames_recalculate) fun _ => .pure

theorem frames_revokePenalty {p : Penalty} {revokedBy : Int} {reason : String} :
    Keeps Store.frame (revokePenalty p revokedBy reason now) :=
  .bind frames_markRevoked fun _ =>
    .bind (.discard Reputation.frames_recalculate) fun _ => .pure

theorem frames_revoke {id revokedBy : Int} {reason : String} :
    Keeps Store.frame (revoke id revokedBy reason now) := by
  refine .bind .current fun s => .bind .lift fun p => ?_
  split
  · exact .refuse
  · exact frames_revokePenalty

theorem frames_expireAll (ps : List Penalty) : Keeps Store.frame (expireAll ps) := by
  induction ps with
  | nil => exact .pure
  | cons p rest ih => exact .bind (.discard frames_setPenaltyStatus) fun _ => ih

theorem frames_sweep : Keeps Store.frame (sweep now) :=
  .bind .current fun _ => .bind (frames_expireAll _) fun _ => .pure

theorem frames_reinstate {p : Penalty} : Keeps Store.frame (reinstate p) := by
  refine .bind .current fun s => ?_
  rcases s.activePenalty? p.userId with - | other
  · exact frames_setPenaltyStatus
  · dsimp only
    split
    · exact frames_setPenaltyStatus
    · exact .bind (.discard frames_setPenaltyStatus) fun _ => frames_setPenaltyStatus

end Ledger

namespace Appeals

variable {now : Instant}

theorem frames_enter {penaltyId userId : Int} {reason : String} :
    Keeps Store.frame (enter penaltyId userId reason now) := by
  refine .tryCatch frames_insertAppeal fun e => ?_
  split
  · exact ⟨_, rfl⟩
  · exact ⟨_, rfl⟩

theorem frames_submit {penaltyId userId : Int} {reason : String} :
    Keeps Store.frame (submit penaltyId userId reason now) := by
  refine .bind .current fun s => .bind .lift fun p => ?_
  dsimp only
  split
  · exact .refuse
  split
  · exact .refuse
  · exact .bind frames_enter fun a => .bind (.discard frames_setPenaltyStatus) fun _ => .pure

theorem frames_decide {p : Penalty} {reviewerId : Int} {d : Appeal.Decision} {notes : String} :
    Keeps Store.frame (decide p reviewerId d notes now) := by
  cases d with
  | approve => exact .bind (.discard Ledger.frames_revokePenalty) fun _ => .pure
  | reject => exact .bind (.discard Ledger.frames_reinstate) fun _ => .pure

theorem frames_review {id reviewerId : Int} {d : Appeal.Decision} {notes : String} :
    Keeps Store.frame (review id reviewerId d notes now) := by
  refine .bind .current fun s => .bind .lift fun a => .bind .lift fun p => ?_
  exact .bind frames_decide fun _ => frames_resolveAppeal

end Appeals

/-! ## Calls and writes -/

namespace Call

variable {now : Instant} {c : Call} {systemId : Int}

/-- The calls that write the watchlist or flags. -/
def WritesWatchlist : Call → Prop
  | .addKeyword .. | .setKeywordActive .. | .scan .. => True
  | _ => False

theorem frames_work (hc : ¬ c.WritesWatchlist) : Keeps Store.frame (c.work systemId now) := by
  by_cases hquery : c.IsQuery
  · exact keeps_of_isQuery hquery
  · cases c with
    | recalculate userId => exact .bind Reputation.frames_recalculate fun _ => .pure
    | record c userId => exact .bind Reputation.frames_record fun _ => .pure
    | issue r => exact .bind Ledger.frames_issue fun _ => .pure
    | revoke id revokedBy reason => exact .bind Ledger.frames_revoke fun _ => .pure
    | sweep => exact .bind Ledger.frames_sweep fun _ => .pure
    | submitAppeal penaltyId userId reason => exact .bind Appeals.frames_submit fun _ => .pure
    | reviewAppeal id reviewerId decision notes =>
      exact .bind .lift fun d => .bind Appeals.frames_review fun _ => .pure
    | addKeyword keyword isPattern flagReason => exact absurd trivial hc
    | setKeywordActive id isActive => exact absurd trivial hc
    | scan content kind contentId => exact absurd trivial hc
    | _ => exact absurd trivial hquery

theorem keeps_userIds (c : Call) : Keeps Store.userIds (c.work systemId now) := by
  by_cases hwatch : c.WritesWatchlist
  · have hregistry : Keeps Store.registry (c.work systemId now) := by
      cases c with
      | addKeyword | setKeywordActive | scan => exact keeps_registry id id
      | _ => exact hwatch.elim
    exact hregistry.comp fun r => (r.1.rows.map Keyed.key, r.1.lastId)
  · exact (frames_work hwatch).comp Prod.fst

end Call

namespace Statement

/-- A new user gets an identifier that nobody has. -/
theorem yields_insertUser {J : Store → Prop} {s : Store} {u : NewUser} {now : Instant}
    {Q : Member → Store → Prop} (hJ : ∀ m, J { s with users := s.users.insert m })
    (hQ : ∀ m : Member, (s.users.Sound → s.users.contains m.id = false) →
      Q m { s with users := s.users.insert m }) :
    Yields J s (insertUser u now) Q fun _ => True := by
  have hid : Yields J s (newUserId s u)
      (fun id t => (s.users.Sound → s.users.contains id = false) ∧ t = s) fun _ => True := by
    unfold newUserId
    split
    · split
      · exact .fault trivial
      · next hnew => exact .pure ⟨fun _ => eq_false_of_ne_true hnew, rfl⟩
    · exact yields_freshId (fun _ => trivial) fun _ => ⟨fun h => h.contains_nextId, rfl⟩
  refine .bind (.current (.bind (hid.imp ?_)))
  rintro id t ⟨hnew, rfl⟩
  exact .bind (yields_requireNewName (.bind (.put (hJ _) (.pure (hQ _ hnew)))))

end Statement

/-- Users are left as they are, or one is added. -/
theorem PlatformWrite.users_run (w : PlatformWrite) (now : Instant) (s : Store) :
    (w.run now s).2.users = s.users ∨ ∃ m : Member,
      (s.users.Sound → s.users.contains m.id = false) ∧
        (w.run now s).2.users = s.users.insert m := by
  by_cases hw : ∃ u, w = .createUser u
  · obtain ⟨u, rfl⟩ := hw
    have hinsert : Yields (fun _ => True) s (work (.createUser u) now)
        (fun _ t => ∃ m : Member, (s.users.Sound → s.users.contains m.id = false) ∧
          t.users = s.users.insert m) fun _ => True :=
      .bind (yields_insertUser (fun _ => trivial) fun m hnew => .pure ⟨m, hnew, rfl⟩)
    rcases hrun : (work (.createUser u) now).commit s with ⟨e | r, t⟩
    · obtain rfl := store_of_commit_error hrun
      exact .inl (congrArg (fun x => x.2.users) hrun)
    · obtain ⟨m, hnew, ht⟩ := hinsert.of_commit_ok hrun
      exact .inr ⟨m, hnew, (congrArg (fun x => x.2.users) hrun).trans ht⟩
  · have hregistry : Keeps Store.registry (w.work now) := keeps_registry (not_exists.mp hw)
    have husers : Keeps Store.users (w.work now) := hregistry.comp Prod.fst
    exact .inl ((husers s).of_commit (R := fun t => t.users = s.users) rfl fun _ _ ht => ht)

/-- The writes of the rest of the platform that concern the watchlist or flags. -/
def PlatformWrite.WritesReports : PlatformWrite → Prop
  | .createFlag .. | .setFlagStatus .. | .addKeyword .. => True
  | _ => False

theorem PlatformWrite.keeps_reports {w : PlatformWrite} (hw : ¬ w.WritesReports) {now : Instant} :
    Keeps Store.reports (w.work now) := by
  cases w with
  | createUser u =>
    exact .bind (fun _ => yields_insertUser (fun _ => rfl) fun _ _ => rfl) fun _ => .pure
  | createIdea userId status =>
    have hkeeps := (@frames_insertIdea userId status).comp Prod.snd
    exact .bind hkeeps fun _ => .pure
  | createComment userId isApproved =>
    have hkeeps := (@frames_insertComment userId isApproved).comp Prod.snd
    exact .bind hkeeps fun _ => .pure
  | _ => exact absurd trivial hw

/-! ## Runs -/

namespace Session

variable {f : Session}

theorem systemId_step (a : Action) : (f.step a).2.systemId = f.systemId := by
  cases a with
  | call c => rw [step_of_call? rfl]
  | write w => rw [step_write]
  | request r => rfl
  | advance span => rfl
  | setClock t => rfl

theorem systemId_after (as : List Action) : (f.after as).systemId = f.systemId := by
  induction as generalizing f with
  | nil => rfl
  | cons a as ih => exact ih.trans (systemId_step a)

theorem userIds_step_of_call? {a : Action} {c : Call} (h : a.call? = some c) :
    (f.step a).2.store.userIds = f.store.userIds := by
  rw [step_of_call? h]
  exact (c.keeps_userIds f.store).of_commit (R := fun t => t.userIds = f.store.userIds) rfl
    fun _ _ ht => ht

/-- An action leaves the identifiers of users as they are, or adds a user. -/
theorem userIds_step (a : Action) : (f.step a).2.store.userIds = f.store.userIds ∨
    ∃ m : Member, (f.store.users.Sound → f.store.users.contains m.id = false) ∧
      (f.step a).2.store.users = f.store.users.insert m := by
  rcases hc : a.call? with - | c
  · rcases store_step_of_call?_eq_none hc with hkept | ⟨w, rfl⟩
    · exact .inl (by rw [hkept])
    · rw [step_write]
      refine (w.users_run f.now f.store).imp_left fun husers => ?_
      unfold Store.userIds
      rw [husers]
  · exact .inl (userIds_step_of_call? hc)

theorem contains_step {id : Int} (h : f.store.users.contains id = true) (a : Action) :
    (f.step a).2.store.users.contains id = true := by
  rcases userIds_step (f := f) a with hkept | ⟨m, -, hadded⟩
  · obtain ⟨hkeys, -⟩ := Prod.mk.inj hkept
    rwa [← Table.mem_keys_iff, hkeys, Table.mem_keys_iff]
  · rw [hadded]
    exact Table.contains_insert h

theorem contains_after {id : Int} (h : f.store.users.contains id = true) (as : List Action) :
    (f.after as).store.users.contains id = true := by
  induction as generalizing f with
  | nil => exact h
  | cons a as ih => exact ih (contains_step h a)

theorem sound_users_step (h : f.store.users.Sound) (a : Action) :
    (f.step a).2.store.users.Sound := by
  rcases userIds_step (f := f) a with hkept | ⟨m, hnew, hadded⟩
  · obtain ⟨hkeys, hlast⟩ := Prod.mk.inj hkept
    exact h.of_keys_eq hkeys hlast
  · rw [hadded]
    exact h.insert_of_new (hnew h)

theorem sound_users_fresh (systemId : Option Int) (now : Instant) (index : Bool) :
    (fresh systemId now index).store.users.Sound := by
  cases systemId with
  | none => exact Table.sound_empty
  | some id => exact Table.sound_empty.insert_of_new rfl

theorem sound_users_after (h : f.store.users.Sound) (as : List Action) :
    (f.after as).store.users.Sound := by
  induction as generalizing f with
  | nil => exact h
  | cons a as ih => exact ih (sound_users_step h a)

end Session

end CivicForum
