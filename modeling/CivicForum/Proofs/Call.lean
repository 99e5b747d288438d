import CivicForum.Forum.Platform
import CivicForum.Forum.Call
import CivicForum.Proofs.Appeal.Operations

/-! # What calls and writes do to penalties and appeals

* `Statement.keeps_insertFlag`, `Statement.keeps_insertUser`, …: statements on other tables leave
  both alone; those on content, flags and the watchlist leave users alone, too.
* `Call.IsQuery`: the calls that only look something up; they write nothing at all.
* `Call.yields_move`: every call makes one move, and every statement in it leaves at most one active
  penalty for each user.
* `PlatformWrite.keeps_work`: no other part of the platform touches either.
-/

set_option autoImplicit false

namespace CivicForum

open Work

/-- What statements on other tables leave alone. -/
def Store.core (s : Store) : Docket × Bool := (s.docket, s.oneActiveIndex)

/-- What statements on content, flags and the watchlist leave alone. -/
def Store.registry (s : Store) : Table Member × Docket × Bool := (s.users, s.core)

/-- The second store comes from the first one by a move. -/
structure Store.Moved (now : Instant) (s t : Store) : Prop where
  docket : Docket.Move now s.docket t.docket
  index : t.oneActiveIndex = s.oneActiveIndex

/-- Nothing moves where nothing is written. -/
theorem Store.moved_of_core_eq {s t : Store} (now : Instant) (h : t.core = s.core) :
    s.Moved now t := by
  obtain ⟨hdocket, hindex⟩ := Prod.mk.inj h
  refine ⟨?_, hindex⟩
  rw [hdocket]
  exact .rest

theorem Ledger.issued_core (s : Store) (r : Penalty.Request) (now : Instant) (score : Int) :
    ((s.issued r now).setScore r.userId score).core = (s.docket.withPenalties
      ((s.retire r.userId).penalties.insert (r.entry s.penalties.nextId now)),
      s.oneActiveIndex) := by
  unfold Store.issued
  dsimp only
  split <;> rfl

/-! ## Statements on other tables -/

namespace Statement

theorem keeps_setTrustScore {id score : Int} : Keeps Store.core (setTrustScore id score) :=
  fun _ => yields_setTrustScore rfl rfl

theorem keeps_raiseCounter {id : Int} {c : Member.Counter} :
    Keeps Store.core (raiseCounter id c) :=
  fun _ => yields_raiseCounter (fun _ => rfl) (fun _ _ _ => trivial) rfl fun _ _ _ => rfl

theorem yields_newUserId {J : Store → Prop} {s t : Store} {u : NewUser} {Q : Int → Store → Prop}
    (hQ : ∀ id, Q id s) : Yields J s (newUserId t u) Q fun _ => True := by
  unfold newUserId
  split
  · split
    · exact .fault trivial
    · exact .pure (hQ _)
  · exact yields_freshId (fun _ => trivial) fun _ => hQ _

theorem yields_requireNewName {J : Store → Prop} {s t : Store} {username : String}
    {Q : Unit → Store → Prop} (hQ : Q () s) :
    Yields J s (requireNewName t username) Q fun _ => True := by
  unfold requireNewName
  split
  · exact .fault trivial
  · exact .pure hQ

theorem keeps_insertUser {u : NewUser} {now : Instant} : Keeps Store.core (insertUser u now) :=
  fun _ => .bind (.current (.bind (yields_newUserId fun _ =>
    .bind (yields_requireNewName (Keeps.put rfl)))))

theorem keeps_ensureUser {id : Int} {username createdAt : String} :
    Keeps Store.core (ensureUser id username createdAt) := by
  refine fun s => .bind (.current ?_)
  split
  · exact .put rfl rfl
  · exact .put rfl rfl

theorem keeps_insertIdea {userId : Int} {status : String} :
    Keeps Store.registry (insertIdea userId status) := by
  refine fun s => .bind (.current (.bind (yields_freshId (fun _ => trivial) fun _ => ?_)))
  exact .bind (yields_requireUser (fun _ => trivial) fun _ => Keeps.put rfl)

theorem keeps_insertComment {userId : Int} {isApproved : Bool} :
    Keeps Store.registry (insertComment userId isApproved) := by
  refine fun s => .bind (.current (.bind (yields_freshId (fun _ => trivial) fun _ => ?_)))
  exact .bind (yields_requireUser (fun _ => trivial) fun _ => Keeps.put rfl)

theorem keeps_insertFlag {f : NewFlag} {now : Instant} :
    Keeps Store.registry (insertFlag f now) := by
  refine fun s => .bind (.current (.bind (yields_freshId (fun _ => trivial) fun _ => ?_)))
  exact .bind (yields_requireUser (fun _ => trivial) fun _ => Keeps.put rfl)

theorem keeps_setFlagStatus {id : Int} {status : Flag.Status} :
    Keeps Store.registry (setFlagStatus id status) :=
  fun _ => .bind (.current (Keeps.put rfl))

theorem keeps_insertKeyword {keyword : String} {isPattern : Bool} {flagReason : String}
    {now : Instant} : Keeps Store.registry (insertKeyword keyword isPattern flagReason now) :=
  fun _ => .bind (.current (.bind (yields_freshId (fun _ => trivial) fun _ => Keeps.put rfl)))

theorem keeps_setKeywordActive {id : Int} {isActive : Bool} :
    Keeps Store.registry (setKeywordActive id isActive) :=
  fun _ => .bind (.current (Keeps.put rfl))

theorem keeps_recordMatch {id : Int} : Keeps Store.registry (recordMatch id) :=
  fun _ => .bind (.current (.put rfl rfl))

end Statement

/-! ## Services on other tables -/

theorem Reputation.keeps_recalculate {userId : Int} {now : Instant} :
    Keeps Store.core (recalculate userId now) :=
  .bind .current fun _ => .bind .lift fun _ => .bind Statement.keeps_setTrustScore fun _ => .pure

theorem Reputation.keeps_record {c : Member.Counter} {userId : Int} {now : Instant} :
    Keeps Store.core (record c userId now) := by
  refine .bind Statement.keeps_raiseCounter fun counted => ?_
  split
  · exact .bind .throw fun _ => keeps_recalculate
  · exact keeps_recalculate

theorem Watch.keeps_raiseAll {systemId : Int} {kind : Content.Kind} {contentId : Int}
    {now : Instant} (entries : List Entry) :
    Keeps Store.registry (raiseAll systemId kind contentId now entries) := by
  induction entries with
  | nil => exact .pure
  | cons e rest ih =>
    refine .bind Statement.keeps_insertFlag fun f => ?_
    exact .bind Statement.keeps_recordMatch fun _ => .bind ih fun _ => .pure

theorem Watch.keeps_addKeyword {keyword : String} {isPattern : Bool} {flagReason : String}
    {now : Instant} : Keeps Store.registry (addKeyword keyword isPattern flagReason now) :=
  .bind .lift fun _ => Statement.keeps_insertKeyword

theorem Watch.keeps_setActive {id : Int} {isActive : Bool} :
    Keeps Store.registry (setActive id isActive) := by
  refine .bind Statement.keeps_setKeywordActive fun found => ?_
  cases found with
  | none => exact .throw
  | some e => exact .pure

/-! ## Calls and writes -/

variable {s : Store} {now : Instant}

theorem Store.Exclusive.of_core_eq {t : Store} (h : s.Exclusive) (ht : t.core = s.core) :
    t.Exclusive := by
  have hpenalties : t.penalties = s.penalties := congrArg (fun c => c.1.penalties) ht
  unfold Store.Exclusive
  rwa [hpenalties]

/-- Work on other tables is at rest with penalties and appeals. -/
theorem Work.Keeps.yields_rest {α : Type} {w : Work α} (hw : Keeps Store.core w) (now : Instant)
    (h : s.Exclusive) :
    Yields Store.Exclusive s w (fun _ t => s.Moved now t) fun _ => True :=
  (hw s).mono (fun _ ht => h.of_core_eq ht) (fun _ _ ht => Store.moved_of_core_eq now ht)
    fun _ he => he

namespace Call

/-- The calls that write penalties or appeals. -/
def MovesDocket : Call → Prop
  | .issue _ | .revoke .. | .sweep | .submitAppeal .. | .reviewAppeal .. => True
  | _ => False

/-- The calls that have a score computed anew and write nothing but users. -/
def MovesScore : Call → Prop
  | .recalculate _ | .record .. => True
  | _ => False

/-- The calls that only look something up. -/
def IsQuery : Call → Prop
  | .recalculate _ | .record .. | .issue _ | .revoke .. | .sweep => False
  | .submitAppeal .. | .reviewAppeal .. | .addKeyword .. | .setKeywordActive .. | .scan .. => False
  | _ => True

theorem keeps_of_isQuery {γ : Type} {f : Store → γ} {c : Call} (hc : c.IsQuery) {systemId : Int} :
    Keeps f (c.work systemId now) := by
  cases c with
  | profile userId => exact .bind .current fun _ => .bind .lift fun _ => .pure
  | level score => exact .pure
  | requiresApproval userId => exact .bind .current fun _ => .bind .lift fun _ => .pure
  | admission userId => exact .bind .current fun _ => .bind .lift fun _ => .pure
  | nextPenalty userId => exact .bind .current fun _ => .pure
  | activePenalty userId => exact .bind .current fun _ => .pure
  | ban userId => exact .bind .current fun _ => .pure
  | penaltiesOf userId => exact .bind .current fun _ => .pure
  | penalty id => exact .bind .current fun _ => .bind .lift fun _ => .pure
  | canAppeal penaltyId => exact .bind .current fun _ => .bind .lift fun _ => .pure
  | appeal id =>
    refine .bind .current fun s => ?_
    rcases s.appeal? id with - | a
    · exact .throw
    · exact .pure
  | pendingAppeals => exact .bind .current fun _ => .pure
  | appealsOf userId => exact .bind .current fun _ => .pure
  | weightFor reporterId => exact .bind .current fun _ => .bind .lift fun _ => .pure
  | weightedFlags kind contentId => exact .bind .current fun _ => .pure
  | keywords => exact .bind .current fun _ => .pure
  | _ => exact hc.elim

theorem run_store_of_isQuery {c : Call} (hc : c.IsQuery) (systemId : Int) :
    (c.run systemId now s).2 = s :=
  (keeps_of_isQuery (f := id) hc s).of_commit (R := fun t => t = s) rfl fun _ _ ht => ht

theorem keeps_registry {c : Call} (hdocket : ¬ c.MovesDocket) (hscore : ¬ c.MovesScore)
    {systemId : Int} : Keeps Store.registry (c.work systemId now) := by
  by_cases hquery : c.IsQuery
  · exact keeps_of_isQuery hquery
  · cases c with
    | addKeyword keyword isPattern flagReason => exact .bind Watch.keeps_addKeyword fun _ => .pure
    | setKeywordActive id isActive => exact .bind Watch.keeps_setActive fun _ => .pure
    | scan content kind contentId =>
      exact .bind (.bind .current fun _ => Watch.keeps_raiseAll _) fun _ => .pure
    | recalculate userId => exact absurd trivial hscore
    | record c userId => exact absurd trivial hscore
    | issue r => exact absurd trivial hdocket
    | revoke id revokedBy reason => exact absurd trivial hdocket
    | sweep => exact absurd trivial hdocket
    | submitAppeal penaltyId userId reason => exact absurd trivial hdocket
    | reviewAppeal id reviewerId decision notes => exact absurd trivial hdocket
    | _ => exact absurd trivial hquery

theorem keeps_work {c : Call} (hc : ¬ c.MovesDocket) {systemId : Int} :
    Keeps Store.core (c.work systemId now) := by
  by_cases hscore : c.MovesScore
  · cases c with
    | recalculate userId => exact .bind Reputation.keeps_recalculate fun _ => .pure
    | record c userId => exact .bind Reputation.keeps_record fun _ => .pure
    | _ => exact hscore.elim
  · exact (keeps_registry hc hscore).comp Prod.snd

/-- Every call makes one move, and every statement in it leaves at most one active penalty for each
user. -/
theorem yields_move (h : s.docket.Sound) (c : Call) (systemId : Int) :
    Yields Store.Exclusive s (c.work systemId now) (fun _ t => s.Moved now t) fun _ => True := by
  by_cases hc : c.MovesDocket
  · cases c with
    | issue r =>
      refine .bind (Ledger.yields_issue h.exclusive (fun _ => trivial) (fun _ _ _ => trivial)
        (fun _ => trivial) (fun _ => trivial) (fun _ _ => trivial) fun _ score _ => ?_)
      obtain ⟨hdocket, hindex⟩ := Prod.mk.inj (Ledger.issued_core s r now score)
      refine .pure ⟨?_, hindex⟩
      rw [hdocket]
      exact .issue r
    | revoke id revokedBy reason =>
      refine .bind ((Ledger.yields_revoke h.exclusive).mono (fun _ ht => ht) ?_ fun _ _ => trivial)
      rintro q t ⟨p, hp, rfl, hactive, -, score, -, rfl⟩
      exact .pure ⟨.revoke p revokedBy reason hp hactive, rfl⟩
    | sweep =>
      refine .bind ((Ledger.yields_sweep h.exclusive).imp ?_)
      rintro n t ⟨-, rfl⟩
      exact .pure ⟨.sweep, rfl⟩
    | submitAppeal penaltyId userId reason =>
      refine .bind ((Appeals.yields_submit h).mono (fun _ ht => ht) ?_ fun _ _ => trivial)
      rintro a t ⟨p, hp, rfl, rfl, hforce, hban, hnone, -, rfl⟩
      exact .pure ⟨.submit p reason hp hforce hban hnone, rfl⟩
    | reviewAppeal id reviewerId decision notes =>
      refine .bind (.lift (fun d _ => ?_) fun _ _ => trivial)
      refine .bind ((Appeals.yields_review h).mono (fun _ ht => ht) ?_ fun _ _ => trivial)
      rintro b t ⟨a, p, hpending, hap, status, u, hsettled, -, rfl⟩
      obtain ⟨rfl, -⟩ := Appeals.contests_of_pendingAppeal? h hpending
      exact .pure ⟨hsettled.move h hap, hsettled.kept.2⟩
    | _ => exact hc.elim
  · exact (keeps_work hc).yields_rest now h.exclusive

theorem moved_run (h : s.docket.Sound) (c : Call) (systemId : Int) :
    s.Moved now (c.run systemId now s).2 :=
  (c.yields_move h systemId).of_commit (Store.moved_of_core_eq now rfl) fun _ _ ht => ht

end Call

namespace PlatformWrite

/-- Apart from new users, the platform writes content, flags and keywords only. -/
theorem keeps_registry {w : PlatformWrite} (hw : ∀ u, w ≠ .createUser u) :
    Keeps Store.registry (w.work now) := by
  cases w with
  | createUser u => exact absurd rfl (hw u)
  | createIdea userId status => exact .bind Statement.keeps_insertIdea fun _ => .pure
  | createComment userId isApproved => exact .bind Statement.keeps_insertComment fun _ => .pure
  | createFlag f => exact .bind Statement.keeps_insertFlag fun _ => .pure
  | setFlagStatus id status => exact .bind Statement.keeps_setFlagStatus fun _ => .pure
  | addKeyword keyword isPattern flagReason =>
    exact .bind Statement.keeps_insertKeyword fun _ => .pure

theorem keeps_work (w : PlatformWrite) : Keeps Store.core (w.work now) := by
  cases w with
  | createUser u => exact .bind Statement.keeps_insertUser fun _ => .pure
  | _ =>
    refine (keeps_registry fun u => ?_).comp Prod.snd
    nofun

theorem moved_run (h : s.Exclusive) (w : PlatformWrite) : s.Moved now (w.run now s).2 :=
  (w.keeps_work.yields_rest now h).of_commit (Store.moved_of_core_eq now rfl) fun _ _ ht => ht

end PlatformWrite

end CivicForum
