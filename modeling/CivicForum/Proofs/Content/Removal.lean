import CivicForum.Proofs.Ledger.Lookback
import CivicForum.Proofs.Watch.Move

/-! # Content that is removed

* `Removable`: ideas and comments are marked as removed rather than dropped.
* `Content.Move`: everything that one unit of work can do to a table of them.
* `Content.Kept`: what every such table looks like; `Content.Move.mem`: what is removed stays as it is.
* `Call.content_run`: only a request for a penalty changes content.
* `Call.content_run_issue`: what it changes.
* `Session.pending_content_removed_once`: so it is in every forum, for ever.
-/

set_option autoImplicit false

namespace CivicForum

open Work Statement

/-- What a row says about its own removal. -/
structure Removal where
  isDeleted : Bool
  deletedAt : Option Instant
  deletionReason : Option String

/-- The time and the reason of the removal are there exactly when the row is marked as removed. -/
structure Removal.Marked (x : Removal) : Prop where
  time : x.deletedAt.isSome = x.isDeleted
  reason : x.deletionReason.isSome = x.isDeleted

/-- A kind of row that can be removed. -/
class Removable (α : Type) where
  removal : α → Removal

open Removable

instance : Removable Idea := ⟨fun i => ⟨i.isDeleted, i.deletedAt, i.deletionReason⟩⟩
instance : Removable Comment := ⟨fun c => ⟨c.isDeleted, c.deletedAt, c.deletionReason⟩⟩

/-! ## Tables of content -/

namespace Content

variable {α : Type} [Keyed α] [Removable α] {t u : Table α} {r : α}

/-- What one unit of work can do to a table of content. -/
inductive Move (t : Table α) : Table α → Prop where
  | rest : Move t t
  | add (r : α) (hid : Keyed.key r = t.nextId) (hnew : removal r = ⟨false, none, none⟩) :
      Move t (t.insert r)
  /-- Rows that have not been removed yet may be. -/
  | remove (now : Instant) (reason : String) (f : α → α)
      (hid : ∀ r, Keyed.key (f r) = Keyed.key r)
      (hf : ∀ r, f r = r ∨ (removal r).isDeleted = false ∧
        removal (f r) = ⟨true, some now, some reason⟩) :
      Move t (t.mapRows f)

/-- Identifiers are distinct, and every row is marked. -/
structure Kept (t : Table α) : Prop where
  sound : t.Sound
  marked : ∀ r ∈ t.rows, (removal r).Marked

theorem kept_empty : Kept ({} : Table α) := ⟨Table.sound_empty, nofun⟩

theorem Kept.move (h : Kept t) (hmove : Move t u) : Kept u := by
  cases hmove with
  | rest => exact h
  | add r hid hnew =>
    refine ⟨h.sound.insert hid, ?_⟩
    simp only [Table.insert_rows, List.forall_mem_append, List.forall_mem_singleton]
    refine ⟨h.marked, ?_⟩
    rw [hnew]
    exact ⟨rfl, rfl⟩
  | remove now reason f hid hf =>
    refine ⟨h.sound.mapRows hid, ?_⟩
    simp only [Table.mapRows_rows, List.forall_mem_map]
    intro r hr
    rcases hf r with hkept | ⟨-, hremoved⟩
    · rw [hkept]
      exact h.marked r hr
    · rw [hremoved]
      exact ⟨rfl, rfl⟩

theorem Move.mem (hmove : Move t u) (hr : r ∈ t.rows) (hremoved : (removal r).isDeleted = true) :
    r ∈ u.rows := by
  cases hmove with
  | rest => exact hr
  | add q hid hnew => exact List.mem_append_left _ hr
  | remove now reason f hid hf =>
    rcases hf r with hkept | ⟨hstanding, -⟩
    · exact List.mem_map.mpr ⟨r, hr, hkept⟩
    · rw [hremoved] at hstanding
      cases hstanding

end Content

/-! ## What a request for a penalty removes -/

namespace Store

/-- The tables of content. -/
def content (s : Store) : Table Idea × Table Comment := (s.ideas, s.comments)

/-- Each of the two tables makes at most one move. -/
structure ContentMoved (s t : Store) : Prop where
  ideas : Content.Move s.ideas t.ideas
  comments : Content.Move s.comments t.comments

variable {s t : Store} {now : Instant}

theorem ContentMoved.of_content_eq (h : t.content = s.content) : s.ContentMoved t := by
  obtain ⟨hideas, hcomments⟩ := Prod.mk.inj h
  exact ⟨hideas ▸ .rest, hcomments ▸ .rest⟩

theorem contentMoved_withoutPending (s : Store) (userId : Int) (reason : String) (now : Instant) :
    s.ContentMoved (s.withoutPending userId reason now) where
  ideas := by
    refine .remove now reason _ (fun i => ?_) fun i => ?_
    · split <;> rfl
    · split
      · next hi =>
        simp only [Idea.isPending, Bool.and_eq_true, Bool.not_eq_true'] at hi
        exact .inr ⟨hi.2.2, rfl⟩
      · exact .inl rfl
  comments := by
    refine .remove now reason _ (fun c => ?_) fun c => ?_
    · split <;> rfl
    · split
      · next hc =>
        simp only [Comment.isPending, Bool.and_eq_true, Bool.not_eq_true'] at hc
        exact .inr ⟨hc.2.2, rfl⟩
      · exact .inl rfl

theorem content_withoutPending (s : Store) (userId : Int) (reason : String) (now : Instant) :
    (s.withoutPending userId reason now).content =
      (s.ideas.mapRows fun i =>
        if i.userId = userId ∧ i.status = "pending" ∧ i.isDeleted = false then
          { i with isDeleted := true, deletedAt := some now, deletionReason := some reason }
        else i,
      s.comments.mapRows fun c =>
        if c.userId = userId ∧ c.isApproved = false ∧ c.isDeleted = false then
          { c with isDeleted := true, deletedAt := some now, deletionReason := some reason }
        else c) := by
  unfold withoutPending content
  simp only [Idea.isPending, Comment.isPending, Bool.and_eq_true, decide_eq_true_eq,
    Bool.not_eq_true']
  rfl

theorem content_issued (s : Store) (r : Penalty.Request) (now : Instant) :
    (s.issued r now).content = if r.removeContent = true ∧ r.kind ≠ .warning then
      (s.withoutPending r.userId ("user banned: " ++ r.reason) now).content else s.content := by
  unfold issued
  simp only [Bool.and_eq_true, decide_eq_true_eq]
  split <;> rfl

theorem content_reinstated (s : Store) (p : Penalty) : (s.reinstated p).content = s.content := by
  unfold reinstated
  split
  · split <;> rfl
  · rfl

end Store

theorem Appeals.Settled.content_eq {s t : Store} {p : Penalty} {reviewerId : Int} {notes : String}
    {now : Instant} {d : Appeal.Decision} {status : Appeal.Status}
    (h : Settled s p reviewerId notes now d status t) : t.content = s.content := by
  cases d with
  | approve =>
    obtain ⟨-, score, -, rfl⟩ := h
    rfl
  | reject =>
    obtain ⟨-, rfl⟩ := h
    exact s.content_reinstated p

/-! ## Calls and writes -/

namespace Call

variable {s : Store} {now : Instant} {c : Call} {systemId : Int}

theorem content_run_of_effect? (h : s.docket.Sound) {x : Effect Answer}
    (hx : c.effect? s now = some x) (hkeeps : ∀ a t, x = .ok (a, t) → t.content = s.content) :
    (c.run systemId now s).2.content = s.content := by
  rw [run_of_effect? h hx]
  rcases x with e | ⟨a, t⟩
  · rfl
  · exact hkeeps a t rfl

theorem content_run_of_writesWatchlist (hc : c.WritesWatchlist) :
    (c.run systemId now s).2.content = s.content := by
  have hwork : Yields (fun _ => True) s (c.work systemId now)
      (fun _ t => t.content = s.content) fun _ => True := by
    cases c with
    | addKeyword keyword isPattern flagReason =>
      refine .bind (.bind (.lift (fun _ _ => ?_) fun _ _ => trivial))
      exact yields_insertKeyword trivial trivial fun e => .pure rfl
    | setKeywordActive id isActive =>
      refine .bind (.bind (yields_setKeywordActive trivial fun found => ?_))
      cases found with
      | none => exact .throw trivial
      | some e => exact .pure (.pure rfl)
    | scan content kind contentId =>
      have hscan := Watch.hasEffect_scan s systemId content kind contentId now
      refine .bind (hscan.mono (fun _ ht => ht) (fun fs t h => .pure ?_) fun _ _ => trivial)
      obtain ⟨-, rfl, -⟩ := Watch.raiseEffect_eq_ok h
      rw [Store.flaggedByAll_eq]
      rfl
    | _ => exact hc.elim
  exact hwork.of_commit (R := fun t => t.content = s.content) rfl fun _ _ ht => ht

/-- Only requests for penalties change content. -/
theorem content_run (h : s.docket.Sound) (hc : ∀ r, c ≠ .issue r) :
    (c.run systemId now s).2.content = s.content := by
  by_cases hquery : c.IsQuery
  · rw [run_store_of_isQuery hquery]
  by_cases hwatch : c.WritesWatchlist
  · exact content_run_of_writesWatchlist hwatch
  cases c with
  | recalculate userId =>
    refine content_run_of_effect? h rfl fun a t ht => ?_
    obtain ⟨score, hscore, -⟩ := Effect.answering_eq_ok.mp ht
    obtain ⟨-, rfl⟩ := Reputation.recalculateEffect_eq_ok.mp hscore
    rfl
  | record k userId =>
    refine content_run_of_effect? h rfl fun a t ht => ?_
    obtain ⟨score, hscore, -⟩ := Effect.answering_eq_ok.mp ht
    obtain ⟨-, rfl⟩ := Reputation.of_recordEffect_eq_ok hscore
    rfl
  | issue r => exact absurd rfl (hc r)
  | revoke id revokedBy reason =>
    refine content_run_of_effect? h rfl fun a t ht => ?_
    obtain ⟨q, hq, -⟩ := Effect.answering_eq_ok.mp ht
    obtain ⟨p, -, -, hrevoked⟩ := Ledger.of_revokeEffect_eq_ok hq
    obtain ⟨-, -, score, -, rfl⟩ := Ledger.revokePenaltyEffect_eq_ok.mp hrevoked
    rfl
  | sweep =>
    refine content_run_of_effect? h rfl fun a t ht => ?_
    obtain ⟨-, rfl⟩ := Prod.mk.inj (Except.ok.inj ht)
    rfl
  | submitAppeal penaltyId userId reason =>
    refine content_run_of_effect? h rfl fun a t ht => ?_
    obtain ⟨b, hb, -⟩ := Effect.answering_eq_ok.mp ht
    obtain ⟨p, -, -, -, -, -, rfl⟩ := Appeals.of_submitEffect_eq_ok hb
    rfl
  | reviewAppeal id reviewerId decision notes =>
    rcases hd : Appeal.Decision.ofText decision with e | d
    · refine content_run_of_effect? h (effect?_of_unread hd) fun a t ht => ?_
      cases ht
    · refine content_run_of_effect? h (effect?_of_read hd) fun a t ht => ?_
      obtain ⟨b, hb, -⟩ := Effect.answering_eq_ok.mp ht
      obtain ⟨-, p, status, u, -, -, hsettled, -, rfl⟩ := Appeals.of_reviewEffect_eq_ok hb
      have hkept : u.content = s.content := hsettled.content_eq
      exact hkept
  | addKeyword keyword isPattern flagReason => exact absurd trivial hwatch
  | setKeywordActive id isActive => exact absurd trivial hwatch
  | scan content kind contentId => exact absurd trivial hwatch
  | _ => exact absurd trivial hquery

theorem content_run_issue (h : s.docket.Sound) (r : Penalty.Request) (systemId : Int)
    (now : Instant) :
    (∃ p t, (issue r).run systemId now s = (.ok (.penalty p), t) ∧
      t.content = (s.issued r now).content) ∨
    ∃ e, (issue r).run systemId now s = (.error e, s) := by
  rw [run_of_effect? h rfl]
  rcases hissue : Ledger.issueEffect s r now with e | ⟨p, t⟩
  · exact .inr ⟨e, rfl⟩
  · obtain ⟨-, -, -, -, rfl, score, -, rfl⟩ := Ledger.issueEffect_eq_ok.mp hissue
    exact .inl ⟨_, _, rfl, rfl⟩

theorem contentMoved_run (h : s.docket.Sound) (c : Call) (systemId : Int) :
    s.ContentMoved (c.run systemId now s).2 := by
  by_cases hc : ∃ r, c = .issue r
  · obtain ⟨r, rfl⟩ := hc
    obtain ⟨p, t, hrun, ht⟩ | ⟨e, hrun⟩ := content_run_issue h r systemId now
    · rw [hrun]
      rw [Store.content_issued] at ht
      split at ht
      · obtain ⟨hideas, hcomments⟩ := Prod.mk.inj ht
        have hmoved := s.contentMoved_withoutPending r.userId ("user banned: " ++ r.reason) now
        exact ⟨hideas ▸ hmoved.ideas, hcomments ▸ hmoved.comments⟩
      · exact .of_content_eq ht
    · rw [hrun]
      exact .of_content_eq rfl
  · exact .of_content_eq (content_run h (not_exists.mp hc))

end Call

theorem PlatformWrite.contentMoved_run (w : PlatformWrite) (now : Instant) (s : Store) :
    s.ContentMoved (w.run now s).2 := by
  have hwork : Yields (fun _ => True) s (w.work now) (fun _ t => s.ContentMoved t)
      fun _ => True := by
    cases w with
    | createUser u =>
      exact .bind (yields_insertUser (fun _ => trivial) fun _ _ => .pure (.of_content_eq rfl))
    | createIdea userId status =>
      refine .bind (.bind (.current (.bind (yields_freshId (fun _ => trivial) fun _ => ?_))))
      refine .bind (yields_requireUser (fun _ => trivial) fun _ => .bind (.put trivial ?_))
      exact .pure (.pure ⟨.add _ rfl rfl, .rest⟩)
    | createComment userId isApproved =>
      refine .bind (.bind (.current (.bind (yields_freshId (fun _ => trivial) fun _ => ?_))))
      refine .bind (yields_requireUser (fun _ => trivial) fun _ => .bind (.put trivial ?_))
      exact .pure (.pure ⟨.rest, .add _ rfl rfl⟩)
    | createFlag r =>
      exact .bind (yields_insertFlag (fun _ => trivial) (fun _ _ => trivial) trivial
        fun _ _ => .pure (.of_content_eq rfl))
    | setFlagStatus id status =>
      exact .bind (yields_setFlagStatus trivial fun _ => .pure (.of_content_eq rfl))
    | addKeyword keyword isPattern flagReason =>
      exact .bind (yields_insertKeyword trivial trivial fun _ => .pure (.of_content_eq rfl))
  exact hwork.of_commit (R := s.ContentMoved) (.of_content_eq rfl) fun _ _ ht => ht

/-! ## Runs -/

namespace Session

variable {f : Session}

theorem contentMoved_step (h : f.store.docket.Sound) (a : Action) :
    f.store.ContentMoved (f.step a).2.store := by
  rcases hc : a.call? with - | c
  · rcases store_step_of_call?_eq_none hc with hkept | ⟨w, rfl⟩
    · rw [hkept]
      exact .of_content_eq rfl
    · rw [step_write]
      exact w.contentMoved_run f.now f.store
  · rw [step_of_call? hc]
    exact c.contentMoved_run h f.systemId

theorem content_fresh (systemId : Option Int) (start : Instant) (index : Bool) :
    (fresh systemId start index).store.content = ({}, {}) := by
  cases systemId <;> rfl

section Table

variable {α : Type} [Keyed α] [Removable α] (table : Store → Table α)

theorem kept_after
    (htable : ∀ s t : Store, s.ContentMoved t → Content.Move (table s) (table t))
    (h : f.store.docket.Sound) (hf : Content.Kept (table f.store)) (as : List Action) :
    Content.Kept (table (f.after as).store) := by
  induction as generalizing f with
  | nil => exact hf
  | cons a as ih =>
    apply ih (h.move (moved_step h a).docket)
    exact hf.move (htable _ _ (contentMoved_step h a))

theorem find?_after_of_removed
    (htable : ∀ s t : Store, s.ContentMoved t → Content.Move (table s) (table t))
    (h : f.store.docket.Sound) (hf : Content.Kept (table f.store)) {r : α}
    (hr : r ∈ (table f.store).rows) (hremoved : (removal r).isDeleted = true)
    (as : List Action) : (table (f.after as).store).find? (Keyed.key r) = some r := by
  induction as generalizing f with
  | nil => exact hf.sound.find?_key hr
  | cons a as ih =>
    have hmove := htable _ _ (contentMoved_step h a)
    exact ih (h.move (moved_step h a).docket) (hf.move hmove) (hmove.mem hr hremoved)

end Table

/-- In every forum, a request for a penalty that is granted and is to remove content, for more than a
warning, removes the user's ideas and comments that await approval and have not been removed before,
and no others, all at this time and for the reason of the request; any other request leaves all
content as it is. Every idea and every comment has the time and the reason of its removal exactly
when it has been removed, and from then on it never changes again. -/
theorem pending_content_removed_once (systemId : Option Int) (start : Instant) (index : Bool)
    (as : List Action) :
    let f := (fresh systemId start index).after as
    (∀ (r : Penalty.Request) (now : Instant),
      let o := (Call.issue r).run f.systemId now f.store
      let removes := (∃ p, o.1 = .ok (.penalty p)) ∧ r.removeContent = true ∧ r.kind ≠ .warning
      let reason := "user banned: " ++ r.reason
      (removes →
        o.2.ideas = (f.store.ideas.mapRows fun i =>
          if i.userId = r.userId ∧ i.status = "pending" ∧ i.isDeleted = false then
            { i with isDeleted := true, deletedAt := some now, deletionReason := some reason }
          else i) ∧
        o.2.comments = (f.store.comments.mapRows fun c =>
          if c.userId = r.userId ∧ c.isApproved = false ∧ c.isDeleted = false then
            { c with isDeleted := true, deletedAt := some now, deletionReason := some reason }
          else c)) ∧
      (¬ removes → o.2.ideas = f.store.ideas ∧ o.2.comments = f.store.comments)) ∧
    (∀ i ∈ f.store.ideas.rows,
      i.deletedAt.isSome = i.isDeleted ∧ i.deletionReason.isSome = i.isDeleted ∧
      (i.isDeleted = true → ∀ bs, (f.after bs).store.ideas.find? i.id = some i)) ∧
    ∀ c ∈ f.store.comments.rows,
      c.deletedAt.isSome = c.isDeleted ∧ c.deletionReason.isSome = c.isDeleted ∧
      (c.isDeleted = true → ∀ bs, (f.after bs).store.comments.find? c.id = some c) := by
  intro f
  have h : f.store.docket.Sound := sound_run systemId start index as
  obtain ⟨hideas, hcomments⟩ := Prod.mk.inj (content_fresh systemId start index)
  have hideas : Content.Kept f.store.ideas :=
    kept_after Store.ideas (fun _ _ hm => hm.ideas) (sound_fresh _ _ _)
      (hideas ▸ Content.kept_empty) as
  have hcomments : Content.Kept f.store.comments :=
    kept_after Store.comments (fun _ _ hm => hm.comments) (sound_fresh _ _ _)
      (hcomments ▸ Content.kept_empty) as
  refine ⟨fun r now => ?_, fun i hi => ?_, fun c hc => ?_⟩
  · intro o removes reason
    obtain ⟨p, t, hrun, ht⟩ | ⟨e, hrun⟩ := Call.content_run_issue h r f.systemId now
    · have ho : o = (.ok (.penalty p), t) := hrun
      rw [Store.content_issued, Store.content_withoutPending] at ht
      refine ⟨fun hremoves => ?_, fun hkeeps => ?_⟩
      · rw [if_pos hremoves.2] at ht
        rw [ho]
        exact Prod.mk.inj ht
      · rw [if_neg fun hr => hkeeps ⟨⟨p, congrArg Prod.fst ho⟩, hr⟩] at ht
        rw [ho]
        exact Prod.mk.inj ht
    · have ho : o = (.error e, f.store) := hrun
      refine ⟨fun hremoves => ?_, fun _ => ?_⟩
      · obtain ⟨⟨p, hp⟩, -⟩ := hremoves
        rw [ho] at hp
        cases hp
      · rw [ho]
        exact ⟨rfl, rfl⟩
  · obtain ⟨htime, hreason⟩ := hideas.marked i hi
    exact ⟨htime, hreason, fun hremoved bs =>
      find?_after_of_removed Store.ideas (fun _ _ hm => hm.ideas) h hideas hi hremoved bs⟩
  · obtain ⟨htime, hreason⟩ := hcomments.marked c hc
    exact ⟨htime, hreason, fun hremoved bs =>
      find?_after_of_removed Store.comments (fun _ _ hm => hm.comments) h hcomments hc hremoved bs⟩

/-- A user with two ideas and a comment is banned for a week for spam, and what is pending of them is
removed. Another idea is submitted. -/
def removals : List Action :=
  [.write (.createUser { username := "author" }), .write (.createIdea 2 "pending"),
    .write (.createIdea 2 "published"), .write (.createComment 2 false),
    .call (.issue ⟨2, .weekBan, "spam", 1, [], true⟩), .write (.createIdea 2 "pending")]

def removedIdea : Idea := ⟨1, 2, "pending", true, some ⟨1748779200, 0⟩, some "user banned: spam"⟩

/-- A permanent ban for something else removes the other idea, and leaves the first one as it was
removed, as does everything that happens afterwards. -/
theorem later_ban_removes_later_idea :
    let f := (fresh (some 1) ⟨1748779200, 0⟩ true).after removals
    let later : Instant := ⟨1748865600, 0⟩
    let ban : Penalty.Request := ⟨2, .permanentBan, "fraud", 1, [], true⟩
    let o := (Call.issue ban).run f.systemId later f.store
    o.2.ideas.rows = [removedIdea, ⟨2, 2, "published", false, none, none⟩,
      ⟨3, 2, "pending", true, some later, some "user banned: fraud"⟩] ∧
    ∀ bs, (f.after bs).store.ideas.find? 1 = some removedIdea := by
  intro f later ban o
  have hrows : f.store.ideas.rows = [removedIdea, ⟨2, 2, "published", false, none, none⟩,
      ⟨3, 2, "pending", false, none, none⟩] := by decide +kernel
  have hgranted : o.1 = .ok (.penalty (ban.entry 2 later)) := by decide +kernel
  obtain ⟨hrequests, hideas, -⟩ :=
    pending_content_removed_once (some 1) ⟨1748779200, 0⟩ true removals
  refine ⟨?_, (hideas removedIdea ?_).2.2 rfl⟩
  · subst o f
    obtain ⟨hremoved, -⟩ := (hrequests ban later).1 ⟨⟨_, hgranted⟩, rfl, nofun⟩
    rw [hremoved, Table.mapRows_rows, hrows]
    decide
  · show removedIdea ∈ f.store.ideas.rows
    rw [hrows]
    exact List.mem_cons_self

end Session

end CivicForum
