import CivicForum.Proofs.Frame
import CivicForum.Proofs.Watch.Scan

/-! # The moves of the watchlist and the flags

* `Watch.Move`: everything that one unit of work can do to the two tables.
* `Call.watched_run`, `PlatformWrite.watched_run`, `Session.watched_step`: an action makes at most
  one move.
* `Store.Ordered`: entries and flags stand in the order of their identifiers; it is kept by every move.
* `Session.lastFlagId_after_le`: how many identifiers of flags a run can take.
-/

set_option autoImplicit false

namespace CivicForum

open Work Statement

/-- What one unit of work does to the watchlist and the flags. Only scans raise flags that the rest
of the platform may not. -/
inductive Watch.Move (systemId : Int) (Reported : NewFlag → Prop) (s : Store) : Store → Prop where
  | rest (t : Store) (h : t.reports = s.reports) : Move systemId Reported s t
  | report (r : NewFlag) (now : Instant) (hr : Reported r)
      (hroom : s.flags.nextId ≤ Text.wordMax) (hreporter : s.users.contains r.reporterId = true) :
      Move systemId Reported s (s.withFlag (r.entry s.flags.nextId now))
  | settle (id : Int) (status : Flag.Status) : Move systemId Reported s (s.settled id status)
  | list (keyword : String) (isPattern : Bool) (flagReason : String) (now : Instant) :
      Move systemId Reported s
        (s.withKeyword (.added s.keywords.nextId keyword isPattern flagReason now))
  | switch (id : Int) (isActive : Bool) : Move systemId Reported s (s.switched id isActive)
  | scan (content : String) (kind : Content.Kind) (contentId : Int) (now : Instant)
      (hroom : Watch.matching s.activeKeywords content ≠ [] →
        s.flags.lastId + (Watch.matching s.activeKeywords content).length ≤ Text.wordMax)
      (hreporter : Watch.matching s.activeKeywords content ≠ [] →
        s.users.contains systemId = true) :
      Move systemId Reported s
        (s.flaggedByAll systemId kind contentId now (Watch.matching s.activeKeywords content))

variable {s t : Store} {systemId : Int} {now : Instant} {Reported : NewFlag → Prop}

/-! ## Calls and writes -/

theorem Watch.move_of_scanEffect {content : String} {kind : Content.Kind} {contentId : Int}
    {fs : List Flag} (h : scanEffect s systemId content kind contentId now = .ok (fs, t)) :
    Move systemId Reported s t := by
  obtain ⟨-, rfl, hraised⟩ := raiseEffect_eq_ok h
  exact .scan content kind contentId now (fun hne => (hraised hne).2) fun hne => (hraised hne).1

theorem Call.watched_run (c : Call) (systemId : Int) (now : Instant) (s : Store) :
    Watch.Move systemId Reported s (c.run systemId now s).2 := by
  have hwork : Yields (fun _ => True) s (c.work systemId now)
      (fun _ t => Watch.Move systemId Reported s t) fun _ => True := by
    by_cases hwatch : c.WritesWatchlist
    · cases c with
      | addKeyword keyword isPattern flagReason =>
        refine .bind (.bind (.lift (fun _ _ => ?_) fun _ _ => trivial))
        exact yields_insertKeyword trivial trivial fun e => .pure (.list ..)
      | setKeywordActive id isActive =>
        refine .bind (.bind (yields_setKeywordActive trivial fun found => ?_))
        cases found with
        | none => exact .throw trivial
        | some e => exact .pure (.pure (.switch id isActive))
      | scan content kind contentId =>
        have hscan := Watch.hasEffect_scan s systemId content kind contentId now
        exact .bind (hscan.mono (fun _ ht => ht)
          (fun _ _ h => .pure (Watch.move_of_scanEffect h)) fun _ _ => trivial)
      | _ => exact hwatch.elim
    · have hreports : Keeps Store.reports (c.work systemId now) :=
        (frames_work hwatch).comp Prod.snd
      exact (hreports s).anyway.imp fun _ t ht => .rest t ht
  exact hwork.of_commit (R := Watch.Move systemId Reported s) (.rest s rfl) fun _ _ ht => ht

theorem PlatformWrite.watched_run (w : PlatformWrite) (systemId : Int) (now : Instant) (s : Store) :
    Watch.Move systemId (fun r => w = .createFlag r) s (w.run now s).2 := by
  have hwork : Yields (fun _ => True) s (w.work now)
      (fun _ t => Watch.Move systemId (fun r => w = .createFlag r) s t) fun _ => True := by
    by_cases hreports : w.WritesReports
    · cases w with
      | createFlag r =>
        exact .bind (yields_insertFlag (fun _ => trivial) (fun _ _ => trivial) trivial
          fun hroom hreporter => .pure (.report r now rfl hroom hreporter))
      | setFlagStatus id status =>
        exact .bind (yields_setFlagStatus trivial fun _ => .pure (.settle id status))
      | addKeyword keyword isPattern flagReason =>
        exact .bind (yields_insertKeyword trivial trivial fun _ => .pure (.list ..))
      | _ => exact hreports.elim
    · exact (keeps_reports hreports s).anyway.imp fun _ t ht => .rest t ht
  exact hwork.of_commit (R := Watch.Move systemId _ s) (.rest s rfl) fun _ _ ht => ht

theorem Session.watched_step (f : Session) (a : Action) :
    Watch.Move f.systemId (fun r => a = .write (.createFlag r)) f.store (f.step a).2.store := by
  rcases hc : a.call? with - | c
  · rcases store_step_of_call?_eq_none hc with hkept | ⟨w, rfl⟩
    · exact .rest _ (by rw [hkept])
    · rw [step_write]
      simpa only [Action.write.injEq] using w.watched_run f.systemId f.now f.store
  · rw [step_of_call? hc]
    exact c.watched_run f.systemId f.now f.store

/-! ## Entries and flags in order -/

/-- Entries and flags stand in the order of their identifiers, and no flag has one that does not fit
its word. -/
structure Store.Ordered (s : Store) : Prop where
  keywords : s.keywords.Ascending
  flags : s.flags.Ascending
  room : s.flags.lastId ≤ Text.wordMax

namespace Store

theorem Ordered.withFlag (h : s.Ordered) {f : Flag} (hid : f.id = s.flags.nextId)
    (hroom : s.flags.nextId ≤ Text.wordMax) : (s.withFlag f).Ordered where
  keywords := h.keywords
  flags := h.flags.insert hid
  room := by
    have hlast : (s.withFlag f).flags.lastId = max s.flags.lastId f.id := rfl
    rw [hlast, hid]
    exact Int.max_le.mpr ⟨h.room, hroom⟩

theorem Ordered.counted (h : s.Ordered) (id : Int) : (s.counted id).Ordered where
  keywords := h.keywords.update fun _ => rfl
  flags := h.flags
  room := h.room

theorem Ordered.move (h : s.Ordered) (hmove : Watch.Move systemId Reported s t) : t.Ordered := by
  cases hmove with
  | rest t ht =>
    obtain ⟨hkeywords, hflags⟩ := Prod.mk.inj ht
    exact ⟨hkeywords ▸ h.keywords, hflags ▸ h.flags, hflags ▸ h.room⟩
  | report r now hr hroom => exact h.withFlag rfl hroom
  | settle id status => exact ⟨h.keywords, h.flags.update fun _ => rfl, h.room⟩
  | list keyword isPattern flagReason now => exact ⟨h.keywords.insert rfl, h.flags, h.room⟩
  | switch id isActive => exact ⟨h.keywords.update fun _ => rfl, h.flags, h.room⟩
  | scan content kind contentId now hroom =>
    exact flaggedByAll_induction h hroom fun t e _ ht hnext =>
      (ht.withFlag rfl hnext).counted e.id

theorem length_keywords_flaggedByAll {kind : Content.Kind} {contentId : Int}
    {entries : List Watch.Entry} :
    (s.flaggedByAll systemId kind contentId now entries).keywords.rows.length =
      s.keywords.rows.length := by
  induction entries generalizing s with
  | nil => rfl
  | cons e rest ih => exact ih.trans (List.length_map _)

theorem spent_move_le (hmove : Watch.Move systemId Reported s t) :
    t.flags.lastId ≤ s.flags.lastId + s.keywords.rows.length + 1 ∧
      t.keywords.rows.length ≤ s.keywords.rows.length + 1 := by
  cases hmove with
  | rest t ht =>
    obtain ⟨hkeywords, hflags⟩ := Prod.mk.inj ht
    rw [hkeywords, hflags]
    omega
  | report r now hr hroom =>
    have hlast : (s.withFlag (r.entry s.flags.nextId now)).flags.lastId =
        max s.flags.lastId (s.flags.lastId + 1) := rfl
    have hkeywords : (s.withFlag (r.entry s.flags.nextId now)).keywords = s.keywords := rfl
    rw [hlast, hkeywords]
    omega
  | settle id status =>
    have hlast : (s.settled id status).flags.lastId = s.flags.lastId := rfl
    have hkeywords : (s.settled id status).keywords = s.keywords := rfl
    rw [hlast, hkeywords]
    omega
  | list keyword isPattern flagReason now =>
    refine ⟨?_, Nat.le_of_eq List.length_append⟩
    show s.flags.lastId ≤ _
    omega
  | switch id isActive =>
    have hlength : (s.switched id isActive).keywords.rows.length = s.keywords.rows.length :=
      List.length_map _
    have hlast : (s.switched id isActive).flags.lastId = s.flags.lastId := rfl
    rw [hlast, hlength]
    omega
  | scan content kind contentId now hroom =>
    have hhits : (Watch.matching s.activeKeywords content).length ≤ s.keywords.rows.length :=
      Nat.le_trans (List.length_filter_le _ _) (List.length_filter_le _ _)
    rw [flaggedByAll_flags, length_keywords_flaggedByAll]
    dsimp only
    omega

end Store

/-! ## Runs -/

namespace Session

variable {f : Session}

theorem ordered_after (h : f.store.Ordered) (as : List Action) : (f.after as).store.Ordered := by
  induction as generalizing f with
  | nil => exact h
  | cons a as ih => exact ih (h.move (watched_step f a))

theorem reports_fresh (systemId : Option Int) (now : Instant) (index : Bool) :
    (fresh systemId now index).store.reports = ({}, {}) := by
  cases systemId <;> rfl

theorem ordered_run (systemId : Option Int) (now : Instant) (index : Bool) (as : List Action) :
    ((fresh systemId now index).after as).store.Ordered := by
  refine ordered_after ?_ as
  obtain ⟨hkeywords, hflags⟩ := Prod.mk.inj (reports_fresh systemId now index)
  refine ⟨hkeywords ▸ .empty, hflags ▸ .empty, ?_⟩
  rw [hflags]
  decide

theorem length_keywords_after_le (f : Session) (as : List Action) :
    (f.after as).store.keywords.rows.length ≤ f.store.keywords.rows.length + as.length := by
  induction as generalizing f with
  | nil => exact Nat.le_refl _
  | cons a as ih =>
    have hfirst := (Store.spent_move_le (watched_step f a)).2
    have hrest := ih (f.step a).2
    rw [after, List.length_cons]
    omega

/-- No scan takes more identifiers than there are entries, and every entry takes an action. -/
theorem lastFlagId_after_le (f : Session) (as : List Action) :
    (f.after as).store.flags.lastId ≤ f.store.flags.lastId +
      as.length * (f.store.keywords.rows.length + as.length) := by
  induction as generalizing f with
  | nil => simp [after]
  | cons a as ih =>
    obtain ⟨hlast, hlength⟩ := Store.spent_move_le (watched_step f a)
    have hrest := ih (f.step a).2
    have hmono := Int.mul_le_mul_of_nonneg_left (c := (as.length : Int))
      (show ((f.step a).2.store.keywords.rows.length + as.length : Int) ≤
        f.store.keywords.rows.length + (as.length + 1) by omega) (Int.natCast_nonneg _)
    rw [after, List.length_cons, Int.natCast_add, Int.natCast_one, Int.add_mul, Int.one_mul]
    omega

end Session

end CivicForum
