import CivicForum.Proofs.Frame
import CivicForum.Proofs.Rollback
import CivicForum.Proofs.Watch.Scan

/-! # The reporter of automatic flags

The watchlist raises flags on behalf of the system user, whom every start adds to the forum unless
the identifier or the name is taken.

* `Session.resumed`: a forum that starts on the store that an earlier run left.
* `Statement.hasEffect_ensureUser`: what a start makes of that store, whatever is in it.
* `Watch.yields_scan_of_reporter`: with a reporter, a scan can fail for want of identifiers only.
* `Session.reporter_guaranteed_iff`: the system user is there after a start unless somebody else has
  the name; who is there stays, so that no scan fails for want of a reporter.
* `Session.system_user_renumbered`: a start after which every scan fails.
-/

set_option autoImplicit false

namespace CivicForum

open Work

/-- The system user as it is added at the start. -/
def Member.system (id : Int) (createdAt : String) : Member where
  id := id
  username := Session.systemName
  isAdmin := false
  approvalOverride := false
  trustScore := 50
  approvedComments := 0
  upheldFlags := 0
  validatedReports := 0
  createdAt := createdAt

/-- The identifier or the name of the system user is taken. -/
def Store.barsSystem (s : Store) (id : Int) : Bool :=
  s.users.rows.any fun m => m.id = id || m.username = Session.systemName

/-- The store with the system user, unless something bars it. -/
def Store.withSystem (s : Store) (id : Int) (createdAt : String) : Store :=
  if s.barsSystem id then { s with users := s.users.reserve id }
  else { s with users := s.users.insert (.system id createdAt) }

/-- A forum that starts on the store that an earlier run left. -/
def Session.resumed (s : Store) (id : Int) (createdAt : String) (now : Instant) : Session :=
  ⟨((Statement.ensureUser id systemName createdAt).commit s).2, now, id⟩

/-! ## The start -/

namespace Store

variable {s : Store} {id : Int} {createdAt : String}

theorem withSystem_of_bars (h : s.barsSystem id = true) :
    s.withSystem id createdAt = { s with users := s.users.reserve id } := if_pos h

theorem withSystem_of_not_bars (h : s.barsSystem id = false) :
    s.withSystem id createdAt = { s with users := s.users.insert (.system id createdAt) } :=
  if_neg (by simp [h])

theorem barsSystem_eq_true : s.barsSystem id = true ↔ s.users.contains id = true ∨
    ∃ m ∈ s.users.rows, m.username = Session.systemName := by
  rw [← Table.mem_keys_iff, List.mem_map]
  simp only [barsSystem, List.any_eq_true, Bool.or_eq_true, decide_eq_true_eq, and_or_left,
    exists_or]
  rfl

theorem contains_withSystem : (s.withSystem id createdAt).users.contains id = true ↔
    s.users.contains id = true ∨ ∀ m ∈ s.users.rows, m.username ≠ Session.systemName := by
  by_cases hid : s.users.contains id = true
  · rw [withSystem_of_bars (barsSystem_eq_true.mpr (.inl hid)), Table.contains_reserve]
    simp only [hid, true_or]
  by_cases hname : ∃ m ∈ s.users.rows, m.username = Session.systemName
  · rw [withSystem_of_bars (barsSystem_eq_true.mpr (.inr hname)), Table.contains_reserve]
    obtain ⟨m, hm, hsystem⟩ := hname
    exact (or_iff_left fun hfree => hfree m hm hsystem).symm
  · have hfree : s.barsSystem id = false :=
      eq_false_of_ne_true fun hbars => (barsSystem_eq_true.mp hbars).elim hid hname
    have hadded : id ∈ (s.users.insert (.system id createdAt)).rows.map Keyed.key := by
      rw [Table.insert_rows, List.map_append]
      exact List.mem_append_right _ (List.mem_singleton_self _)
    rw [withSystem_of_not_bars hfree]
    refine iff_of_true (Table.mem_keys_iff.mp hadded) (.inr fun m hm hsystem => ?_)
    exact hname ⟨m, hm, hsystem⟩

end Store

theorem Statement.hasEffect_ensureUser (s : Store) (id : Int) (createdAt : String) :
    HasEffect (fun _ => True) s (ensureUser id Session.systemName createdAt)
      (.ok ((), s.withSystem id createdAt)) := by
  refine .bind (.current ?_)
  split
  · next hbars => exact .put trivial (by rw [Store.withSystem_of_bars hbars])
  · next hfree =>
    exact .put trivial (by rw [Store.withSystem_of_not_bars (eq_false_of_ne_true hfree)]; rfl)

theorem Session.resumed_eq (s : Store) (id : Int) (createdAt : String) (now : Instant) :
    resumed s id createdAt now = ⟨s.withSystem id createdAt, now, id⟩ := by
  unfold resumed
  rw [(Statement.hasEffect_ensureUser s id createdAt).commit_eq]
  rfl

/-! ## Scans with and without a reporter -/

namespace Watch

variable {s : Store} {systemId contentId : Int} {kind : Content.Kind} {now : Instant}

theorem yields_scan_of_reporter (h : s.users.contains systemId = true) (content : String) :
    Yields (fun _ => True) s (scan systemId content kind contentId now) (fun _ _ => True)
      fun e => e = .database .full := by
  refine (hasEffect_scan s systemId content kind contentId now).mono (fun _ ht => ht)
    (fun _ _ _ => trivial) fun e he => ?_
  unfold scanEffect raiseEffect at he
  split at he
  · cases he
  split at he
  · next hmissing =>
    rw [h] at hmissing
    cases hmissing.2
  split at he
  · exact (Except.error.inj he).symm
  · cases he

end Watch

namespace Session

variable {f : Session}

theorem refusal_of_scan (h : f.store.users.contains f.systemId = true) {content : String}
    {kind : Content.Kind} {contentId : Int} {e : Refusal}
    (he : ((Call.scan content kind contentId).run f.systemId f.now f.store).1 = .error e) :
    e = .database .full := by
  have hscan : Yields (fun _ => True) f.store
      ((Call.scan content kind contentId).work f.systemId f.now) (fun _ _ => True)
      fun e => e = .database .full :=
    .bind ((Watch.yields_scan_of_reporter h content).imp fun _ _ _ => .pure trivial)
  exact hscan.of_refusal he

/-- A start always reports success, leaves every row of an earlier run as it was, and counts the
identifier of the system user as given out. The system user is there afterwards if it was there
before, or if nobody else has its name; nobody ever leaves, so that no later scan fails for want of a
reporter. If somebody else has the name, the start passes the system user over, and every scan that
finds something fails, until somebody is added under that identifier. -/
theorem reporter_guaranteed_iff (s : Store) (id : Int) (createdAt : String) (now : Instant) :
    let f := resumed s id createdAt now
    ((Statement.ensureUser id systemName createdAt).commit s).1 = .ok () ∧
    (∃ added, f.store = { s with users := f.store.users } ∧
      f.store.users = ⟨s.users.rows ++ added, max s.users.lastId id⟩ ∧
      ∀ m ∈ added, m = .system id createdAt) ∧
    (f.store.users.contains id = true ↔
      s.users.contains id = true ∨ ∀ m ∈ s.users.rows, m.username ≠ systemName) ∧
    (f.store.users.contains id = true → ∀ as content kind contentId e,
      let g := f.after as
      ((Call.scan content kind contentId).run g.systemId g.now g.store).1 = .error e →
        e = .database .full) ∧
    ∀ as content kind contentId,
      let g := f.after as
      g.store.users.contains id = false → g.store.flags.nextId ≤ Text.wordMax →
      Watch.matching g.store.activeKeywords content ≠ [] →
        g.step (.call (.scan content kind contentId)) = (.refused (.database .foreignKey), g) := by
  intro f
  have hf : f = ⟨s.withSystem id createdAt, now, id⟩ := resumed_eq s id createdAt now
  have hid : ∀ as, (f.after as).systemId = id := fun as =>
    (systemId_after as).trans (congrArg Session.systemId hf)
  refine ⟨?_, ?_, ?_, fun hreporter as content kind contentId e => ?_,
    fun as content kind contentId => ?_⟩
  · rw [(Statement.hasEffect_ensureUser s id createdAt).commit_eq]
    rfl
  · rw [hf]
    by_cases hbars : s.barsSystem id = true
    · rw [Store.withSystem_of_bars hbars]
      refine ⟨[], rfl, ?_, nofun⟩
      rw [List.append_nil]
      rfl
    · rw [Store.withSystem_of_not_bars (eq_false_of_ne_true hbars)]
      exact ⟨[.system id createdAt], rfl, rfl, fun m hm => List.mem_singleton.mp hm⟩
  · rw [hf]
    exact Store.contains_withSystem
  · intro g he
    refine refusal_of_scan ?_ he
    rw [hid as]
    exact contains_after hreporter as
  · intro g hmissing hroom hmatch
    have hstop : Work.StopsAt g.store
        (Watch.scan g.systemId content kind contentId g.now) (.database .foreignKey) g.store :=
      Watch.stopsAt_scan hmatch hroom (by rwa [hid as])
    exact step_of_stops (stops_of_stopsAt (.bind hstop))

/-- The watchlist of a forum that has run before. -/
def listed : List Action :=
  [.write (.createUser { username := "ann" }), .call (.addKeyword "spam" false "advertising")]

/-- The system user of an earlier run is taken over under its identifier, and can report; under
another identifier it is not there, and nobody can report. -/
theorem reporter_taken_over :
    let later : Instant := ⟨1748865600, 0⟩
    let s := ((fresh (some 1) ⟨1748779200, 0⟩ true).after listed).store
    let f := resumed s 1 (Timestamp.writePlain later) later
    let g := resumed s 7 (Timestamp.writePlain later) later
    (f.store = s ∧ f.store.users.contains 1 = true ∧
      ∀ as content kind contentId e, ((Call.scan content kind contentId).run
        (f.after as).systemId (f.after as).now (f.after as).store).1 = .error e →
          e = .database .full) ∧
    g.store.users.contains 7 = false ∧
    g.step (.call (.scan "buy spam" .comment 1)) = (.refused (.database .foreignKey), g) := by
  intro later s f g
  obtain ⟨-, -, hthere, hreports, -⟩ :=
    reporter_guaranteed_iff s 1 (Timestamp.writePlain later) later
  obtain ⟨-, -, -, -, hfails⟩ := reporter_guaranteed_iff s 7 (Timestamp.writePlain later) later
  have hbefore : s.users.contains 1 = true := by decide +kernel
  have hreporter : f.store.users.contains 1 = true := hthere.mpr (.inl hbefore)
  have hnobody : g.store.users.contains 7 = false := by decide +kernel
  refine ⟨⟨by decide +kernel, hreporter, hreports hreporter⟩, hnobody, ?_⟩
  exact hfails [] "buy spam" .comment 1 hnobody (by decide +kernel) (by decide +kernel)

/-- The system user of an earlier run has identifier 2. A start with identifier 1 reports success,
adds nobody, and leaves a forum in which every scan that finds something fails. -/
theorem system_user_renumbered :
    let later : Instant := ⟨1748865600, 0⟩
    let s := ((fresh (some 2) ⟨1748779200, 0⟩ true).after listed).store
    let f := resumed s 1 (Timestamp.writePlain later) later
    s.users.Sound ∧ (s.users.rows.map Member.username).Nodup ∧
    ((Statement.ensureUser 1 systemName (Timestamp.writePlain later)).commit s).1 = .ok () ∧
    f.store.users.contains 1 = false ∧
    ((Call.scan "buy spam" .comment 1).run f.systemId f.now f.store).1 =
      .error (.database .foreignKey) := by
  intro later s f
  refine ⟨⟨by decide +kernel, by decide +kernel⟩, by decide +kernel, ?_, by decide +kernel, ?_⟩
  · decide +kernel
  · decide +kernel

end Session

end CivicForum
