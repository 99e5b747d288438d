import CivicForum.Forum.Session
import CivicForum.Proofs.Call
import CivicForum.Proofs.Time

/-! # Runs of a forum

* `Http.Request.call?`, `Action.call?`: the call that a request or an action asks for.
* `Session.fresh`: a forum with no content, with or without the storage's own check.
* `Session.after`: the forum after some actions; `Session.forward`: the clock never goes back.
* `Session.moved_step`: an action makes at most one move of penalties and appeals.
* `Session.sound_after`: their tables are sound in every forum that a fresh one can become.
-/

set_option autoImplicit false

namespace CivicForum

/-! ## Requests -/

/-- The store after a call, if there is one. -/
def Store.afterCall (s : Store) (systemId : Int) (now : Instant) : Option Call → Store
  | some c => (c.run systemId now s).2
  | none => s

namespace Http

/-- The call that a request asks a handler for. -/
def Handler.call? (h : Handler) (r : Request) : Option Call :=
  match h.format with
  | none => h.call .null
  | some f => (readBody r f).toOption.bind h.call

/-- The call that a request asks a resource for. -/
def Resource.call? (resource : Resource) (a : Access) (r : Request) : Option Call :=
  if resource.allows a then (resource.handler? a).bind fun h => h.call? r else none

/-- Whether the request reads or writes. -/
def Request.access? (r : Request) : Option Access :=
  match r.method with
  | "GET" => some .read
  | "POST" => some .write
  | "HEAD" => some .read
  | _ => none

/-- The call that a request asks for. -/
def Request.call? (r : Request) : Option Call :=
  ((segments r.target).bind Resource.find?).bind fun resource =>
    r.access?.bind fun a => resource.call? a r

variable {systemId : Int} {now : Instant} {s : Store}

theorem perform_store (c : Call) (present : Answer → Json) :
    (perform c present systemId now s).2 = (c.run systemId now s).2 := by
  unfold perform
  split
  · next hrun => rw [hrun]
  · next hrun => rw [hrun]

theorem serve_store (h : Handler) (r : Request) :
    (serve h r systemId now s).2 = s.afterCall systemId now (h.call? r) := by
  unfold serve Handler.call?
  rcases h.format with - | f
  · dsimp only
    rcases h.call .null with - | c
    · rfl
    · exact perform_store c h.present
  · dsimp only
    rcases readBody r f with response | v
    · rfl
    · dsimp only [Except.toOption, Option.bind_some]
      rcases h.call v with - | c
      · rfl
      · exact perform_store c h.present

theorem access_store (resource : Resource) (a : Access) (r : Request) :
    (access resource a r systemId now s).2 = s.afterCall systemId now (resource.call? a r) := by
  unfold access Resource.call?
  split
  · split
    · next hindex =>
      subst hindex
      rfl
    · rcases resource.handler? a with - | h
      · rfl
      · exact serve_store h r
  · rfl

/-- There are three methods; no other one reads or writes. -/
theorem Request.access?_cases (r : Request) :
    r.method = "GET" ∧ r.access? = some .read ∨ r.method = "POST" ∧ r.access? = some .write ∨
      r.method = "HEAD" ∧ r.access? = some .read ∨
        (r.method ≠ "GET" ∧ r.method ≠ "POST" ∧ r.method ≠ "HEAD") ∧ r.access? = none := by
  unfold access?
  split
  · next hget => exact .inl ⟨hget, rfl⟩
  · next hpost => exact .inr (.inl ⟨hpost, rfl⟩)
  · next hhead => exact .inr (.inr (.inl ⟨hhead, rfl⟩))
  · next hget hpost hhead => exact .inr (.inr (.inr ⟨⟨hget, hpost, hhead⟩, rfl⟩))

/-- The store after a request is the one after the call that it asks for. -/
theorem respond_store (r : Request) :
    (respond r systemId now s).2 = s.afterCall systemId now r.call? := by
  unfold respond Request.call?
  rcases (segments r.target).bind Resource.find? with - | resource
  · rfl
  · rw [Option.bind_some]
    dsimp only
    obtain ⟨hmethod, haccess⟩ | ⟨hmethod, haccess⟩ | ⟨hmethod, haccess⟩ | ⟨hmethod, haccess⟩ :=
      r.access?_cases
    · rw [hmethod, haccess]
      exact access_store resource .read r
    · rw [hmethod, haccess]
      exact access_store resource .write r
    · rw [hmethod, haccess]
      exact access_store resource .read r
    · obtain ⟨hget, hpost, hhead⟩ := hmethod
      rw [haccess]
      split
      · next hmethod => exact absurd hmethod hget
      · next hmethod => exact absurd hmethod hpost
      · next hmethod => exact absurd hmethod hhead
      · rfl

end Http

/-- The call that an action asks for. -/
def Action.call? : Action → Option Call
  | .call c => some c
  | .request r => r.call?
  | .write _ | .advance _ | .setClock _ => none

namespace Session

/-- A forum with no content. The storage checks by itself that no user gets a second active
penalty, or leaves that to the services. -/
def fresh (systemId : Option Int) (now : Instant) (index : Bool) : Session where
  store := { (opened systemId now).store with oneActiveIndex := index }
  now := now
  systemId := (opened systemId now).systemId

/-- The forum after some actions. -/
def after (f : Session) : List Action → Session
  | [] => f
  | a :: as => (f.step a).2.after as

/-- The clock never goes back. -/
def forward (f : Session) : List Action → Bool
  | [] => true
  | a :: as => f.now ≤ (f.step a).2.now && (f.step a).2.forward as

/-! ## Actions -/

variable {f : Session} {a : Action} {c : Call}

theorem step_call_of_ok {ans : Answer} {t : Store}
    (h : c.run f.systemId f.now f.store = (.ok ans, t)) :
    f.step (.call c) = (.answer ans, { f with store := t }) := by
  unfold step
  dsimp only
  rw [h]

theorem step_call_of_error {e : Refusal} {t : Store}
    (h : c.run f.systemId f.now f.store = (.error e, t)) :
    f.step (.call c) = (.refused e, { f with store := t }) := by
  unfold step
  dsimp only
  rw [h]

theorem step_write (w : PlatformWrite) :
    (f.step (.write w)).2 = { f with store := (w.run f.now f.store).2 } := by
  unfold step
  dsimp only
  split
  · next hrun => rw [hrun]
  · next hrun => rw [hrun]

/-- An action that asks for a call leaves the forum that the call leaves. -/
theorem step_of_call? (h : a.call? = some c) :
    (f.step a).2 = { f with store := (c.run f.systemId f.now f.store).2 } := by
  cases a with
  | call c' =>
    obtain rfl := Option.some.inj h
    rcases hrun : c'.run f.systemId f.now f.store with ⟨e | ans, t⟩
    · rw [step_call_of_error hrun]
    · rw [step_call_of_ok hrun]
  | request r =>
    have hstore := @Http.respond_store f.systemId f.now f.store r
    rw [show r.call? = some c from h] at hstore
    unfold step
    dsimp only
    rw [hstore]
    rfl
  | write w => cases h
  | advance span => cases h
  | setClock t => cases h

theorem now_step_of_call? (h : a.call? = some c) : (f.step a).2.now = f.now := by
  rw [step_of_call? h]

/-- The clock is moved by a span or set, or stays. -/
theorem now_step (a : Action) : (f.step a).2.now = f.now ∨
    (∃ s, (f.step a).2.now = f.now.plus s) ∨ a = .setClock (f.step a).2.now := by
  cases a with
  | call c => exact .inl (now_step_of_call? rfl)
  | write w =>
    rw [step_write]
    exact .inl rfl
  | request r => exact .inl rfl
  | advance s => exact .inr (.inl ⟨s, rfl⟩)
  | setClock t => exact .inr (.inr rfl)

/-- Of the other actions, only writes change the store. -/
theorem store_step_of_call?_eq_none (h : a.call? = none) :
    (f.step a).2.store = f.store ∨ ∃ w : PlatformWrite, a = .write w := by
  cases a with
  | call c => cases h
  | request r =>
    have hstore := @Http.respond_store f.systemId f.now f.store r
    rw [show r.call? = none from h] at hstore
    exact .inl hstore
  | write w => exact .inr ⟨w, rfl⟩
  | advance span => exact .inl rfl
  | setClock t => exact .inl rfl

/-- An action makes at most one move. -/
theorem moved_step (h : f.store.docket.Sound) (a : Action) :
    f.store.Moved f.now (f.step a).2.store := by
  rcases hc : a.call? with - | c
  · rcases store_step_of_call?_eq_none hc with hkept | ⟨w, rfl⟩
    · rw [hkept]
      exact Store.moved_of_core_eq f.now rfl
    · rw [step_write]
      exact w.moved_run h.exclusive
  · rw [step_of_call? hc]
    exact c.moved_run h f.systemId

/-! ## Runs -/

theorem after_append (as bs : List Action) : f.after (as ++ bs) = (f.after as).after bs := by
  induction as generalizing f with
  | nil => rfl
  | cons a as ih => exact ih

/-- As long as the clock never goes back, no later time comes before an earlier one. -/
theorem now_le_after {as : List Action} (h : f.forward as = true) : f.now ≤ (f.after as).now := by
  induction as generalizing f with
  | nil => exact f.now.le_refl
  | cons a as ih =>
    simp only [forward, Bool.and_eq_true, decide_eq_true_eq] at h
    exact Instant.le_trans h.1 (ih h.2)

theorem docket_fresh (systemId : Option Int) (now : Instant) (index : Bool) :
    (fresh systemId now index).store.docket = ⟨{}, {}⟩ := by
  cases systemId with
  | none => rfl
  | some id =>
    have hkeeps := @Statement.keeps_ensureUser id systemName systemSince {}
    exact hkeeps.of_commit (R := fun t => t.docket = ⟨{}, {}⟩) rfl
      fun _ _ ht => congrArg Prod.fst ht

theorem penalties_fresh (systemId : Option Int) (now : Instant) (index : Bool) :
    (fresh systemId now index).store.penalties.rows = [] :=
  congrArg (fun d => d.penalties.rows) (docket_fresh systemId now index)

theorem sound_fresh (systemId : Option Int) (now : Instant) (index : Bool) :
    (fresh systemId now index).store.docket.Sound := by
  rw [docket_fresh]
  exact Docket.sound_empty

theorem sound_after (h : f.store.docket.Sound) (as : List Action) :
    (f.after as).store.docket.Sound := by
  induction as generalizing f with
  | nil => exact h
  | cons a as ih => exact ih (h.move (moved_step h a).docket)

/-- What no move raises by more than one, no run raises by more than its length. -/
theorem docket_after_le {g : Docket → Int}
    (hg : ∀ now d d', Docket.Move now d d' → g d' ≤ g d + 1) (h : f.store.docket.Sound)
    (as : List Action) : g (f.after as).store.docket ≤ g f.store.docket + as.length := by
  induction as generalizing f with
  | nil => exact Int.le_add_of_nonneg_right (Int.natCast_nonneg _)
  | cons a as ih =>
    have hstep := moved_step h a
    have hlast := hg _ _ _ hstep.docket
    have hrest := ih (h.move hstep.docket)
    rw [after, List.length_cons]
    omega

/-- Every action takes at most one identifier for a penalty, so no run that can be carried out takes
all of them. -/
theorem lastId_after_le (h : f.store.docket.Sound) (as : List Action) :
    (f.after as).store.penalties.lastId ≤ f.store.penalties.lastId + as.length :=
  docket_after_le (g := fun d => d.penalties.lastId) (fun _ _ _ hmove => hmove.lastId_le) h as

theorem lastAppealId_after_le (h : f.store.docket.Sound) (as : List Action) :
    (f.after as).store.appeals.lastId ≤ f.store.appeals.lastId + as.length :=
  docket_after_le (g := fun d => d.appeals.lastId) (fun _ _ _ hmove => hmove.lastAppealId_le) h as

theorem lastId_run_le (systemId : Option Int) (now : Instant) (index : Bool) (as : List Action) :
    ((fresh systemId now index).after as).store.penalties.lastId ≤ as.length := by
  have hfresh : (fresh systemId now index).store.penalties.lastId = 0 :=
    congrArg (fun d => d.penalties.lastId) (docket_fresh systemId now index)
  have hlast := lastId_after_le (sound_fresh systemId now index) as
  rwa [hfresh, Int.zero_add] at hlast

theorem lastAppealId_run_le (systemId : Option Int) (now : Instant) (index : Bool)
    (as : List Action) :
    ((fresh systemId now index).after as).store.appeals.lastId ≤ as.length := by
  have hfresh : (fresh systemId now index).store.appeals.lastId = 0 :=
    congrArg (fun d => d.appeals.lastId) (docket_fresh systemId now index)
  have hlast := lastAppealId_after_le (sound_fresh systemId now index) as
  rwa [hfresh, Int.zero_add] at hlast

/-- Whether the storage checks never changes. -/
theorem index_after (h : f.store.docket.Sound) (as : List Action) :
    (f.after as).store.oneActiveIndex = f.store.oneActiveIndex := by
  induction as generalizing f with
  | nil => rfl
  | cons a as ih =>
    have hstep := moved_step h a
    exact (ih (h.move hstep.docket)).trans hstep.index

/-- The tables of every forum that a fresh one can become are sound. -/
theorem sound_run (systemId : Option Int) (now : Instant) (index : Bool) (as : List Action) :
    ((fresh systemId now index).after as).store.docket.Sound :=
  sound_after (sound_fresh systemId now index) as

end Session

end CivicForum
