import CivicForum.Store.Work

/-! # What a unit of work does, rule by rule

* `Work.Yields J s w Q E`: run on the store `s`, the unit of work `w` leaves a store with `J` after
  each of its statements, and ends with an answer and a store that satisfy `Q`, or with a refusal
  that satisfies `E`.
* `Yields.bind`, `Yields.current`, `Yields.put`, …: one rule for each way to build a unit of work.
* `Yields.of_commit_ok`, `Yields.of_commit_error`, `Yields.of_trail`: what a proof by these rules
  says about the committed store, the refusal and the stores between two statements.
* `Work.Keeps`: no statement changes what is read of the store.
-/

set_option autoImplicit false

namespace CivicForum.Work

variable {α β : Type} {J : Store → Prop} {s : Store} {w : Work α} {Q : α → Store → Prop}
  {E : Refusal → Prop}

/-- An answer with its store satisfies `Q`, or a refusal satisfies `E`. -/
def Ends (Q : α → Store → Prop) (E : Refusal → Prop) : Except Refusal α → Store → Prop
  | .ok a, t => Q a t
  | .error e, _ => E e

/-- Run on the store `s`, the unit of work leaves a store with `J` after each statement, and ends
with `Q` or is refused with `E`. The stores that earlier statements left do not matter. -/
def Yields (J : Store → Prop) (s : Store) (w : Work α) (Q : α → Store → Prop)
    (E : Refusal → Prop) : Prop :=
  ∀ before : List Store, ∃ (written : List Store) (o : Except Refusal α) (t : Store),
    w.run.run ⟨s, before⟩ = (o, ⟨t, written ++ before⟩) ∧ (∀ u ∈ written, J u) ∧ Ends Q E o t

namespace Yields

/-! ## One rule for each way to build a unit of work -/

theorem pure {a : α} (h : Q a s) : Yields J s (pure a) Q E :=
  fun _ => ⟨[], .ok a, s, rfl, by simp, h⟩

theorem throw {e : Refusal} (h : E e) : Yields J s (throw e : Work α) Q E :=
  fun _ => ⟨[], .error e, s, rfl, by simp, h⟩

theorem fault {f : DatabaseFault} (h : E (.database f)) : Yields J s (fault f : Work α) Q E :=
  throw h

theorem bind {f : α → Work β} {Q : β → Store → Prop}
    (h : Yields J s w (fun a t => Yields J t (f a) Q E) E) : Yields J s (w >>= f) Q E := by
  intro before
  obtain ⟨written, o, t, hrun, hJ, hend⟩ := h before
  cases o with
  | error e =>
    refine ⟨written, .error e, t, ?_, hJ, hend⟩
    rw [ExceptT.run_bind, StateT.run_bind, hrun]
    rfl
  | ok a =>
    obtain ⟨written', o', t', hrun', hJ', hend'⟩ := hend (written ++ before)
    refine ⟨written' ++ written, o', t', ?_, List.forall_mem_append.mpr ⟨hJ', hJ⟩, hend'⟩
    rw [ExceptT.run_bind, StateT.run_bind, hrun, List.append_assoc]
    exact hrun'

theorem mono {J' : Store → Prop} {Q' : α → Store → Prop} {E' : Refusal → Prop}
    (h : Yields J s w Q E) (hJ : ∀ t, J t → J' t) (hQ : ∀ a t, Q a t → Q' a t)
    (hE : ∀ e, E e → E' e) : Yields J' s w Q' E' := by
  intro before
  obtain ⟨written, o, t, hrun, hw, hend⟩ := h before
  refine ⟨written, o, t, hrun, fun u hu => hJ u (hw u hu), ?_⟩
  cases o with
  | ok a => exact hQ a t hend
  | error e => exact hE e hend

theorem imp {Q' : α → Store → Prop} (h : Yields J s w Q E) (hQ : ∀ a t, Q a t → Q' a t) :
    Yields J s w Q' E := h.mono (fun _ ht => ht) hQ fun _ he => he

/-- What earlier stores satisfy can be left open. -/
theorem anyway (h : Yields J s w Q E) : Yields (fun _ => True) s w Q E :=
  h.mono (fun _ _ => trivial) (fun _ _ ht => ht) fun _ he => he

theorem current {Q : Store → Store → Prop} (h : Q s s) : Yields J s current Q E :=
  fun _ => ⟨[], .ok s, s, rfl, by simp, h⟩

theorem put {t : Store} {Q : Unit → Store → Prop} (hJ : J t) (h : Q () t) :
    Yields J s (put t) Q E :=
  fun _ => ⟨[t], .ok (), t, rfl, by simpa using hJ, h⟩

/-- A look-up that may be refused. -/
theorem lift {x : Except Refusal α} (hok : ∀ a, x = .ok a → Q a s)
    (herror : ∀ e, x = .error e → E e) : Yields J s (liftM x : Work α) Q E := by
  cases x with
  | ok a => exact pure (hok a rfl)
  | error e => exact throw (herror e rfl)

/-- A unit of work whose answer is of no interest. -/
theorem discard {Q : Unit → Store → Prop} (h : Yields J s w (fun _ t => Q () t) E) :
    Yields J s (discard w) Q E := by
  have hw : Functor.discard w = w >>= fun _ => Pure.pure () := rfl
  rw [hw]
  apply bind
  exact h.imp fun _ _ hQ => pure hQ

/-- A refusal that is handled, from whatever store it left. -/
theorem tryCatch {handler : Refusal → Work α}
    (h : Yields J s w Q fun e => ∀ t, Yields J t (handler e) Q E) :
    Yields J s (tryCatch w handler) Q E := by
  intro before
  obtain ⟨written, o, t, hrun, hJ, hend⟩ := h before
  have hrun' : StateT.run w ⟨s, before⟩ = (o, ⟨t, written ++ before⟩) := hrun
  have htry : (MonadExcept.tryCatch w handler).run.run ⟨s, before⟩ =
      (match o with
        | .ok a => (Pure.pure (.ok a) : StateM Draft (Except Refusal α))
        | .error e => (handler e).run).run ⟨t, written ++ before⟩ := by
    show (ExceptT.tryCatch w handler).run.run ⟨s, before⟩ = _
    simp only [ExceptT.tryCatch, ExceptT.run_mk, StateT.run_bind, hrun']
    cases o <;> rfl
  cases o with
  | ok a => exact ⟨written, .ok a, t, htry, hJ, hend⟩
  | error e =>
    obtain ⟨written', o', t', hhandler, hJ', hend'⟩ := hend t (written ++ before)
    refine ⟨written' ++ written, o', t', ?_, List.forall_mem_append.mpr ⟨hJ', hJ⟩, hend'⟩
    rw [htry, List.append_assoc]
    exact hhandler

/-! ## What the rules say about a committed unit of work -/

theorem of_commit_ok (h : Yields J s w Q E) {a : α} {t : Store} (hw : w.commit s = (.ok a, t)) :
    Q a t := by
  obtain ⟨written, o, u, hrun, -, hend⟩ := h []
  simp only [commit, draft, hrun] at hw
  cases o with
  | ok b =>
    cases hw
    exact hend
  | error e => cases hw

theorem of_commit_error (h : Yields J s w Q E) {e : Refusal} {t : Store}
    (hw : w.commit s = (.error e, t)) : E e ∧ t = s := by
  obtain ⟨written, o, u, hrun, -, hend⟩ := h []
  simp only [commit, draft, hrun] at hw
  cases o with
  | ok b => cases hw
  | error e' =>
    cases hw
    exact ⟨hend, rfl⟩

theorem of_refusal (h : Yields J s w Q E) {e : Refusal} (he : (w.commit s).1 = .error e) : E e :=
  (h.of_commit_error (Prod.ext he rfl)).1

theorem of_trail (h : Yields J s w Q E) : ∀ t ∈ w.trail s, J t := by
  obtain ⟨written, o, u, hrun, hJ, -⟩ := h []
  simpa only [trail, draft, hrun, List.append_nil] using hJ

/-- A unit of work that cannot be refused has an answer. -/
theorem exists_ok (h : Yields J s w Q fun _ => False) :
    ∃ a t, w.commit s = (.ok a, t) ∧ Q a t := by
  rcases hw : w.commit s with ⟨e | a, t⟩
  · exact (h.of_commit_error hw).1.elim
  · exact ⟨a, t, rfl, h.of_commit_ok hw⟩

/-- A unit of work that cannot succeed is refused, and leaves the store as it was. -/
theorem exists_error (h : Yields J s w (fun _ _ => False) E) :
    ∃ e, w.commit s = (.error e, s) ∧ E e := by
  rcases hw : w.commit s with ⟨e | a, t⟩
  · obtain ⟨he, rfl⟩ := h.of_commit_error hw
    exact ⟨e, rfl, he⟩
  · exact (h.of_commit_ok hw).elim

/-- What holds of the store in any case: the old one after a refusal, a new one otherwise. -/
theorem of_commit (h : Yields J s w Q E) {R : Store → Prop} (hs : R s)
    (hQ : ∀ a t, Q a t → R t) : R (w.commit s).2 := by
  rcases hw : w.commit s with ⟨e | a, t⟩
  · obtain ⟨-, rfl⟩ := h.of_commit_error hw
    exact hs
  · exact hQ a t (h.of_commit_ok hw)

end Yields

theorem commit_of_refused (h : (w.commit s).1.toOption.isNone) : (w.commit s).2 = s := by
  unfold commit at *
  rcases hdraft : w.draft s with ⟨e | a, d⟩
  · rfl
  · rw [hdraft] at h
    cases h

theorem store_of_commit_error {e : Refusal} {t : Store} (h : w.commit s = (.error e, t)) :
    t = s := by
  have hkept : (w.commit s).2 = s := commit_of_refused (by rw [h]; rfl)
  rwa [h] at hkept

/-! ## What no statement changes -/

/-- No statement of the unit of work changes what `f` reads of the store. -/
def Keeps {γ : Type} (f : Store → γ) (w : Work α) : Prop :=
  ∀ s, Yields (fun t => f t = f s) s w (fun _ t => f t = f s) fun _ => True

namespace Keeps

variable {γ : Type} {f : Store → γ}

theorem pure {a : α} : Keeps f (pure a : Work α) := fun _ => .pure rfl

theorem throw {e : Refusal} : Keeps f (throw e : Work α) := fun _ => .throw trivial

theorem current : Keeps f current := fun _ => .current rfl

theorem lift {x : Except Refusal α} : Keeps f (liftM x : Work α) :=
  fun _ => .lift (fun _ _ => rfl) fun _ _ => trivial

theorem bind {g : α → Work β} (hw : Keeps f w) (hg : ∀ a, Keeps f (g a)) :
    Keeps f (w >>= g) := by
  intro s
  refine .bind ((hw s).mono (fun _ ht => ht) (fun a t ht => ?_) fun _ he => he)
  exact (hg a t).mono (fun _ hu => hu.trans ht) (fun _ _ hu => hu.trans ht) fun _ he => he

/-- What can be read off something that is kept is kept as well. -/
theorem comp {δ : Type} (g : γ → δ) (hw : Keeps f w) : Keeps (fun s => g (f s)) w :=
  fun s => (hw s).mono (fun _ ht => congrArg g ht) (fun _ _ ht => congrArg g ht) fun _ he => he

/-- A statement that changes nothing `f` reads. -/
theorem put {t : Store} {b : β} (h : f t = f s) :
    Yields (fun u => f u = f s) s (do put t; return b) (fun _ u => f u = f s) fun _ => True :=
  .bind (.put h (.pure h))

end Keeps

end CivicForum.Work
