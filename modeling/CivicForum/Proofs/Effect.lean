import CivicForum.Proofs.Work

/-! # The effect of a unit of work

* `Effect`: an answer with the store that it leaves, or a refusal; `Effect.on` is what that makes of
  a store.
* `Work.HasEffect`: what a unit of work comes to, however many statements it takes.
* `Work.StopsAt`: a unit of work is refused, and this is the store that its statements had made by
  then.
-/

set_option autoImplicit false

namespace CivicForum

/-- An answer with the store that it leaves, or a refusal. -/
abbrev Effect (α : Type) := Except Refusal (α × Store)

variable {α β : Type}

namespace Effect

/-- The answer, and the store afterwards; a refusal leaves the store as it is. -/
def on (x : Effect α) (s : Store) : Except Refusal α × Store :=
  match x with
  | .ok (a, t) => (.ok a, t)
  | .error e => (.error e, s)

/-- The same effect, with the answer in another form. -/
def answering (x : Effect α) (g : α → β) : Effect β := x.map fun (a, t) => (g a, t)

@[simp] theorem answering_error (e : Refusal) (g : α → β) :
    answering (.error e : Effect α) g = .error e := rfl

@[simp] theorem answering_ok (a : α) (t : Store) (g : α → β) :
    answering (.ok (a, t) : Effect α) g = .ok (g a, t) := rfl

theorem answering_eq_error {x : Effect α} {g : α → β} {e : Refusal} :
    x.answering g = .error e ↔ x = .error e := by
  rcases x with e' | ⟨a, t⟩ <;> simp

theorem answering_eq_ok {x : Effect α} {g : α → β} {b : β} {t : Store} :
    x.answering g = .ok (b, t) ↔ ∃ a, x = .ok (a, t) ∧ b = g a := by
  rcases x with e' | ⟨a, u⟩
  · simp
  · simp only [answering_ok, Except.ok.injEq, Prod.mk.injEq]
    constructor
    · rintro ⟨rfl, rfl⟩
      exact ⟨a, ⟨rfl, rfl⟩, rfl⟩
    · rintro ⟨_, ⟨rfl, rfl⟩, rfl⟩
      exact ⟨rfl, rfl⟩

theorem on_answering {x : Effect α} {g : α → β} {s : Store} :
    (x.answering g).on s = ((x.on s).1.map g, (x.on s).2) := by
  rcases x with e | ⟨a, t⟩ <;> rfl

theorem eq_ok_of_on {x : Effect α} {s t : Store} {a : α} (h : x.on s = (.ok a, t)) :
    x = .ok (a, t) := by
  rcases x with e | ⟨b, u⟩
  · cases h
  · cases h
    rfl

theorem on_eq_error {x : Effect α} {s : Store} {e : Refusal} :
    (x.on s).1 = .error e ↔ x = .error e := by
  rcases x with e' | ⟨a, t⟩ <;> simp [on]

end Effect

namespace Work

variable {J : Store → Prop} {s t u : Store} {w : Work α} {x : Effect α} {e : Refusal}

/-! ## What a unit of work comes to -/

/-- Run on the store `s`, the unit of work has this effect, and leaves a store with `J` after each
statement. -/
def HasEffect (J : Store → Prop) (s : Store) (w : Work α) (x : Effect α) : Prop :=
  Yields J s w (fun a t => x = .ok (a, t)) fun e => x = .error e

theorem HasEffect.commit_eq (h : HasEffect J s w x) : w.commit s = x.on s := by
  rcases hw : w.commit s with ⟨e | a, t⟩
  · obtain ⟨rfl, rfl⟩ := h.of_commit_error hw
    rfl
  · rw [h.of_commit_ok hw]
    rfl

theorem HasEffect.answer (h : HasEffect J s w x) (g : α → β) :
    HasEffect J s (do return g (← w)) (x.answering g) := by
  refine .bind (h.mono (fun _ ht => ht) (fun a t ha => .pure ?_) fun e he => ?_)
  · rw [ha, Effect.answering_ok]
  · rw [he, Effect.answering_error]

theorem HasEffect.lift {y : Except Refusal β} {f : β → Work α} {b : β} (hy : y = .ok b)
    (h : HasEffect J s (f b) x) : HasEffect J s (do f (← y)) x := by
  refine .bind (.lift (fun b' hb' => ?_) fun e he => ?_)
  · obtain rfl := Except.ok.inj (hy.symm.trans hb')
    exact h
  · rw [hy] at he
    cases he

theorem HasEffect.lift_error {y : Except Refusal β} {f : β → Work α} (hy : y = .error e) :
    HasEffect J s (do f (← y)) (.error e) := by
  refine .bind (.lift (fun b hb => ?_) fun e' he => ?_)
  · rw [hy] at hb
    cases hb
  · obtain rfl := Except.error.inj (hy.symm.trans he)
    rfl

/-- A look-up in the store writes nothing. -/
theorem commit_look (look : Store → Except Refusal β) (g : β → α) (s : Store) :
    commit (do return g (← look (← current))) s = ((look s).map g, s) := by
  have hlook : HasEffect (fun _ => True) s (do return g (← look (← current)))
      ((look s).map fun b => (g b, s)) := by
    refine .bind (.current (.bind (.lift (fun b hb => .pure ?_) fun e he => ?_)))
    · rw [hb]
      rfl
    · rw [he]
      rfl
  rw [hlook.commit_eq]
  rcases look s with e | b <;> rfl

/-! ## Where a unit of work stops -/

/-- Run on the store `s`, the unit of work is refused, and by then its statements have made `t` of
the store. -/
def StopsAt (s : Store) (w : Work α) (e : Refusal) (t : Store) : Prop :=
  ∀ before : List Store, ∃ written : List Store,
    w.run.run ⟨s, before⟩ = (.error e, ⟨t, written ++ before⟩)

namespace StopsAt

theorem throw : StopsAt s (throw e : Work α) e s := fun _ => ⟨[], rfl⟩

theorem bind {f : α → Work β} (h : StopsAt s w e t) : StopsAt s (w >>= f) e t := by
  intro before
  obtain ⟨written, hrun⟩ := h before
  refine ⟨written, ?_⟩
  rw [ExceptT.run_bind, StateT.run_bind, hrun]
  rfl

theorem after {f : α → Work β}
    (h : Yields (fun _ => True) s w (fun a u => StopsAt u (f a) e t) fun _ => False) :
    StopsAt s (w >>= f) e t := by
  intro before
  obtain ⟨written, o, u, hrun, -, hend⟩ := h before
  cases o with
  | error e' => exact hend.elim
  | ok a =>
    obtain ⟨written', hrun'⟩ := hend (written ++ before)
    refine ⟨written' ++ written, ?_⟩
    rw [ExceptT.run_bind, StateT.run_bind, hrun, List.append_assoc]
    exact hrun'

theorem lift {y : Except Refusal β} {f : β → Work α} {b : β} (hy : y = .ok b)
    (h : StopsAt s (f b) e t) : StopsAt s (do f (← y)) e t := by
  refine .after (.lift (fun b' hb' => ?_) fun e' he' => ?_)
  · obtain rfl := Except.ok.inj (hy.symm.trans hb')
    exact h
  · rw [hy] at he'
    cases he'

theorem discard (h : StopsAt s w e t) : StopsAt s (discard w) e t :=
  h.bind (f := fun _ => pure ())

theorem rethrow {handler : Refusal → Work α} (h : StopsAt s w e t)
    (hhandler : handler e = MonadExcept.throw e) :
    StopsAt s (tryCatch w handler) e t := by
  intro before
  obtain ⟨written, hrun⟩ := h before
  have hrun' : StateT.run w ⟨s, before⟩ = (.error e, ⟨t, written ++ before⟩) := hrun
  refine ⟨written, ?_⟩
  show (ExceptT.tryCatch w handler).run.run ⟨s, before⟩ = _
  simp only [ExceptT.tryCatch, ExceptT.run_mk, StateT.run_bind, hrun']
  show (handler e).run.run ⟨t, written ++ before⟩ = _
  rw [hhandler]
  rfl

theorem draft_eq (h : StopsAt s w e t) : ∃ d, w.draft s = (.error e, d) ∧ d.store = t := by
  obtain ⟨written, hrun⟩ := h []
  exact ⟨_, hrun, rfl⟩

end StopsAt

end Work

end CivicForum
