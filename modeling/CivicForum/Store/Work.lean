import CivicForum.Refusal
import CivicForum.Store.Basic

/-! # Units of work

A unit of work changes several rows, one statement at a time, and takes effect as a whole or not
at all.

* `Work`: a computation on a draft of the store that may be refused.
* `Work.trail`: the store after each statement, latest first, refused or not.
* `Work.commit`: the answer, and the store afterwards; a refused unit of work leaves the store as
  it was.
-/

set_option autoImplicit false

namespace CivicForum

/-- The store as a unit of work has changed it so far, and every store that one of its statements
left, latest first. -/
structure Draft where
  store : Store
  trail : List Store := []

/-- A computation on a draft of the store that may be refused. -/
abbrev Work (α : Type) := ExceptT Refusal (StateM Draft) α

namespace Work

variable {α : Type}

/-- The store as it stands in the draft. -/
def current : Work Store := do return (← get).store

/-- Ends a statement with a new store. -/
def put (s : Store) : Work Unit := modify fun d => { store := s, trail := s :: d.trail }

def fault (f : DatabaseFault) : Work α := throw (.database f)

/-- Runs a unit of work on a draft of the store. -/
def draft (w : Work α) (s : Store) : Except Refusal α × Draft := (w.run.run { store := s })

/-- The store after each statement of a unit of work, latest first. -/
def trail (w : Work α) (s : Store) : List Store := (w.draft s).2.trail

/-- Runs a unit of work as a whole or not at all. -/
def commit (w : Work α) (s : Store) : Except Refusal α × Store :=
  match w.draft s with
  | (.ok a, d) => (.ok a, d.store)
  | (.error e, _) => (.error e, s)

end Work

end CivicForum
