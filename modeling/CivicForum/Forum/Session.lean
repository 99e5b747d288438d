import CivicForum.Forum.Platform
import CivicForum.Http.Service

/-! # A running forum

* `Session`: the store, the clock and the user on whose behalf the watchlist raises flags.
* `Session.opened`: a forum with no content and at most this one user.
* `Action`: what can happen to a running forum, and `Outcome` what comes of it.
* `Session.step`: the outcome of an action, and the forum afterwards.
* `Session.repeated`: an action that several callers ask for at the same time; one of them goes
  first, so that the result is that of asking one after another.
-/

set_option autoImplicit false

namespace CivicForum

/-- A running forum. -/
structure Session where
  store : Store
  now : Instant
  systemId : Int
  deriving Repr, DecidableEq

/-- What can happen to a running forum. -/
inductive Action where
  | call (c : Call)
  | write (w : PlatformWrite)
  | request (r : Http.Request)
  /-- Time passes, or the clock is put back. -/
  | advance (s : Span)
  | setClock (t : Instant)
  deriving Repr, DecidableEq

/-- What comes of an action. -/
inductive Outcome where
  | answer (a : Answer)
  | receipt (r : Receipt)
  | response (r : Http.Response)
  | clock (t : Instant)
  | refused (r : Refusal)
  deriving Repr

namespace Session

/-- The time of registration of the system user. -/
def systemSince : String := "2025-01-01 00:00:00"

/-- The name of the system user. -/
def systemName : String := "system"

/-- A store with the system user in it. -/
def storeWith (systemId : Int) (createdAt : String) : Store :=
  ((Statement.ensureUser systemId systemName createdAt).commit {}).2

/-- A forum with no content; without a system user, the first user takes its place. -/
def opened (systemId : Option Int) (now : Instant) : Session :=
  match systemId with
  | some id => ⟨storeWith id systemSince, now, id⟩
  | none => ⟨{}, now, 1⟩

/-- The outcome of an action, and the forum afterwards. -/
def step (a : Action) (f : Session) : Outcome × Session :=
  match a with
  | .call c =>
    match c.run f.systemId f.now f.store with
    | (.ok a, s) => (.answer a, { f with store := s })
    | (.error e, s) => (.refused e, { f with store := s })
  | .write w =>
    match w.run f.now f.store with
    | (.ok r, s) => (.receipt r, { f with store := s })
    | (.error e, s) => (.refused e, { f with store := s })
  | .request r =>
    let (response, s) := Http.respond r f.systemId f.now f.store
    (.response response, { f with store := s })
  | .advance s =>
    let t := f.now.plus s
    (.clock t, { f with now := t })
  | .setClock t => (.clock t, { f with now := t })

/-- The outcomes of one action asked for several times, and the forum afterwards. -/
def repeated (a : Action) : Nat → Session → List Outcome × Session
  | 0, f => ([], f)
  | n + 1, f =>
    let (o, f) := f.step a
    let (os, f) := repeated a n f
    (o :: os, f)

end Session

end CivicForum
