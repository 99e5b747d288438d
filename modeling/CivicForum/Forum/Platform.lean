import CivicForum.Store.Statement

/-! # What other parts of the platform write

* `PlatformWrite`: users, ideas, comments, flags and keywords that other parts of the platform
  write into the store.
* `Receipt`: what such a write gives back.
* `PlatformWrite.run`: the receipt of a write, and the store afterwards.
-/

set_option autoImplicit false

namespace CivicForum

/-- A write of another part of the platform. -/
inductive PlatformWrite where
  | createUser (u : Statement.NewUser)
  | createIdea (userId : Int) (status : String)
  | createComment (userId : Int) (isApproved : Bool)
  | createFlag (f : Statement.NewFlag)
  | setFlagStatus (id : Int) (status : Flag.Status)
  /-- An entry of the watchlist that nobody checks. -/
  | addKeyword (keyword : String) (isPattern : Bool) (flagReason : String)
  deriving Repr, DecidableEq

/-- What a write gives back. -/
inductive Receipt where
  | user (m : Member)
  | id (n : Int)
  | flag (f : Flag)
  | count (n : Nat)
  | keyword (e : Watch.Entry)
  deriving Repr, DecidableEq

def Receipt.toJson : Receipt → Json
  | .user m => m.toJson
  | .id n => .int n
  | .flag f => f.toJson
  | .count n => .int n
  | .keyword e => e.toJson

namespace PlatformWrite

open Statement

/-- The unit of work of a write at an instant. -/
def work (w : PlatformWrite) (now : Instant) : Work Receipt :=
  match w with
  | .createUser u => do return .user (← insertUser u now)
  | .createIdea userId status => do return .id (← insertIdea userId status).id
  | .createComment userId isApproved => do return .id (← insertComment userId isApproved).id
  | .createFlag f => do return .flag (← insertFlag f now)
  | .setFlagStatus id status => do return .count (← Statement.setFlagStatus id status)
  | .addKeyword keyword isPattern flagReason => do
    return .keyword (← insertKeyword keyword isPattern flagReason now)

/-- The receipt of a write at an instant, and the store afterwards. -/
def run (w : PlatformWrite) (now : Instant) (s : Store) : Except Refusal Receipt × Store :=
  (w.work now).commit s

end PlatformWrite

end CivicForum
