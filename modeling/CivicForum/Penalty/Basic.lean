import CivicForum.Penalty.Kind
import CivicForum.Time.Timestamp

/-! # Penalties

* `Penalty`: a row of the penalty ledger.
* `Penalty.Status`: its life cycle.
* `Penalty.hasElapsed`, `Penalty.isInForce`: what the clock says about it.
* `Penalty.canBeAppealed`: whether an appeal against it is admissible.
* `Penalty.Request`: what an issuer asks for.
-/

set_option autoImplicit false

namespace CivicForum

/-- The life cycle of a penalty. -/
inductive Penalty.Status where
  /-- In force, unless its end has passed and no sweep has run yet. -/
  | active
  | expired
  | revoked
  /-- Suspended while its single appeal is pending. -/
  | appealed
  deriving Repr, DecidableEq, Inhabited

instance Penalty.Status.named : Named Penalty.Status where
  all := [.active, .expired, .revoked, .appealed]
  wire
    | .active => "active"
    | .expired => "expired"
    | .revoked => "revoked"
    | .appealed => "appealed"
  title
    | .active => "Active"
    | .expired => "Expired"
    | .revoked => "Revoked"
    | .appealed => "Appealed"

/-- A penalty of a user. -/
structure Penalty where
  id : Int
  userId : Int
  kind : Penalty.Kind
  status : Penalty.Status
  reason : String
  issuedBy : Int
  issuedAt : Instant
  /-- The end of a timed ban; warnings and permanent bans have none. -/
  expiresAt : Option Instant
  relatedFlagIds : List Int
  revokedBy : Option Int
  revokedAt : Option Instant
  revokeReason : Option String
  deriving Repr, DecidableEq

namespace Penalty

/-- The end of the ban has come. -/
def hasElapsed (p : Penalty) (now : Instant) : Bool :=
  match p.expiresAt with
  | some t => t ≤ now
  | none => false

/-- Active, and its end has not come. -/
def isInForce (p : Penalty) (now : Instant) : Bool :=
  match p.status with
  | .active => !p.hasElapsed now
  | .expired | .revoked | .appealed => false

/-- A penalty may be appealed once, while it is in force, unless it is only a warning. -/
def canBeAppealed (p : Penalty) (hasAppeal : Bool) (now : Instant) : Bool :=
  p.isInForce now && !hasAppeal && p.kind.isBan

/-- The row as JSON. -/
def toJson (p : Penalty) : Json :=
  .record
    [("id", .int p.id), ("user_id", .int p.userId), ("penalty_type", Named.toJson p.kind),
     ("status", Named.toJson p.status), ("reason", .text p.reason), ("issued_by", .int p.issuedBy),
     ("issued_at", .text (Timestamp.write p.issuedAt)),
     ("expires_at", .ofOption (fun t => .text (Timestamp.write t)) p.expiresAt),
     ("related_flag_ids", .list (p.relatedFlagIds.map .int)),
     ("revoked_by", .ofOption .int p.revokedBy),
     ("revoked_at", .ofOption (fun t => .text (Timestamp.write t)) p.revokedAt),
     ("revoke_reason", .ofOption .text p.revokeReason)]

/-! ## Requests -/

/-- What an issuer asks for. -/
structure Request where
  userId : Int
  kind : Kind
  reason : String
  issuedBy : Int
  relatedFlagIds : List Int := []
  /-- Also remove what the user has waiting for approval; without effect for a warning. -/
  removeContent : Bool := false
  deriving Repr, DecidableEq

namespace Request

/-- The JSON form of a request; the last two fields may be absent. -/
def format : Json.Format :=
  .record
    [{ name := "user_id", format := .int }, { name := "penalty_type", format := Named.format Kind },
     { name := "reason", format := .text }, { name := "issued_by", format := .int },
     { name := "related_flag_ids", format := .listOf .int, absent := some (.list []) },
     { name := "bulk_delete_content", format := .truth, absent := some (.truth false) }]

/-- The request that a value in the canonical form means. -/
def ofJson? (v : Json) : Option Request := do
  let flags ← (← v.field? "related_flag_ids").list?
  return {
    userId := ← (← v.field? "user_id").int?
    kind := ← Named.ofJson? (← v.field? "penalty_type")
    reason := ← (← v.field? "reason").text?
    issuedBy := ← (← v.field? "issued_by").int?
    relatedFlagIds := ← flags.mapM Json.int?
    removeContent := ← (← v.field? "bulk_delete_content").truth? }

def toJson (r : Request) : Json :=
  .record
    [("user_id", .int r.userId), ("penalty_type", Named.toJson r.kind), ("reason", .text r.reason),
     ("issued_by", .int r.issuedBy), ("related_flag_ids", .list (r.relatedFlagIds.map .int)),
     ("bulk_delete_content", .truth r.removeContent)]

end Request

end Penalty

end CivicForum
