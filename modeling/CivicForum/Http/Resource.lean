import CivicForum.Forum.Call
import CivicForum.Http.Path

/-! # What lies under the paths

* `Http.Resource`: the things that requests can name, their parameters not yet read.
* `Http.Resource.find?`: the resource under a path.
* `Http.Handler`: how a request for a resource becomes a call, and its answer a response.
* `Http.Resource.handler?`: the handler of a resource for reading or for writing.
-/

set_option autoImplicit false

namespace CivicForum.Http

/-! ## Resources -/

/-- What a path names; parameters are as they stand in the path. -/
inductive Resource where
  | index
  | trust (user : List Char)
  | recalculation (user : List Char)
  | event (user name : List Char)
  | ban (user : List Char)
  | admission (user : List Char)
  | penaltiesOf (user : List Char)
  | activePenalty (user : List Char)
  | nextPenalty (user : List Char)
  | appealsOf (user : List Char)
  | penalties
  | expiry
  | penalty (id : List Char)
  | revocation (id : List Char)
  | appealAgainst (id : List Char)
  | pendingAppeals
  | appeal (id : List Char)
  | review (id : List Char)
  | watchlist
  | keywordState (id : List Char)
  | scan (kind id : List Char)
  | weight (kind id : List Char)
  deriving Repr, DecidableEq

/-- The resource under the parts of a path below the root of the services. A fixed part goes before
a parameter, and a parameter at the end is not empty. -/
def Resource.below (parts : List (List Char)) : Option Resource :=
  let last (part : List Char) (r : Resource) : Option Resource :=
    if part.isEmpty then none else some r
  match parts with
  | [a] =>
    match String.ofList a with
    | "penalties" => some .penalties
    | "watchlist" => some .watchlist
    | _ => none
  | [a, b] =>
    match String.ofList a, String.ofList b with
    | "penalties", "expire" => some .expiry
    | "penalties", _ => last b (.penalty b)
    | "appeals", "pending" => some .pendingAppeals
    | "appeals", _ => last b (.appeal b)
    | _, _ => none
  | [a, b, c] =>
    match String.ofList a, String.ofList c with
    | "users", "trust" => some (.trust b)
    | "users", "ban" => some (.ban b)
    | "users", "admission" => some (.admission b)
    | "users", "penalties" => some (.penaltiesOf b)
    | "users", "appeals" => some (.appealsOf b)
    | "penalties", "revoke" => some (.revocation b)
    | "penalties", "appeal" => some (.appealAgainst b)
    | "appeals", "review" => some (.review b)
    | "watchlist", "active" => some (.keywordState b)
    | _, _ => none
  | [a, b, c, d] =>
    match String.ofList a, String.ofList c, String.ofList d with
    | "users", "trust", "recalculate" => some (.recalculation b)
    | "users", "events", _ => last d (.event b d)
    | "users", "penalties", "active" => some (.activePenalty b)
    | "users", "penalties", "next" => some (.nextPenalty b)
    | "content", _, "scan" => some (.scan b c)
    | "content", _, "weight" => some (.weight b c)
    | _, _, _ => none
  | _ => none

/-- The resource under a path. -/
def Resource.find? : List (List Char) → Option Resource
  | [[]] => some .index
  | version :: root :: parts =>
    if version = ['v', '1'] ∧ String.ofList root = "moderation" then below parts else none
  | _ => none

/-! ## Handlers -/

/-- How a request becomes a call, and the answer to the call the content of the response. -/
structure Handler where
  /-- The form of the body, if one is read. -/
  format : Option Json.Format
  /-- The call that a body in the canonical form means. -/
  call : Json → Option Call
  present : Answer → Json := Answer.toJson

/-- A handler that reads no body. -/
def Handler.plain (c : Call) (present : Answer → Json := Answer.toJson) : Handler :=
  ⟨none, fun _ => some c, present⟩

namespace Present

def score (a : Answer) : Json := .record [("score", a.toJson)]

def ban : Answer → Json
  | .maybePenalty p =>
    .record [("banned", .truth p.isSome), ("penalty", .ofOption Penalty.toJson p)]
  | a => a.toJson

def admission (a : Answer) : Json := .record [("admission", a.toJson)]

def nextPenalty (a : Answer) : Json := .record [("penalty_type", a.toJson)]

def expired (a : Answer) : Json := .record [("expired", a.toJson)]

def weight (a : Answer) : Json := .record [("weighted_flags", a.toJson)]

end Present

namespace Handler

def issue : Handler where
  format := some Penalty.Request.format
  call v := (Penalty.Request.ofJson? v).map .issue

def revoke (id : Int) : Handler where
  format := some (.record [{ name := "revoked_by", format := .int },
    { name := "reason", format := .text }])
  call v := do
    return .revoke id (← (← v.field? "revoked_by").int?) (← (← v.field? "reason").text?)

def appeal (id : Int) : Handler where
  format := some (.record [{ name := "user_id", format := .int },
    { name := "reason", format := .text }])
  call v := do
    return .submitAppeal id (← (← v.field? "user_id").int?) (← (← v.field? "reason").text?)

def review (id : Int) : Handler where
  format := some (.record [{ name := "reviewer_id", format := .int },
    { name := "action", format := .text },
    { name := "notes", format := .text, absent := some (.text "") }])
  call v := do
    return .reviewAppeal id (← (← v.field? "reviewer_id").int?) (← (← v.field? "action").text?)
      (← (← v.field? "notes").text?)

def addKeyword : Handler where
  format := some (.record [{ name := "keyword", format := .text },
    { name := "is_regex", format := .truth, absent := some (.truth false) },
    { name := "auto_flag_reason", format := .text }])
  call v := do
    return .addKeyword (← (← v.field? "keyword").text?) (← (← v.field? "is_regex").truth?)
      (← (← v.field? "auto_flag_reason").text?)

def setActive (id : Int) : Handler where
  format := some (.record [{ name := "is_active", format := .truth }])
  call v := do return .setKeywordActive id (← (← v.field? "is_active").truth?)

def scan (kind : Content.Kind) (id : Int) : Handler where
  format := some (.record [{ name := "content", format := .text }])
  call v := do return .scan (← (← v.field? "content").text?) kind id

end Handler

/-! ## Methods -/

/-- Whether a request reads or writes. -/
inductive Access where
  | read
  | write
  deriving Repr, DecidableEq

namespace Resource

/-- Whether the resource can be accessed this way. -/
def allows : Resource → Access → Bool
  | .index, a | .trust _, a | .ban _, a | .admission _, a | .penaltiesOf _, a => a = .read
  | .activePenalty _, a | .nextPenalty _, a | .appealsOf _, a | .penalty _, a => a = .read
  | .pendingAppeals, a | .appeal _, a | .weight _ _, a => a = .read
  | .watchlist, _ => true
  | .recalculation _, a | .event _ _, a | .penalties, a | .expiry, a => a = .write
  | .revocation _, a | .appealAgainst _, a | .review _, a => a = .write
  | .keywordState _, a | .scan _ _, a => a = .write

/-- The handler of a resource; none when a parameter of the path cannot be read. The index has no
handler. -/
def handler? (r : Resource) (a : Access) : Option Handler :=
  match r with
  | .index => none
  | .trust user => do return .plain (.profile (← readId? user))
  | .recalculation user => do return .plain (.recalculate (← readId? user)) Present.score
  | .event user name => do
    let id ← readId? user
    return .plain (.record (← readEvent? name) id) Present.score
  | .ban user => do return .plain (.ban (← readId? user)) Present.ban
  | .admission user => do return .plain (.admission (← readId? user)) Present.admission
  | .penaltiesOf user => do return .plain (.penaltiesOf (← readId? user))
  | .activePenalty user => do return .plain (.activePenalty (← readId? user))
  | .nextPenalty user => do return .plain (.nextPenalty (← readId? user)) Present.nextPenalty
  | .appealsOf user => do return .plain (.appealsOf (← readId? user))
  | .penalties => some .issue
  | .expiry => some (.plain .sweep Present.expired)
  | .penalty id => do return .plain (.penalty (← readId? id))
  | .revocation id => do return .revoke (← readId? id)
  | .appealAgainst id => do return .appeal (← readId? id)
  | .pendingAppeals => some (.plain .pendingAppeals)
  | .appeal id => do return .plain (.appeal (← readId? id))
  | .review id => do return .review (← readId? id)
  | .watchlist =>
    match a with
    | .read => some (.plain .keywords)
    | .write => some .addKeyword
  | .keywordState id => do return .setActive (← readId? id)
  | .scan kind id => do
    let kind ← readKind? kind
    return .scan kind (← readId? id)
  | .weight kind id => do
    let kind ← readKind? kind
    return .plain (.weightedFlags kind (← readId? id)) Present.weight

end Resource

end CivicForum.Http
