import CivicForum.Json.Printer
import CivicForum.Refusal

/-! # HTTP messages

* `Http.Request`: method, target, content type and body of a request.
* `Http.Response`: status and body of a response.
* `Http.Response.ofRefusal`: how a refused request is answered.
-/

set_option autoImplicit false

namespace CivicForum.Http

/-- A request; `target` is the path with its query, as it stands in the request line. The body is
bytes, which need not be text. -/
structure Request where
  method : String
  target : String
  contentType : Option String := none
  body : List UInt8 := []
  deriving Repr, DecidableEq

inductive Body where
  | json (v : Json)
  | text (s : String)
  deriving Repr

structure Response where
  status : Nat
  body : Body
  deriving Repr

namespace Response

def ofJson (v : Json) : Response := ⟨200, .json v⟩

def ofText (status : Nat) (s : String) : Response := ⟨status, .text s⟩

/-- Nothing lies under the path. -/
def notFound : Response := .ofText 404 ""

/-- The method does nothing with what lies under the path. -/
def methodNotAllowed : Response := .ofText 405 ""

/-- A parameter of the path cannot be read. -/
def invalidPath : Response := .ofText 400 "Invalid URL"

/-- The body is not declared as JSON. -/
def unsupportedMediaType : Response :=
  .ofText 415 "Expected request with `Content-Type: application/json`"

/-- The body is longer than what is read of a request. -/
def bodyTooLarge : Response :=
  .ofText 413 "Failed to buffer the request body: length limit exceeded"

/-- The body is no JSON. -/
def malformedBody : Response := .ofText 400 "Failed to parse the request body as JSON"

/-- The body is JSON of another form than the one asked for. -/
def unfitBody : Response :=
  .ofText 422 "Failed to deserialize the JSON body into the target type"

/-- A failure with a status: faults on the side of the server come with their details. -/
def ofFailure (status : Nat) (message details : String) : Response :=
  .ofText status (if 500 ≤ status ∧ status < 600 then details else message)

def ofRefusal (r : Refusal) : Response := .ofFailure r.status r.message r.details

/-- The response without its content. -/
def withoutBody (r : Response) : Response := { r with body := .text "" }

end Response

end CivicForum.Http
