import CivicForum.Http.MediaType
import CivicForum.Http.Message
import CivicForum.Http.Payload
import CivicForum.Http.Resource

/-! # Answering requests

* `Http.respond`: the response to a request at an instant, and the store afterwards. The path is
  looked at first, then the method, the parameters of the path, the content type, the length of the
  body and the body.
-/

set_option autoImplicit false

namespace CivicForum.Http

/-- The text of the index. -/
def welcome : String :=
  "\ncivicmod: moderation service for civic participation\n\n" ++
    "Routes are under /v1/moderation/\n    "

/-- Answers a call. -/
def perform (c : Call) (present : Answer → Json) (systemId : Int) (now : Instant) (s : Store) :
    Response × Store :=
  match c.run systemId now s with
  | (.ok a, s') => (.ofJson (present a), s')
  | (.error e, s') => (.ofRefusal e, s')

/-- The body of a request in the canonical form that a handler asks for. -/
def readBody (r : Request) (format : Json.Format) : Except Response Json :=
  if r.contentType.any isJsonType then
    if bodyLimit < r.body.length then .error .bodyTooLarge
    else
      match format.readBody (decode r.body) with
      | .ok v => .ok v
      | .error .malformed => .error .malformedBody
      | .error .misfit => .error .unfitBody
  else .error .unsupportedMediaType

/-- Answers a request whose path has been read. -/
def serve (h : Handler) (r : Request) (systemId : Int) (now : Instant) (s : Store) :
    Response × Store :=
  let body : Except Response Json :=
    match h.format with
    | none => .ok .null
    | some f => readBody r f
  match body with
  | .error response => (response, s)
  | .ok v =>
    match h.call v with
    | some c => perform c h.present systemId now s
    | none => (.unfitBody, s)

/-- Answers a request for a resource that reads or writes. -/
def access (resource : Resource) (a : Access) (r : Request) (systemId : Int) (now : Instant)
    (s : Store) : Response × Store :=
  if resource.allows a then
    if resource = .index then (.ofText 200 welcome, s)
    else
      match resource.handler? a with
      | some h => serve h r systemId now s
      | none => (.invalidPath, s)
  else (.methodNotAllowed, s)

/-- Answers a request. A `HEAD` request is answered like a `GET` request, without content. -/
def respond (r : Request) (systemId : Int) (now : Instant) (s : Store) : Response × Store :=
  match (segments r.target).bind Resource.find? with
  | none => (.notFound, s)
  | some resource =>
    match r.method with
    | "GET" => access resource .read r systemId now s
    | "POST" => access resource .write r systemId now s
    | "HEAD" =>
      let (response, s) := access resource .read r systemId now s
      (response.withoutBody, s)
    | _ => (.methodNotAllowed, s)

end CivicForum.Http
