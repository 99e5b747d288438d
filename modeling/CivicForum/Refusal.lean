import CivicForum.Penalty.Kind
import CivicForum.Text.Quoted

/-! # Why a request is refused

* `Refusal`: the reasons for which the moderation services refuse a request.
* `DatabaseFault`: what the database reports.
* `Refusal.message`, `Refusal.status`, `Refusal.details`: the wording, the HTTP status, and the
  text shown for a failure on the side of the server.
* `StatusCode.line`: a status code with its standard reason.
-/

set_option autoImplicit false

namespace CivicForum

/-! ## Faults of the database -/

/-- What the database reports. -/
inductive DatabaseFault where
  /-- A statement that returns one row found none. -/
  | rowNotFound
  /-- A row refers to one that does not exist. -/
  | foreignKey
  /-- Two rows agree in a column that tells rows apart. -/
  | duplicate (column : String)
  /-- A row with this primary key exists. -/
  | duplicateKey (column : String)
  /-- No identifier is left. -/
  | full
  /-- The number in a column would leave the signed 64-bit range. -/
  | overflow (column : String)
  deriving Repr, DecidableEq

namespace DatabaseFault

/-- The fault without the words that introduce it. -/
def cause : DatabaseFault → String
  | .rowNotFound => "no rows returned by a query that expected to return at least one row"
  | .foreignKey => "(code: 787) FOREIGN KEY constraint failed"
  | .duplicate column => "(code: 2067) UNIQUE constraint failed: " ++ column
  | .duplicateKey column => "(code: 1555) UNIQUE constraint failed: " ++ column
  | .full => "(code: 13) database or disk is full"
  | .overflow _ => "the number does not fit in 64 bits"

/-- The fault as a message. -/
def message (f : DatabaseFault) : String :=
  match f with
  | .rowNotFound => f.cause
  | .overflow column => "error occurred while decoding column \"" ++ column ++ "\": " ++ f.cause
  | _ => "error returned from database: " ++ f.cause

/-- The fault as a message with its cause below it. -/
def details (f : DatabaseFault) : String :=
  match f with
  | .rowNotFound => f.message
  | _ => f.message ++ "\n\nCaused by:\n    " ++ f.cause

end DatabaseFault

/-! ## Refusals -/

/-- Why a moderation service refuses a request. -/
inductive Refusal where
  /-- The thing named does not exist, or the caller may not see it. -/
  | notFound (what : String)
  | alreadyPenalized (active : Penalty.Kind)
  | alreadyExists (text : String)
  | cannotAppeal (text : String)
  | cannotRevoke (text : String)
  | invalidAction (text : String)
  | invalidTimestamp (userId : Int) (raw : String)
  | database (fault : DatabaseFault)
  deriving Repr, DecidableEq

namespace Refusal

/-- A number in a message. -/
def number (n : Int) : String := String.ofList (Text.writeInt n)

def message : Refusal → String
  | .notFound what => what ++ " not found"
  | .alreadyPenalized active =>
    "user already has an active " ++ Named.wire active ++
      " penalty; only a more severe penalty can be issued"
  | .alreadyExists text => text
  | .cannotAppeal text => text
  | .cannotRevoke text => text
  | .invalidAction text => text
  | .invalidTimestamp userId raw =>
    "user " ++ number userId ++ " has an unreadable registration timestamp " ++ Text.quote raw
  | .database fault => fault.message

/-- The HTTP status that answers a refused request. -/
def status : Refusal → Nat
  | .notFound _ => 404
  | .alreadyPenalized _ => 409
  | .alreadyExists _ => 409
  | .cannotAppeal _ => 422
  | .cannotRevoke _ => 422
  | .invalidAction _ => 400
  | .invalidTimestamp _ _ => 500
  | .database _ => 500

/-- The message with the cause of a database fault below it. -/
def details : Refusal → String
  | .database fault => fault.details
  | r => r.message

end Refusal

/-! ## Status codes -/

/-- The standard reason of a status code. -/
def StatusCode.reason? : Nat → Option String
  | 100 => some "Continue"
  | 101 => some "Switching Protocols"
  | 102 => some "Processing"
  | 103 => some "Early Hints"
  | 200 => some "OK"
  | 201 => some "Created"
  | 202 => some "Accepted"
  | 203 => some "Non Authoritative Information"
  | 204 => some "No Content"
  | 205 => some "Reset Content"
  | 206 => some "Partial Content"
  | 207 => some "Multi-Status"
  | 208 => some "Already Reported"
  | 226 => some "IM Used"
  | 300 => some "Multiple Choices"
  | 301 => some "Moved Permanently"
  | 302 => some "Found"
  | 303 => some "See Other"
  | 304 => some "Not Modified"
  | 305 => some "Use Proxy"
  | 307 => some "Temporary Redirect"
  | 308 => some "Permanent Redirect"
  | 400 => some "Bad Request"
  | 401 => some "Unauthorized"
  | 402 => some "Payment Required"
  | 403 => some "Forbidden"
  | 404 => some "Not Found"
  | 405 => some "Method Not Allowed"
  | 406 => some "Not Acceptable"
  | 407 => some "Proxy Authentication Required"
  | 408 => some "Request Timeout"
  | 409 => some "Conflict"
  | 410 => some "Gone"
  | 411 => some "Length Required"
  | 412 => some "Precondition Failed"
  | 413 => some "Payload Too Large"
  | 414 => some "URI Too Long"
  | 415 => some "Unsupported Media Type"
  | 416 => some "Range Not Satisfiable"
  | 417 => some "Expectation Failed"
  | 418 => some "I'm a teapot"
  | 421 => some "Misdirected Request"
  | 422 => some "Unprocessable Entity"
  | 423 => some "Locked"
  | 424 => some "Failed Dependency"
  | 425 => some "Too Early"
  | 426 => some "Upgrade Required"
  | 428 => some "Precondition Required"
  | 429 => some "Too Many Requests"
  | 431 => some "Request Header Fields Too Large"
  | 451 => some "Unavailable For Legal Reasons"
  | 500 => some "Internal Server Error"
  | 501 => some "Not Implemented"
  | 502 => some "Bad Gateway"
  | 503 => some "Service Unavailable"
  | 504 => some "Gateway Timeout"
  | 505 => some "HTTP Version Not Supported"
  | 506 => some "Variant Also Negotiates"
  | 507 => some "Insufficient Storage"
  | 508 => some "Loop Detected"
  | 510 => some "Not Extended"
  | 511 => some "Network Authentication Required"
  | _ => none

/-- A status code with its standard reason. -/
def StatusCode.line (code : Nat) : String :=
  String.ofList (Text.writeNat code) ++ " " ++
    (StatusCode.reason? code).getD "<unknown status code>"

end CivicForum
