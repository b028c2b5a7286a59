import StakeSnapshot.Http.Url
import StakeSnapshot.Query

/-!
# Requests to servers and their replies

What a snapshot asks comes down to requests to two servers, each of which is answered by a reply, or
not at all when the server cannot be reached. The questions to the session stay as they are.
-/

namespace StakeSnapshot.Http

/-- A request. A posted one carries a JSON value. -/
inductive Request where
  | get (url : Url)
  | post (url : Url) (body : Json)

structure Reply where
  status : Nat
  body : Bytes
deriving DecidableEq

/-- Questions to servers. -/
inductive WebQuery : Type → Type where
  /-- The reply to a request, or nothing if its server cannot be reached. -/
  | send (request : Request) : WebQuery (Option Reply)

/-- What is asked when both chains are reached over the web. -/
inductive Exchange : Type → Type where
  | web {α : Type} (question : WebQuery α) : Exchange α
  | session {α : Type} (question : SessionQuery α) : Exchange α

/-- Sends a request. -/
def send (request : Request) : Task Exchange (Option Reply) := .ask (.web (.send request))

namespace Reply

def isSuccess (r : Reply) : Bool := 200 ≤ r.status && r.status < 300

/-- A server may send interim replies before the one that counts, which has three digits as well. -/
def isFinal (status : Nat) : Bool := status == 101 || (200 ≤ status && status < 1000)

/-- The replies of these statuses have no body, whatever is sent after them. -/
def lacksBody (status : Nat) : Bool := status == 101 || status == 204 || status == 304

def content (r : Reply) : Bytes := if lacksBody r.status then [] else r.body

/-- What the body says in JSON, if it says nothing else. -/
def read? {α : Type} (r : Reply) (read : Json.Reader α) : Option α := do
  read.whole (← String.fromUTF8? ⟨r.content.toArray⟩)

/-- The reply that carries a JSON value. -/
def ofJson (status : Nat) (value : Json) : Reply := ⟨status, Bytes.ofString value.compact⟩

end Reply

/-- The phrase that goes with the status of a failure. -/
def reason? : Nat → Option String
  | 400 => some "Bad Request"
  | 401 => some "Unauthorized"
  | 402 => some "Payment Required"
  | 403 => some "Forbidden"
  | 404 => some "Not Found"
  | 405 => some "Method Not Allowed"
  | 406 => some "Not Acceptable"
  | 407 => some "Proxy Authentication Required"
  | 408 => some "Request Timeout"
  | 409 => some "Conflict"
  | 410 => some "Gone"
  | 411 => some "Length Required"
  | 412 => some "Precondition Failed"
  | 413 => some "Payload Too Large"
  | 414 => some "URI Too Long"
  | 415 => some "Unsupported Media Type"
  | 416 => some "Range Not Satisfiable"
  | 417 => some "Expectation Failed"
  | 418 => some "I'm a teapot"
  | 421 => some "Misdirected Request"
  | 422 => some "Unprocessable Entity"
  | 423 => some "Locked"
  | 424 => some "Failed Dependency"
  | 425 => some "Too Early"
  | 426 => some "Upgrade Required"
  | 428 => some "Precondition Required"
  | 429 => some "Too Many Requests"
  | 431 => some "Request Header Fields Too Large"
  | 451 => some "Unavailable For Legal Reasons"
  | 500 => some "Internal Server Error"
  | 501 => some "Not Implemented"
  | 502 => some "Bad Gateway"
  | 503 => some "Service Unavailable"
  | 504 => some "Gateway Timeout"
  | 505 => some "HTTP Version Not Supported"
  | 506 => some "Variant Also Negotiates"
  | 507 => some "Insufficient Storage"
  | 508 => some "Loop Detected"
  | 510 => some "Not Extended"
  | 511 => some "Network Authentication Required"
  | _ => none

/-- A status as messages show it. -/
def statusText (status : Nat) : String :=
  s!"{status} " ++ (reason? status).getD "<unknown status code>"

/-- Why a request did not end in a usable reply. -/
inductive Obstacle where
  /-- The scheme is not one that requests are made over. -/
  | badScheme
  /-- The server was not reached. -/
  | unreachable
  /-- The status says that the request failed. -/
  | failed (status : Nat)
  /-- The body is not what it should be. -/
  | badBody
deriving DecidableEq

namespace Obstacle

/-- The text of an obstacle in a request to a URL. -/
def text (url : Url) : Obstacle → String
  | .badScheme => s!"builder error for url ({url.withoutCredentials.text})"
  | .unreachable => s!"error sending request for url ({url.withoutCredentials.text})"
  | .failed status =>
    let side := if status < 500 then "client" else "server"
    s!"HTTP status {side} error ({statusText status}) for url ({url.withoutCredentials.text})"
  | .badBody => "error decoding response body"

/-- A body that is not what it should be does not fit what was asked; all other obstacles may go
away. -/
def kind : Obstacle → ErrorKind
  | .badBody => .decodeMismatch
  | _ => .sourceUnavailable

def toError (url : Url) (o : Obstacle) : Error := .of o.kind (o.text url)

end Obstacle

end StakeSnapshot.Http
