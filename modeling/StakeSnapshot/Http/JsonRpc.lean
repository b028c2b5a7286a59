import StakeSnapshot.Http.Exchange

/-!
# Remote calls in JSON

A remote call posts the name of a method and its parameters, and is answered by a result or by an
error with a code. What a result has to look like depends on the method.
-/

namespace StakeSnapshot.Http

structure RemoteCall where
  method : String
  params : List Json

/-- What is posted. Each request carries one call, so all calls have the same number. -/
def RemoteCall.toJson (c : RemoteCall) : Json :=
  .object [("jsonrpc", .string "2.0"), ("id", .natural 0), ("method", .string c.method),
    ("params", .array c.params)]

/-- The call that was posted. -/
def RemoteCall.ofJson? (j : Json) : Option RemoteCall :=
  match j.member? "method", j.member? "params" with
  | some (.string method), some (.array params) => some ⟨method, params⟩
  | _, _ => none

/-- An error that a server answers with. -/
structure RemoteError where
  code : Int
  message : String
  /-- What else the server says, as it wrote it. -/
  data : Option String

namespace RemoteError

def text (e : RemoteError) : String :=
  s!"error code {e.code}: {e.message}" ++ (match e.data with
    | none => ""
    | some data => ", data: " ++ data)

/-- The least and the largest code. -/
def leastCode : Int := -9223372036854775808
def largestCode : Int := 9223372036854775807

/-- A code is a whole number. A zero with a sign is not one. -/
def code? : Json → Option Int
  | .natural n => if (n : Int) ≤ largestCode then some n else none
  | .number literal => do
    let n ← literal.toInt?
    if leastCode ≤ n ∧ n < 0 then some n else none
  | _ => none

/-- The members that were read. -/
structure Draft where
  code : Option Int
  message : Option String
  data : Option String

/-- Reads a member, of which there may be one with each name. -/
def readMember (name : String) (d : Draft) : Json.Reader Draft :=
  match name with
  | "code" => .once d.code (.via code?) fun code => { d with code := some code }
  | "message" => .once d.message JsonForm.read fun message => { d with message := some message }
  | "data" => .once d.data .raw fun data => { d with data := some data }
  | _ => .skip d

/-- Reads an error, which has a code at least. -/
def read : Json.Reader RemoteError := fun bound text => do
  let (d, rest) ← Json.Reader.object readMember ⟨none, none, none⟩ bound text
  some (⟨← d.code, d.message.getD "", d.data⟩, rest)

end RemoteError

/-- What a server answers to one call: an error, or the text of a result. -/
abbrev RemoteAnswer := Except RemoteError String

namespace RemoteAnswer

/-! ## Reading answers -/

/-- The number of a call, or no number. -/
def id? : Json → Option Unit
  | .null => some ()
  | .string _ => some ()
  | .natural n => if n < UInt64.size then some () else none
  | _ => none

/-- The members that were read. -/
structure Draft where
  id : Option Unit
  result : Option String
  error : Option RemoteError

/-- Reads a member, of which there may be one with each name. -/
def readMember (name : String) (d : Draft) : Json.Reader Draft :=
  match name with
  | "id" => .once d.id (.via id?) fun id => { d with id := some id }
  | "result" => .once d.result .raw fun result => { d with result := some result }
  | "error" => .once d.error RemoteError.read fun e => { d with error := some e }
  | _ => .skip d

/-- Reads an answer, which has a result or an error, and not both. -/
def read : Json.Reader RemoteAnswer := fun bound text => do
  let (d, rest) ← Json.Reader.object readMember ⟨none, none, none⟩ bound text
  match d.result, d.error with
  | some result, none => some (.ok result, rest)
  | none, some e => some (.error e, rest)
  | _, _ => none

/-- Reads an answer, or a list of answers, of which nothing is kept. -/
def readOne : Json.Reader (Option RemoteAnswer) := fun bound text =>
  match Json.skipBlank text with
  | '[' :: rest => ((Json.Reader.list read).map fun _ => none) bound ('[' :: rest)
  | text => read.map some bound text

/-! ## Writing answers -/

/-- An answer with the given member, which is a result or an error. -/
def toJson (member : String × Json) : Json :=
  .object [("jsonrpc", .string "2.0"), ("id", .natural 0), member]

def ofResult (result : Json) : Json := toJson ("result", result)

def ofError (code : Nat) (message : String) : Json :=
  toJson ("error", .object [("code", .natural code), ("message", .string message)])

end RemoteAnswer

/-- Why a remote call did not end in a usable result. -/
inductive CallObstacle where
  | transport (o : Obstacle)
  /-- The status says that the request failed. -/
  | failed (status : Nat) (body : String)
  | rejected (e : RemoteError)
  /-- A single call got a list of answers. -/
  | manyAnswers
  /-- The answer or its result is not what it should be. -/
  | unreadable

namespace CallObstacle

def text (url : Url) : CallObstacle → String
  | .transport o => o.text url
  | .failed status body =>
    s!"HTTP error {status} with " ++ (if body = "" then "empty body" else "body: " ++ body)
  | .rejected e => "server returned an error response: " ++ e.text
  | .manyAnswers => "received batch response from single request"
  | .unreadable => "deserialization error"

def toError (url : Url) (o : CallObstacle) : Error := .of .sourceUnavailable (o.text url)

end CallObstacle

namespace RemoteCall

/-- The text of the result in a reply. -/
def readReply : Option Reply → Except CallObstacle String
  | none => .error (.transport .unreachable)
  | some r =>
    if r.isSuccess then
      match r.read? RemoteAnswer.readOne with
      | some (some (.ok result)) => .ok result
      | some (some (.error e)) => .error (.rejected e)
      | some none => .error .manyAnswers
      | none => .error .unreadable
    else .error (.failed r.status (Utf8.decodeLossy r.content))

/-- The result in a reply. -/
def readResult {α : Type} (read : Json.Reader α) (reply : Option Reply) :
    Except CallObstacle α := do
  match read.whole (← readReply reply) with
  | some a => .ok a
  | none => .error .unreadable

/-- Makes a call and reads its result. -/
def perform {α : Type} (url : Url) (c : RemoteCall) (read : Json.Reader α) :
    Task Exchange α := do
  if url.isWeb then
    let reply ← send (.post url c.toJson)
    .ofExcept ((readResult read reply).mapError (·.toError url))
  else .failWith (CallObstacle.toError url (.transport .badScheme))

end RemoteCall

end StakeSnapshot.Http
