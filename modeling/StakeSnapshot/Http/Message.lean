import StakeSnapshot.Http.Exchange
import StakeSnapshot.Text.Base64

/-!
# Messages on the wire

The bytes of a request, and the reply in the bytes that a server sends until it closes the
connection. The length of a body is told by the parts it is sent in, by a header, or by the end of
the connection.
-/

namespace StakeSnapshot.Http

namespace Message

/-- The lines of a head, and the empty line behind it. -/
def head (lines : List String) : Bytes :=
  Bytes.ofString (String.join (lines.map (· ++ "\r\n")) ++ "\r\n")

/-- The name and the password of a URL, as a header. -/
def credentials (a : Authority) : List String :=
  if a.user = "" ∧ a.password = "" then []
  else
    let plain := Host.percentDecode a.user.toList ++ Bytes.ofString ":"
      ++ Host.percentDecode a.password.toList
    ["Authorization: Basic " ++ String.ofList (Base64.encode plain)]

/-- The lines that every request to a URL has. -/
def commonLines (method : String) (url : Url) : List String :=
  let authority := url.authority.getD ⟨"", "", none, none⟩
  [s!"{method} {url.targetText} HTTP/1.1", "Host: " ++ Url.Authority.hostText authority,
    "Accept: */*", "Connection: close"] ++ credentials authority

/-- The bytes of a request. -/
def ofRequest : Request → Bytes
  | .get url => head (commonLines "GET" url)
  | .post url body =>
    let content := Bytes.ofString body.compact
    head (commonLines "POST" url ++
      ["Content-Type: application/json", s!"Content-Length: {content.length}"]) ++ content

/-! ## Replies -/

/-- The bytes before the first line break, and those behind it. -/
def splitLine? : Bytes → Option (Bytes × Bytes)
  | [] => none
  | 13 :: 10 :: rest => some ([], rest)
  | b :: rest => (splitLine? rest).map fun (line, rest) => (b :: line, rest)

/-- The lines before the first empty line, and the bytes behind it. The bound is on the number of
lines. -/
def splitHead? : Nat → Bytes → Option (List String × Bytes)
  | 0, _ => none
  | bound + 1, bytes => do
    let (line, rest) ← splitLine? bytes
    if line.isEmpty then some ([], rest)
    else
      let (lines, body) ← splitHead? bound rest
      some (Utf8.decodeLossy line :: lines, body)

/-- The status in the first line of a reply. -/
def status? (line : String) : Option Nat :=
  match splitAt ' ' line.toList with
  | _ :: digits :: _ => if digits.length = 3 then continueNumeral? 10 0 digits else none
  | _ => none

/-- A name in lower case and a value without blanks around it. -/
def header (line : String) : String × String :=
  let (name, value) := Url.cut ':' line.toList
  (String.ofList (name.map Char.toLower), String.ofList (Url.clean (value.getD [])))

/-- The body that is sent in parts, each led by its length. The bound is on the number of parts. -/
def joinParts? : Nat → Bytes → Option Bytes
  | 0, _ => none
  | bound + 1, bytes => do
    let (line, rest) ← splitLine? bytes
    let size ← continueNumeral? 16 0 (Url.clean (Url.cut ';' (Utf8.decodeLossy line).toList).1)
    if size = 0 then some []
    else if rest.length < size then none
    else
      let (_, next) ← splitLine? (rest.drop size)
      some (rest.take size ++ (← joinParts? bound next))

def body? (headers : List (String × String)) (bytes : Bytes) : Option Bytes :=
  if headers.lookup "transfer-encoding" = some "chunked" then joinParts? (bytes.length + 1) bytes
  else
    match headers.lookup "content-length" with
    | none => some bytes
    | some text => do
      let length ← continueNumeral? 10 0 text.toList
      if bytes.length < length then none else some (bytes.take length)

/-- The reply in the bytes that a server sent, behind interim replies. The bound is on the number of
replies. -/
def readReply? : Nat → Bytes → Option Reply
  | 0, _ => none
  | bound + 1, bytes => do
    let (lines, rest) ← splitHead? (bytes.length + 1) bytes
    match lines with
    | [] => none
    | first :: more =>
      let status ← status? first
      let headers := more.map header
      if !Reply.isFinal status then readReply? bound rest
      else if Reply.lacksBody status then some ⟨status, []⟩
      else some ⟨status, ← body? headers rest⟩

/-- The reply in the bytes that a server sent. -/
def toReply? (bytes : Bytes) : Option Reply := readReply? (bytes.length + 1) bytes

end Message

end StakeSnapshot.Http
