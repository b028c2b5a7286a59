import StakeSnapshot.Http.Host

/-!
# Addresses of servers

A URL is read once and kept in parts, so that it has one written form: the scheme and the host in
lower case, no port where it is the usual one, a path without `.` and `..`, and percent signs for
the characters that a part cannot hold. `Url.resolve?` finds a place below a base URL.
-/

namespace StakeSnapshot.Http

/-- Where a URL leads, with a name and a password for it. -/
structure Authority where
  user : String
  password : String
  /-- No host for the schemes that may leave it out. -/
  host : Option String
  port : Option Nat
deriving DecidableEq

inductive UrlPath where
  /-- The parts between the slashes. -/
  | segments (parts : List String)
  /-- A path without slashes at its start, of a URL that is no base for others. -/
  | bare (text : String)
deriving DecidableEq

structure Url where
  scheme : String
  authority : Option Authority
  path : UrlPath
  query : Option String
  fragment : Option String
deriving DecidableEq

namespace Url

/-! ## Percent signs -/

/-- A byte as a percent sign and two digits. -/
def percentByte (b : UInt8) : List Char :=
  '%' :: (Bytes.hex [b]).toList.map Char.toUpper

/-- A text in which the given characters, controls and all that is not ASCII are escaped. -/
def percentEncode (special : List Char) (text : List Char) : String :=
  String.ofList (text.flatMap fun c =>
    if special.contains c ∨ c.toNat < 32 ∨ 126 < c.toNat then
      (Bytes.ofString (String.singleton c)).flatMap percentByte
    else [c])

def fragmentSpecial : List Char := " \"<>`".toList
def querySpecial : List Char := " \"#<>".toList
def pathSpecial : List Char := " \"<>`#?\x7b\x7d".toList
def userSpecial : List Char := pathSpecial ++ "/:;=@[\\]^|".toList

/-! ## Schemes -/

/-- The usual port of a scheme of servers. -/
def usualPort? : String → Option Nat
  | "http" => some 80
  | "https" => some 443
  | "ws" => some 80
  | "wss" => some 443
  | "ftp" => some 21
  | _ => none

/-- The schemes whose URLs always have a host. -/
def isServerScheme (scheme : String) : Bool := (usualPort? scheme).isSome

/-- The schemes in which a backslash is read as a slash. -/
def isSpecialScheme (scheme : String) : Bool := isServerScheme scheme || scheme == "file"

def isSchemeChar (c : Char) : Bool := c.isAlphanum || c == '+' || c == '-' || c == '.'

/-- The scheme of a text and what follows its colon. -/
def splitScheme? (text : List Char) : Option (String × List Char) :=
  let scheme := text.takeWhile (· ≠ ':')
  match scheme, text.dropWhile (· ≠ ':') with
  | first :: more, _ :: rest =>
    if first.isAlpha && more.all isSchemeChar then
      some (String.ofList (scheme.map Char.toLower), rest)
    else none
  | _, _ => none

/-! ## Paths -/

/-- The text of a segment with its escaped dots read. -/
def plainDots : List Char → List Char
  | '%' :: '2' :: 'e' :: rest => '.' :: plainDots rest
  | '%' :: '2' :: 'E' :: rest => '.' :: plainDots rest
  | c :: rest => c :: plainDots rest
  | [] => []

/-- Whether a segment is the letter of a drive: a letter, and a colon or a bar. -/
def isDrive : List Char → Bool
  | [letter, mark] => letter.isAlpha && (mark == ':' || mark == '|')
  | _ => false

/-- Whether a segment begins with the letter of a drive. -/
def leadsDrive (segment : String) : Bool :=
  isDrive (segment.toList.takeWhile (· ≠ '\\'))

/-- The path that is one segment shorter. The letter of a drive stays. -/
def up (path : List String) : List String :=
  if path.getLast?.any leadsDrive then path else path.dropLast

/-- A segment as it is put behind a path. The letter of a drive at the start of a file's path is
written with a colon. -/
def newSegment (scheme : String) (path : List String) (segment : List Char) : String :=
  match segment with
  | [letter, _] =>
    if scheme = "file" ∧ path = [] ∧ isDrive segment then String.ofList [letter, ':']
    else percentEncode pathSpecial segment
  | _ => percentEncode pathSpecial segment

/-- Puts segments behind those of a path: `.` stays where it is, `..` goes one up. -/
def walk (scheme : String) (path : List String) : List (List Char) → List String
  | [] => path
  | [last] =>
    match plainDots last with
    | ['.'] => path ++ [""]
    | ['.', '.'] => up path ++ [""]
    | _ => path ++ [newSegment scheme path last]
  | segment :: rest =>
    match plainDots segment with
    | ['.'] => walk scheme path rest
    | ['.', '.'] => walk scheme (up path) rest
    | _ => walk scheme (path ++ [newSegment scheme path segment]) rest

/-- The segments of a path with its first slash removed. -/
def splitPath (scheme : String) (text : List Char) : List (List Char) :=
  splitAt '/' (if isSpecialScheme scheme then text.map fun c => if c = '\\' then '/' else c
    else text)

def isSlash (scheme : String) (c : Char) : Bool :=
  c == '/' || (c == '\\' && isSpecialScheme scheme)

/-- A text without its first slash. -/
def dropSlash (scheme : String) : List Char → List Char
  | [] => []
  | c :: rest => if isSlash scheme c then rest else c :: rest

/-- The path that follows an authority. Only special schemes need one. -/
def pathAfter (scheme : String) (text : List Char) : UrlPath :=
  .segments (if text.isEmpty ∧ !isSpecialScheme scheme then []
    else walk scheme [] (splitPath scheme (dropSlash scheme text)))

/-! ## Authorities -/

/-- The part of a text before the last `@`, and the part after it. -/
def splitUser (text : List Char) : Option (List Char) × List Char :=
  if text.contains '@' then
    let host := (text.reverse.takeWhile (· ≠ '@')).reverse
    (some (text.take (text.length - host.length - 1)), host)
  else (none, text)

/-- The host of a text and what follows it. A colon in brackets belongs to the host. -/
def splitHost (isInside : Bool) : List Char → List Char × List Char
  | [] => ([], [])
  | c :: rest =>
    if c = ':' ∧ !isInside then ([], c :: rest)
    else
      let (host, rest) := splitHost (c == '[' || (c != ']' && isInside)) rest
      (c :: host, rest)

/-- The port after a colon, unless it is the usual one, and a backslash with all that follows it. -/
def port? (scheme : String) : List Char → Option (Option Nat × List Char)
  | [] => some (none, [])
  | _ :: text => do
    let digits := text.takeWhile Char.isDigit
    let rest := text.drop digits.length
    if !(rest.isEmpty || rest.head? = some '\\') then none
    let n ← continueNumeral? 10 0 digits
    if 65536 ≤ n then none
    some (if digits.isEmpty ∨ usualPort? scheme = some n then none else some n, rest)

/-- Whether a character may be part of a host that is not read as a name. -/
def isOpenHostChar (c : Char) : Bool :=
  !("\x00\t\n\r #/:<>?@[\\]^|".toList.contains c)

/-- The host of a scheme that says nothing about hosts. -/
def openHost? (text : List Char) : Option (Option String) :=
  match text with
  | [] => some none
  | '[' :: _ => (Host.ofText? text).map fun h => some h.text
  | _ => if text.all isOpenHostChar then some (some (percentEncode [] text)) else none

/-- The name and the password before the `@`. -/
def credentials (text : List Char) : String × String :=
  (percentEncode userSpecial (text.takeWhile (· ≠ ':')),
    percentEncode userSpecial ((text.dropWhile (· ≠ ':')).drop 1))

/-- The authority that a text begins with, and what follows the port. Where more follows, an `@`
must not stand alone. -/
def authority? (scheme : String) (text : List Char) (isLast : Bool) :
    Option (Authority × List Char) := do
  let (credentialText, place) := splitUser text
  if credentialText = some [] ∧ place.isEmpty ∧ !isLast then none
  let (user, password) := credentials (credentialText.getD [])
  let (hostText, portText) := splitHost false place
  let host ←
    if isServerScheme scheme then (Host.ofText? hostText).map fun h => some h.text
    else openHost? hostText
  if host.isNone ∧ (user ≠ "" ∨ password ≠ "" ∨ !portText.isEmpty) then none
  let (port, rest) ← port? scheme portText
  some (⟨user, password, host, port⟩, rest)

/-! ## Files -/

/-- The authority of a file has no user and no port. -/
def fileAuthority (host : Option String) : Authority := ⟨"", "", host, none⟩

/-- The path of a file, in which no empty segments stand at the start. -/
def filePath (path : List String) : UrlPath :=
  match path.dropWhile (· = "") with
  | [] => .segments [""]
  | segments => .segments segments

/-- The host and the path of a file, with what stands before the first slash and what follows. The
letter of a drive is no host, and a path that begins with one has none. -/
def hostedFile? (hostText pathText : List Char) : Option (Authority × UrlPath) := do
  let walked := fun text => walk "file" [] (splitPath "file" text)
  if isDrive hostText then some (fileAuthority none, filePath (walked (hostText ++ pathText)))
  else if hostText.isEmpty then some (fileAuthority none, filePath (walked pathText))
  else
    let host ← Host.ofText? hostText
    if host = .named "localhost" then some (fileAuthority none, filePath (walked pathText))
    else
      let path := walked (dropSlash "file" pathText)
      let hasDrive := path.head?.any fun first => isDrive first.toList
      some (fileAuthority (if hasDrive then none else some host.text), filePath path)

/-- The host and the path of a file. -/
def file? (text : List Char) : Option (Authority × UrlPath) :=
  match text.takeWhile (isSlash "file") with
  | _ :: _ :: _ =>
    let rest := text.drop 2
    hostedFile? (rest.takeWhile fun c => !isSlash "file" c)
      (rest.dropWhile fun c => !isSlash "file" c)
  | _ => some (fileAuthority none,
      filePath (walk "file" [] (splitPath "file" (dropSlash "file" text))))

/-! ## Reading -/

/-- The authority and the path of a text after two slashes. -/
def hosted? (scheme : String) (text : List Char) (isLast : Bool) :
    Option (Authority × UrlPath) := do
  let authorityText := text.takeWhile fun c => !isSlash scheme c
  let rest := text.drop authorityText.length
  let (authority, left) ← authority? scheme authorityText (isLast && rest.isEmpty)
  some (authority, pathAfter scheme (left ++ rest))

/-- The authority and the path of a text after the scheme. Nothing follows the last part. -/
def place? (scheme : String) (text : List Char) (isLast : Bool) :
    Option (Option Authority × UrlPath) :=
  if scheme = "file" then (file? text).map fun (authority, path) => (some authority, path)
  else
    let slashes := (text.takeWhile (isSlash scheme)).length
    if isServerScheme scheme ∨ 2 ≤ slashes then
      let text := text.drop (if isServerScheme scheme then slashes else 2)
      (hosted? scheme text isLast).map fun (authority, path) => (some authority, path)
    else if slashes = 1 then some (none, pathAfter scheme text)
    else some (none, .bare (percentEncode [] text))

/-- The part of a text before a mark, and the part after it if the mark is there. -/
def cut (mark : Char) (text : List Char) : List Char × Option (List Char) :=
  (text.takeWhile (· ≠ mark), (text.dropWhile (· ≠ mark)).tail?)

/-- A text without the blanks and controls around it and the line breaks in it. -/
def clean (text : List Char) : List Char :=
  let blank (c : Char) : Bool := c.toNat ≤ 32
  ((text.dropWhile blank).reverse.dropWhile blank).reverse.filter
    fun c => c ≠ '\t' ∧ c ≠ '\n' ∧ c ≠ '\r'

/-- The URL written by a text, which has to name its scheme. -/
def ofText? (text : String) : Option Url := do
  let (scheme, rest) ← splitScheme? (clean text.toList)
  let (rest, fragment) := cut '#' rest
  let (rest, query) := cut '?' rest
  let (authority, path) ← place? scheme rest (query.isNone && fragment.isNone)
  let special := if isSpecialScheme scheme then '\'' :: querySpecial else querySpecial
  some
    { scheme
      authority
      path
      query := query.map (percentEncode special)
      fragment := fragment.map (percentEncode fragmentSpecial) }

/-! ## Writing -/

def Authority.credentialText (a : Authority) : String :=
  if a.user = "" ∧ a.password = "" then ""
  else if a.password = "" then a.user ++ "@"
  else a.user ++ ":" ++ a.password ++ "@"

/-- The host and the port, unless the port is the usual one. -/
def Authority.hostText (a : Authority) : String :=
  a.host.getD "" ++ (match a.port with
    | none => ""
    | some port => ":" ++ toString port)

def pathText : UrlPath → String
  | .segments parts => String.join (parts.map ("/" ++ ·))
  | .bare text => text

/-- What stands in front of the path. Without an authority, a path with two slashes at its start is
led by a dot. -/
def frontText : Option Authority → UrlPath → String
  | some a, _ => "//" ++ Authority.credentialText a ++ Authority.hostText a
  | none, .segments ("" :: _ :: _) => "/."
  | none, _ => ""

def optionText (mark : String) : Option String → String
  | none => ""
  | some text => mark ++ text

def text (u : Url) : String :=
  u.scheme ++ ":" ++ frontText u.authority u.path ++ pathText u.path ++ optionText "?" u.query
    ++ optionText "#" u.fragment

/-- What is asked of the server: the path and the query. -/
def targetText (u : Url) : String := pathText u.path ++ optionText "?" u.query

/-! ## Places below a base -/

/-- The segments that a relative path is put behind, and the text in front of its first segment. The
letter of a drive at the end of a file's path stays. -/
def stem (scheme : String) (path : List String) : List String × List Char :=
  match path.getLast? with
  | some last =>
    if scheme = "file" ∧ isDrive last.toList ∧ last.toList.getLast? = some ':' then
      if path.length = 1 then (path, []) else (path.dropLast, last.toList)
    else (path.dropLast, [])
  | none => ([], [])

/-- The URL at a relative path, which takes the place of the base's last segment. -/
def resolve? (base : Url) (path : String) : Option Url :=
  match base.path with
  | .bare _ => none
  | .segments parts =>
    let (front, lead) := stem base.scheme parts
    let segments := walk base.scheme front (splitPath base.scheme (lead ++ path.toList))
    some
      { base with
        path := if base.scheme = "file" then filePath segments else .segments segments
        query := none
        fragment := none }

/-- The URL without the name and the password, which are not shown. -/
def withoutCredentials (u : Url) : Url :=
  { u with authority := u.authority.map fun a => { a with user := "", password := "" } }

/-- Whether the URL leads to a server of web pages. -/
def isWeb (u : Url) : Bool := u.scheme == "http" || u.scheme == "https"

end Url

end StakeSnapshot.Http
