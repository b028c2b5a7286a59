import StakeSnapshot.Bytes
import StakeSnapshot.Json.Basic

/-!
# Reading JSON

A reader takes what it needs from the front of the text and returns the rest. Values nest, so the
readers that call each other carry a bound on the number of calls; `Reader.whole` gives one that no
text exhausts, since each pair of calls takes a character. A text is read into a value by
`readValue`, or at once into another type by a reader that is put together from those below.
-/

namespace StakeSnapshot.Json

def isBlank (c : Char) : Bool :=
  c = ' ' || c = '\n' || c = '\t' || c = '\r'

def skipBlank (text : List Char) : List Char :=
  text.dropWhile isBlank

/-! ## Strings -/

/-- What one escape or one plain character of a string literal contributes. -/
inductive Piece where
  | char (c : Char)
  /-- Half of a pair, by its number between `0xD800` and `0xDFFF`. -/
  | surrogate (n : Nat)

/-- The piece with the given number, one of the 16 bit units. -/
def Piece.ofUnit (n : Nat) : Piece :=
  if 0xD800 ≤ n ∧ n ≤ 0xDFFF then .surrogate n else .char (Char.ofNat n)

/-- The number of a four digit escape. -/
def unitOfDigits? (a b c d : Char) : Option Nat := do
  let a ← hexValue? a
  let b ← hexValue? b
  let c ← hexValue? c
  let d ← hexValue? d
  return ((a * 16 + b) * 16 + c) * 16 + d

/-- The character of an escape by one letter. -/
def unescape? : Char → Option Char
  | '"' => some '"'
  | '\\' => some '\\'
  | '/' => some '/'
  | 'b' => some (Char.ofNat 8)
  | 'f' => some (Char.ofNat 12)
  | 'n' => some '\n'
  | 'r' => some '\r'
  | 't' => some '\t'
  | _ => none

/-- Reads the pieces of a literal up to its closing quote, the last piece first. -/
def readPieces (read : List Piece) : List Char → Option (List Piece × List Char)
  | [] => none
  | '"' :: rest => some (read, rest)
  | '\\' :: 'u' :: a :: b :: c :: d :: rest =>
    match unitOfDigits? a b c d with
    | some n => readPieces (.ofUnit n :: read) rest
    | none => none
  | '\\' :: e :: rest =>
    match unescape? e with
    | some c => readPieces (.char c :: read) rest
    | none => none
  | c :: rest => if c.toNat < 32 then none else readPieces (.char c :: read) rest

/-- Joins the two halves of each pair. A half on its own makes the string no text. -/
def joinPieces (joined : List Char) : List Piece → Option (List Char)
  | [] => some joined
  | .char c :: rest => joinPieces (c :: joined) rest
  | .surrogate low :: .surrogate high :: rest =>
    if high < 0xDC00 ∧ 0xDC00 ≤ low then
      joinPieces (Char.ofNat (0x10000 + (high - 0xD800) * 0x400 + (low - 0xDC00)) :: joined) rest
    else none
  | .surrogate _ :: _ => none

/-- Reads a literal after its opening quote. The text is missing when it names half of a pair. -/
def readString (text : List Char) : Option (Option String × List Char) :=
  match readPieces [] text with
  | some (pieces, rest) => some ((joinPieces [] pieces).map String.ofList, rest)
  | none => none

/-! ## Numbers -/

/-- A run of digits and what follows it. -/
def spanDigits (text : List Char) : List Char × List Char :=
  text.span Char.isDigit

/-- The digits before the point: a zero alone, or a run that starts with another digit. -/
def readWhole (text : List Char) : Option (List Char × List Char) :=
  match spanDigits text with
  | ([], _) => none
  | (['0'], rest) => some (['0'], rest)
  | ('0' :: _, _) => none
  | (digits, rest) => some (digits, rest)

/-- A point and at least one digit, if there is a point. -/
def readFraction : List Char → Option (List Char × List Char)
  | '.' :: rest =>
    match spanDigits rest with
    | ([], _) => none
    | (digits, rest) => some ('.' :: digits, rest)
  | text => some ([], text)

/-- The sign of an exponent, if there is one. -/
def readSign : List Char → List Char × List Char
  | '+' :: rest => (['+'], rest)
  | '-' :: rest => (['-'], rest)
  | text => ([], text)

/-- An `e`, an optional sign and at least one digit, if there is an `e`. -/
def readExponent : List Char → Option (List Char × List Char)
  | c :: rest =>
    if c = 'e' ∨ c = 'E' then
      let (sign, rest) := readSign rest
      match spanDigits rest with
      | ([], _) => none
      | (digits, rest) => some (c :: (sign ++ digits), rest)
    else some ([], c :: rest)
  | [] => some ([], [])

/-- The natural number of a run of decimal digits. -/
def naturalOfDigits (digits : List Char) : Nat :=
  digits.foldl (fun n c => n * 10 + (c.toNat - 48)) 0

def readNumber (text : List Char) : Option (Json × List Char) := do
  let (sign, rest) := match text with
    | '-' :: rest => (['-'], rest)
    | _ => ([], text)
  let (whole, rest) ← readWhole rest
  let (fraction, rest) ← readFraction rest
  let (exponent, rest) ← readExponent rest
  if sign.isEmpty ∧ fraction.isEmpty ∧ exponent.isEmpty then
    return (.natural (naturalOfDigits whole), rest)
  else
    return (.number (String.ofList (sign ++ whole ++ fraction ++ exponent)), rest)

/-! ## Values -/

/-- The object with the given members, if its keys could be read. -/
def objectOf (members : List (Option String × Json)) : Json :=
  match members.mapM fun (key, value) => key.map (·, value) with
  | some members => .object members
  | none => .unreadable

mutual

/-- Reads a value, after blanks. -/
def readValue : Nat → List Char → Option (Json × List Char)
  | 0, _ => none
  | bound + 1, text =>
    match skipBlank text with
    | 'n' :: 'u' :: 'l' :: 'l' :: rest => some (.null, rest)
    | 't' :: 'r' :: 'u' :: 'e' :: rest => some (.bool true, rest)
    | 'f' :: 'a' :: 'l' :: 's' :: 'e' :: rest => some (.bool false, rest)
    | '"' :: rest =>
      match readString rest with
      | some (some s, rest) => some (.string s, rest)
      | some (none, rest) => some (.unreadable, rest)
      | none => none
    | '[' :: rest =>
      match skipBlank rest with
      | ']' :: rest => some (.array [], rest)
      | _ => readItems bound [] rest
    | '{' :: rest =>
      match skipBlank rest with
      | '}' :: rest => some (.object [], rest)
      | _ => readMembers bound [] rest
    | text => readNumber text

/-- Reads items up to the closing bracket. -/
def readItems : Nat → List Json → List Char → Option (Json × List Char)
  | 0, _, _ => none
  | bound + 1, read, text =>
    match readValue bound text with
    | some (item, rest) =>
      match skipBlank rest with
      | ',' :: rest => readItems bound (item :: read) rest
      | ']' :: rest => some (.array (item :: read).reverse, rest)
      | _ => none
    | none => none

/-- Reads members up to the closing brace. -/
def readMembers : Nat → List (Option String × Json) → List Char → Option (Json × List Char)
  | 0, _, _ => none
  | bound + 1, read, text =>
    match skipBlank text with
    | '"' :: rest =>
      match readString rest with
      | some (key, rest) =>
        match skipBlank rest with
        | ':' :: rest =>
          match readValue bound rest with
          | some (value, rest) =>
            match skipBlank rest with
            | ',' :: rest => readMembers bound ((key, value) :: read) rest
            | '}' :: rest => some (objectOf ((key, value) :: read).reverse, rest)
            | _ => none
          | none => none
        | _ => none
      | none => none
    | _ => none

end

/-! ## Readers of other types -/

/-- Takes what it reads from the front of a text and returns the rest. The number bounds how many
readers call each other. -/
abbrev Reader (α : Type) := Nat → List Char → Option (α × List Char)

namespace Reader

variable {α σ : Type}

/-- Reads nothing. -/
def refuse : Reader α := fun _ _ => none

/-- Changes what was read. -/
def map (f : α → σ) (read : Reader α) : Reader σ := fun bound text =>
  (read bound text).map fun (a, rest) => (f a, rest)

/-- Fills a place that is still empty. -/
def once (place : Option α) (read : Reader α) (put : α → σ) : Reader σ :=
  if place.isSome then refuse else read.map put

/-- Reads what a value stands for. -/
def via (f : Json → Option α) : Reader α := fun bound text => do
  let (value, rest) ← readValue bound text
  some (← f value, rest)

/-- Reads a value for its text, without the blanks before it. -/
def raw : Reader String := fun bound text => do
  let text := skipBlank text
  let (_, rest) ← readValue bound text
  some (String.ofList (text.take (text.length - rest.length)), rest)

/-- What comes next in an array: its end, or an item. -/
inductive Next where
  | close (rest : List Char)
  | item (rest : List Char)

/-- What comes next after the opening bracket (`first`) or after an item. -/
def next? (first : Bool) (text : List Char) : Option Next :=
  match skipBlank text with
  | ']' :: rest => some (.close rest)
  | ',' :: rest => if first then none else some (.item rest)
  | text => if first then some (.item text) else none

/-- Reads the items of an array, those before them being given, the last one first. -/
def items (read : Reader α) : Nat → List α → List Char → Option (List α × List Char)
  | 0, _, _ => none
  | bound + 1, found, text =>
    match next? found.isEmpty text with
    | some (.close rest) => some (found.reverse, rest)
    | some (.item rest) =>
      match read bound rest with
      | some (item, rest) => items read bound (item :: found) rest
      | none => none
    | none => none

/-- Reads an array, each item by the same reader. -/
def list (read : Reader α) : Reader (List α) := fun bound text =>
  match skipBlank text with
  | '[' :: rest => items read bound [] rest
  | _ => none

/-- Reads `null`, or something else by a reader. -/
def optional (read : Reader α) : Reader (Option α) := fun bound text =>
  match skipBlank text with
  | 'n' :: 'u' :: 'l' :: 'l' :: rest => some (none, rest)
  | text => read.map some bound text

/-- Reads members up to the closing brace. Each value is read by `visit`, which is given the key
and what was gathered from the members before it. -/
def members (visit : String → σ → Reader σ) : Nat → σ → List Char → Option (σ × List Char)
  | 0, _, _ => none
  | bound + 1, found, text =>
    match skipBlank text with
    | '"' :: rest =>
      match readString rest with
      | some (some key, rest) =>
        match skipBlank rest with
        | ':' :: rest =>
          match visit key found bound rest with
          | some (found, rest) =>
            match skipBlank rest with
            | ',' :: rest => members visit bound found rest
            | '}' :: rest => some (found, rest)
            | _ => none
          | none => none
        | _ => none
      | _ => none
    | _ => none

/-- Reads an object member by member. -/
def object (visit : String → σ → Reader σ) (start : σ) : Reader σ := fun bound text =>
  match skipBlank text with
  | '{' :: rest =>
    match skipBlank rest with
    | '}' :: rest => some (start, rest)
    | _ => members visit bound start rest
  | _ => none

/-- Passes over a value. -/
def skip (found : σ) : Reader σ := via fun _ => some found

/-- What a whole text says, which may have blanks around it and nothing else. -/
def whole (read : Reader α) (text : String) : Option α :=
  let chars := text.toList
  match read (2 * chars.length + 2) chars with
  | some (a, rest) => if (skipBlank rest).isEmpty then some a else none
  | none => none

end Reader

/-- The value written by a text. -/
def read? (text : String) : Option Json := Reader.whole readValue text

end StakeSnapshot.Json
