import StakeSnapshot.Json.Reader

/-!
# Byte arrays of a fixed length

A byte string of a fixed length may be written as an array of numbers. `ByteArray.read` takes as
many bytes as there have to be and then looks for one more. If there is one, the array is too long.
If there is none, the look is forgotten wherever it ended, and only a closing bracket may follow: so
an item that is no byte is passed over, and with it whatever the look took of a text that is no
value at all. `ByteArray.ofItems?` is the same rule for items that were read before.
-/

namespace StakeSnapshot.Json

/-- A number that is a byte. -/
def byte? : Json → Option UInt8
  | .natural n => if n < 256 then some (UInt8.ofNat n) else none
  | _ => none

namespace ByteArray

/-! ## Where a look ends -/

/-- The rest after one more character, if it is a single byte in UTF-8. A look that ends within a
character cannot be followed by a bracket, and so has no rest. -/
def afterByte : List Char → List Char
  | [] => []
  | c :: rest => if c.utf8Size = 1 then rest else []

/-- The rest after a number of bytes. -/
def afterBytes : Nat → List Char → List Char
  | 0, text => text
  | _, [] => []
  | n, c :: rest => if c.utf8Size ≤ n then afterBytes (n - c.utf8Size) rest else []

/-- The look for a word ends behind it, or behind the first character that is wrong. -/
def afterWord : (word text : List Char) → List Char
  | [], text => text
  | _, [] => []
  | expected :: word, c :: rest =>
    if c = expected then afterWord word rest else afterByte (c :: rest)

/-- How a look goes on after a part of a string. -/
inductive Course where
  | on (rest : List Char)
  | stop (rest : List Char)

/-- The number of an escape, and what is left behind its four bytes. -/
def escapeUnit : List Char → Option Nat × List Char
  | a :: b :: c :: d :: rest =>
    match unitOfDigits? a b c d with
    | some n => (some n, rest)
    | none => (none, afterBytes 4 (a :: b :: c :: d :: rest))
  | _ => (none, [])

/-- The look for the second half of a pair. -/
def afterHighHalf : List Char → Course
  | '\\' :: 'u' :: text =>
    match escapeUnit text with
    | (some n, rest) => if 0xDC00 ≤ n ∧ n ≤ 0xDFFF then .on rest else .stop rest
    | (none, rest) => .stop rest
  | '\\' :: text => .stop (afterByte text)
  | text => .stop (afterByte text)

/-- The look for the four digits of an escape. Halves of pairs have to follow each other. -/
def afterUnit (text : List Char) : Course :=
  match escapeUnit text with
  | (some n, rest) =>
    if 0xDC00 ≤ n ∧ n ≤ 0xDFFF then .stop rest
    else if 0xD800 ≤ n ∧ n < 0xDC00 then afterHighHalf rest
    else .on rest
  | (none, rest) => .stop rest

/-- The look for a string ends behind its closing quote, or where it is no string any more. -/
def afterString : (bound : Nat) → List Char → List Char
  | 0, _ => []
  | _, [] => []
  | _, '"' :: rest => rest
  | _, ['\\'] => []
  | bound + 1, '\\' :: 'u' :: rest =>
    match afterUnit rest with
    | .on rest => afterString bound rest
    | .stop rest => rest
  | bound + 1, '\\' :: e :: rest =>
    if (unescape? e).isSome then afterString bound rest else afterByte (e :: rest)
  | bound + 1, c :: rest => if c.toNat < 32 then rest else afterString bound rest

/-- The digits of an exponent, up to the one that makes it too large. -/
def afterExponentDigits (ends : Bool) : Nat → List Char → List Char
  | exponent, c :: rest =>
    if c.isDigit then
      let exponent := exponent * 10 + (c.toNat - 48)
      if exponent < 1 <<< 31 then afterExponentDigits ends exponent rest
      else if ends then rest
      else rest.dropWhile Char.isDigit
    else c :: rest
  | _, [] => []

/-- The look for an exponent behind its letter. One that is too large ends the look at once, unless
the number is zero or very small. -/
def afterExponent (isZero : Bool) (text : List Char) : List Char :=
  let (sign, rest) := readSign text
  match rest with
  | c :: _ =>
    if c.isDigit then afterExponentDigits (!isZero && sign != ['-']) 0 rest else afterByte rest
  | [] => []

/-- The look for what may follow the digits of a number. -/
def afterDigits (isZero : Bool) : List Char → List Char
  | 'e' :: rest => afterExponent isZero rest
  | 'E' :: rest => afterExponent isZero rest
  | text => text

/-- The look for a number behind its sign. -/
def afterNumber (text : List Char) : List Char :=
  match spanDigits text with
  | ([], rest) => afterByte rest
  | ('0' :: digit :: digits, rest) => digit :: digits ++ rest
  | (digits, '.' :: rest) =>
    match spanDigits rest with
    | ([], rest) => rest
    | (fraction, rest) => afterDigits ((digits ++ fraction).all (· == '0')) rest
  | (digits, rest) => afterDigits (digits.all (· == '0')) rest

/-- What a look for a byte leaves of a text, if there is no byte. -/
def look? (text : List Char) : Option (List Char) :=
  match text with
  | 'n' :: rest => some (afterWord "ull".toList rest)
  | 't' :: rest => some (afterWord "rue".toList rest)
  | 'f' :: rest => some (afterWord "alse".toList rest)
  | '"' :: rest => some (afterString rest.length rest)
  | '-' :: rest => some (afterNumber rest)
  | c :: _ =>
    if c.isDigit then
      match readNumber text with
      | some (value, _) => if (byte? value).isSome then none else some (afterNumber text)
      | none => some (afterNumber text)
    else some text
  | [] => some []

/-! ## Reading -/

/-- The end of an array behind its last byte. -/
def close? (text : List Char) : Option (List Char) := do
  let text ← match skipBlank text with
    | ',' :: rest => look? (skipBlank rest)
    | text => some text
  match skipBlank text with
  | ']' :: rest => some rest
  | _ => none

/-- Reads as many bytes as there have to be, and the end of the array. -/
def readBytes : (length : Nat) → (first : Bool) → List Char → Option (Bytes × List Char)
  | 0, _, text => (close? text).map ([], ·)
  | length + 1, first, text =>
    match Reader.next? first text with
    | some (.item rest) => do
      let (value, rest) ← readNumber (skipBlank rest)
      let b ← byte? value
      let (bytes, rest) ← readBytes length false rest
      some (b :: bytes, rest)
    | _ => none

/-- The bytes that items stand for, of which one may be too many if it is no byte. -/
def ofItems? (length : Nat) (items : List Json) : Option Bytes :=
  match items.drop length with
  | [] => if items.length = length then items.mapM byte? else none
  | [extra] => if (byte? extra).isNone then (items.take length).mapM byte? else none
  | _ => none

/-- The bytes that a value stands for: a hexadecimal text or an array. -/
def ofJson? (length : Nat) : Json → Option Bytes
  | .string text => do
    let bytes ← Bytes.ofHex? text
    if bytes.length = length then some bytes else none
  | .array items => ofItems? length items
  | _ => none

/-- Reads bytes of a fixed length. -/
def read (length : Nat) : Reader Bytes := fun bound text =>
  match skipBlank text with
  | '[' :: rest => readBytes length true rest
  | text => Reader.via (ofJson? length) bound text

end ByteArray

end StakeSnapshot.Json
