import StakeSnapshot.Abi.Type
import StakeSnapshot.Error
import StakeSnapshot.Text.Utf8

/-!
# Reading values

Values are read from the words that are needed for them, and nothing else is looked at: neither
padding nor what follows. Each value is read from the end of its word, so bits that its type has
no room for have no meaning.
-/

namespace StakeSnapshot.Abi

/-- Why bytes could not be read. -/
inductive DecodeError where
  /-- A word or byte that is needed lies past the end. -/
  | overrun
  /-- An offset or a length does not fit into 64 bits. -/
  | badOffset (word : Bytes)

def DecodeError.text : DecodeError → String
  | .overrun => "ABI decoding failed: buffer overrun while deserializing"
  | .badOffset word => "type check failed for \"offset (usize)\" with data: " ++ word.hex

def DecodeError.toError (e : DecodeError) : Error := .of .decodeMismatch e.text

/-- A place in the head of a layout. -/
structure Cursor where
  /-- The whole layout, from which offsets count. -/
  frame : Bytes
  /-- What is left of it from the cursor on. -/
  rest : Bytes

namespace Cursor

/-- The start of a layout. -/
def start (frame : Bytes) : Cursor := ⟨frame, frame⟩

/-- How many whole words are left. -/
def wordsLeft (c : Cursor) : Nat := c.rest.length / 32

/-- The next word. -/
def word (c : Cursor) : Except DecodeError (Bytes × Cursor) :=
  let word := c.rest.take 32
  if word.length = 32 then .ok (word, ⟨c.frame, c.rest.drop 32⟩) else .error .overrun

/-- The next word as an offset or a length. -/
def size (c : Cursor) : Except DecodeError (Nat × Cursor) := do
  let (word, c) ← c.word
  let n := Bytes.toNat word
  if n < UInt64.size then .ok (n, c) else .error (.badOffset word)

/-- The part of the tail to which the next word leads. -/
def follow (c : Cursor) : Except DecodeError (Bytes × Cursor) := do
  let (offset, c) ← c.size
  .ok (c.frame.drop offset, c)

/-- The bytes in the tail to which the next word leads, after their number. -/
def packed (c : Cursor) : Except DecodeError (Bytes × Cursor) := do
  let (part, c) ← c.follow
  let (length, inside) ← (start part).size
  let bytes := inside.rest.take length
  if bytes.length = length then .ok (bytes, c) else .error .overrun

end Cursor

/-- Reads as many values as are asked for, one after the other. -/
def readMany {α : Type} (read : Cursor → Except DecodeError (α × Cursor)) :
    Nat → List α → Cursor → Except DecodeError (List α)
  | 0, values, _ => .ok values.reverse
  | n + 1, values, c =>
    match read c with
    | .ok (value, c) => readMany read n (value :: values) c
    | .error e => .error e

mutual

/-- Whether the values of a type stand in the head. -/
def Ty.isInline : Ty → Bool
  | .bytes => false
  | .string => false
  | .array _ => false
  | .tuple ts => allInline ts
  | _ => true

def allInline : List Ty → Bool
  | [] => true
  | t :: ts => t.isInline && allInline ts

end

mutual

/-- Reads a value of a type and moves on in the head. Each value of an array takes a word at least,
so an array of more values than there are words is refused before any of them is read. -/
def Ty.read : (t : Ty) → Cursor → Except DecodeError (t.Value × Cursor)
  | .address, c => do
    let (word, c) ← c.word
    .ok (Address.ofBytes word, c)
  | .uint256, c => do
    let (word, c) ← c.word
    .ok (Word.ofBytes word, c)
  | .int256, c => do
    let (word, c) ← c.word
    .ok (Word.ofBytes word, c)
  | .uint8, c => do
    let (word, c) ← c.word
    .ok (UInt8.ofNat (Bytes.toNat word), c)
  | .bool, c => do
    let (word, c) ← c.word
    .ok (Bytes.toNat word != 0, c)
  | .bytes32, c => do
    let (word, c) ← c.word
    .ok (Word.ofBytes word, c)
  | .bytes, c => c.packed
  | .string, c => do
    let (bytes, c) ← c.packed
    .ok (Utf8.decodeLossy bytes, c)
  | .array item, c => do
    let (part, c) ← c.follow
    let (length, inside) ← (Cursor.start part).size
    if inside.wordsLeft < length then .error .overrun
    else do
      let values ← readMany item.read length [] (Cursor.start inside.rest)
      .ok (values, c)
  | .tuple ts, c =>
    if allInline ts then readValues ts c
    else do
      let (part, c) ← c.follow
      let (values, _) ← readValues ts (Cursor.start part)
      .ok (values, c)

/-- Reads a value of each type of a list. -/
def readValues : (ts : List Ty) → Cursor → Except DecodeError (Values ts × Cursor)
  | [], c => .ok ((), c)
  | t :: ts, c => do
    let (value, c) ← t.read c
    let (values, c) ← readValues ts c
    .ok ((value, values), c)

end

/-- The single value laid out in a function's result. -/
def decode (t : Ty) (bytes : Bytes) : Except DecodeError t.Value := do
  let (value, _) ← t.read (Cursor.start bytes)
  .ok value

/-- The values laid out in a function's arguments. -/
def decodeValues (ts : List Ty) (bytes : Bytes) : Except DecodeError (Values ts) := do
  let (values, _) ← readValues ts (Cursor.start bytes)
  .ok values

end StakeSnapshot.Abi
