import StakeSnapshot.Abi.Type

/-!
# Writing values

Values of a list are laid out in a head and a tail. A part of fixed size stands in the head; for
any other part the head has the word that counts the bytes from the start of the head to the part,
which stands in the tail.
-/

namespace StakeSnapshot.Abi

/-- A part of a layout. -/
inductive Part where
  /-- Stands in the head. -/
  | inline (bytes : Bytes)
  /-- Stands in the tail. -/
  | apart (bytes : Bytes)

namespace Part

/-- What a part takes up in the head. -/
def headSize : Part → Nat
  | .inline bytes => bytes.length
  | .apart _ => 32

def isInline : Part → Bool
  | .inline _ => true
  | .apart _ => false

end Part

/-- The word of a natural number. -/
def wordOfNat (n : Nat) : Bytes := Bytes.ofNat 32 n

/-- What a list of parts takes up in the head. -/
def headLength : List Part → Nat
  | [] => 0
  | part :: parts => part.headSize + headLength parts

/-- The head of a list of parts, whose tail parts begin at the given offset. -/
def heads : Nat → List Part → Bytes
  | _, [] => []
  | offset, .inline bytes :: parts => bytes ++ heads offset parts
  | offset, .apart bytes :: parts => wordOfNat offset ++ heads (offset + bytes.length) parts

/-- The tail of a list of parts. -/
def tails : List Part → Bytes
  | [] => []
  | .inline _ :: parts => tails parts
  | .apart bytes :: parts => bytes ++ tails parts

def layout (parts : List Part) : Bytes :=
  heads (headLength parts) parts ++ tails parts

/-- Bytes after their number, filled up with zeros to whole words. -/
def packed (bytes : Bytes) : Bytes :=
  wordOfNat bytes.length ++ bytes ++ List.replicate ((32 - bytes.length % 32) % 32) 0

mutual

/-- The part of a value. -/
def Ty.part : (t : Ty) → t.Value → Part
  | .address, a => .inline (wordOfNat a.toNat)
  | .uint256, w => .inline w.toBytes
  | .int256, w => .inline w.toBytes
  | .uint8, n => .inline (wordOfNat n.toNat)
  | .bool, b => .inline (wordOfNat b.toNat)
  | .bytes32, w => .inline w.toBytes
  | .bytes, bytes => .apart (packed bytes)
  | .string, text => .apart (packed (Bytes.ofString text))
  | .array item, values => .apart (wordOfNat values.length ++ layout (values.map item.part))
  | .tuple ts, values =>
    let parts := valueParts ts values
    if parts.all Part.isInline then .inline (layout parts) else .apart (layout parts)

/-- The parts of a list of values. -/
def valueParts : (ts : List Ty) → Values ts → List Part
  | [], _ => []
  | t :: ts, (value, values) => t.part value :: valueParts ts values

end

/-- The bytes of a list of values. -/
def encode (ts : List Ty) (values : Values ts) : Bytes :=
  layout (valueParts ts values)

end StakeSnapshot.Abi
