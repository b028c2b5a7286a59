import StakeSnapshot.Keccak

/-!
# Account addresses

An address is a word of 160 bits. It is read from forty hexadecimal digits in any case, and
written in lower case in records and with the mixed case of its checksum in messages.
-/

namespace StakeSnapshot

structure Address where
  bits : BitVec 160
deriving DecidableEq, Hashable

namespace Address

def zero : Address := ⟨0⟩

instance : Inhabited Address := ⟨zero⟩

/-- The address with the given number, modulo `2 ^ 160`. -/
def ofNat (n : Nat) : Address := ⟨BitVec.ofNat 160 n⟩

def toNat (a : Address) : Nat := a.bits.toNat

/-- The twenty bytes of an address. -/
def toBytes (a : Address) : Bytes := Bytes.ofNat 20 a.toNat

/-- The address of twenty bytes. Of a longer string the last twenty count. -/
def ofBytes (bytes : Bytes) : Address := ofNat (Bytes.toNat bytes)

/-- The address whose twenty bytes are given. -/
def ofBytes? (bytes : Bytes) : Option Address :=
  if bytes.length = 20 then some (ofBytes bytes) else none

/-- Forty digits, with or without `0x`. The case of the digits has no meaning. -/
def ofText? (text : String) : Option Address := do
  ofBytes? (← Bytes.ofHex? text)

/-- `0x` and forty digits in lower case. -/
def toText (a : Address) : String := a.toBytes.toText

/-- A letter is in upper case when the digit at its place in the digest of the lower case text is
eight or more. -/
def checksumDigit (c : Char) (digestDigit : Nat) : Char :=
  if 8 ≤ digestDigit then c.toUpper else c

/-- `0x` and forty digits in the case of the checksum. -/
def checksum (a : Address) : String :=
  let digits := a.toBytes.hex
  let digest := (keccak256 (Bytes.ofString digits)).flatMap fun b => [b.toNat / 16, b.toNat % 16]
  "0x" ++ String.ofList (digits.toList.zipWith checksumDigit digest)

end Address

end StakeSnapshot
