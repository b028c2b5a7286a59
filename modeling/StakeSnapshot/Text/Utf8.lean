import StakeSnapshot.Bytes

/-!
# Lossy reading of UTF-8

Bytes that are no text in UTF-8 are replaced: each longest part that could have begun a character
gives one replacement character. A text is read from its own bytes unchanged.
-/

namespace StakeSnapshot.Utf8

/-- A character of which some bytes are still missing: the bits read so far, how many bytes are to
come, and the range of the next one. -/
structure Pending where
  bits : Nat
  missing : Nat
  low : UInt8
  high : UInt8

/-- What a byte that starts a character stands for. -/
inductive Lead where
  | complete (c : Char)
  | pending (p : Pending)

def replacement : Char := '\uFFFD'

/-- The range of the second byte excludes overlong forms, surrogates and numbers past the last
character. A byte that starts no character is replaced at once. -/
def lead (b : UInt8) : Lead :=
  if b < 0x80 then .complete (Char.ofNat b.toNat)
  else if 0xC2 ≤ b ∧ b ≤ 0xDF then .pending ⟨b.toNat % 32, 1, 0x80, 0xBF⟩
  else if b = 0xE0 then .pending ⟨0, 2, 0xA0, 0xBF⟩
  else if b = 0xED then .pending ⟨13, 2, 0x80, 0x9F⟩
  else if 0xE1 ≤ b ∧ b ≤ 0xEF then .pending ⟨b.toNat % 16, 2, 0x80, 0xBF⟩
  else if b = 0xF0 then .pending ⟨0, 3, 0x90, 0xBF⟩
  else if 0xF1 ≤ b ∧ b ≤ 0xF3 then .pending ⟨b.toNat % 8, 3, 0x80, 0xBF⟩
  else if b = 0xF4 then .pending ⟨4, 3, 0x80, 0x8F⟩
  else .complete replacement

/-- Reads on, from the middle of a character if one is pending. -/
def readFrom : Option Pending → Bytes → List Char
  | none, [] => []
  | some _, [] => [replacement]
  | none, b :: rest =>
    match lead b with
    | .complete c => c :: readFrom none rest
    | .pending p => readFrom (some p) rest
  | some p, b :: rest =>
    if p.low ≤ b ∧ b ≤ p.high then
      let bits := p.bits * 64 + b.toNat % 64
      if p.missing = 1 then Char.ofNat bits :: readFrom none rest
      else readFrom (some ⟨bits, p.missing - 1, 0x80, 0xBF⟩) rest
    else
      match lead b with
      | .complete c => replacement :: c :: readFrom none rest
      | .pending q => replacement :: readFrom (some q) rest

/-- The text of a byte string, with replacement characters for what is no UTF-8. -/
def decodeLossy (bytes : Bytes) : String :=
  String.ofList (readFrom none bytes)

end StakeSnapshot.Utf8
