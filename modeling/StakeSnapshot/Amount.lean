import StakeSnapshot.Bytes
import StakeSnapshot.Text.Numeral

/-!
# Amounts

Token amounts, ratios, fees and times read from contracts are words of 256 bits. Ratios and fees
are in fixed point: `Amount.one` is `10 ^ 18` and means one, or a hundred percent. Sums wrap;
products are checked where they may not fit.
-/

namespace StakeSnapshot

abbrev Word := BitVec 256

abbrev Amount := Word

namespace Word

/-- The thirty-two bytes of a word. -/
def toBytes (w : Word) : Bytes := Bytes.ofNat 32 w.toNat

/-- The word of thirty-two bytes. Of a longer string the last thirty-two count. -/
def ofBytes (bytes : Bytes) : Word := BitVec.ofNat 256 (Bytes.toNat bytes)

@[simp] theorem length_toBytes (w : Word) : w.toBytes.length = 32 := Bytes.length_ofNat _ _

end Word

namespace Amount

/-- The fixed point one. -/
def one : Amount := 1000000000000000000#256

/-- The product, if it fits into a word. -/
def mul? (a b : Amount) : Option Amount :=
  if a.umulOverflow b then none else some (a * b)

/-- The amount as a 64 bit count, or the largest one. -/
def saturate (a : Amount) : UInt64 :=
  if a.toNat < UInt64.size then UInt64.ofNat a.toNat else UInt64.ofNat (UInt64.size - 1)

def ofCount (n : UInt64) : Amount := BitVec.ofNat 256 n.toNat

/-- The amount of a natural number, if it fits into a word. -/
def ofNat? (n : Nat) : Option Amount :=
  let a := BitVec.ofNat 256 n
  if a.toNat = n then some a else none

/-- The amount written by a numeral in decimal, hexadecimal, octal or binary. -/
def ofText? (text : String) : Option Amount := do
  ofNat? (← naturalOfText? text)

/-- `0x` and the hexadecimal digits without leading zeros. -/
def toText (a : Amount) : String := "0x" ++ digitsIn 16 a.toNat

/-- The decimal digits, as messages show an amount. -/
def decimal (a : Amount) : String := toString a.toNat

end Amount

end StakeSnapshot
