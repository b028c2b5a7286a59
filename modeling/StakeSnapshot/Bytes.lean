/-!
# Byte strings

A byte string is a list, so what a layout joins with `++` is read back with `take` and `drop`.
`Bytes.ofNat` and `Bytes.toNat` are the two sides of a big-endian numeral of fixed width, and
`Bytes.hex` and `Bytes.ofHex?` those of its hexadecimal text.
-/

namespace StakeSnapshot

abbrev Bytes := List UInt8

/-- The digit with value `n`, in lower case. Values past fifteen have no digit and print as `f`. -/
def hexDigit (n : Nat) : Char :=
  if n < 10 then Char.ofNat ('0'.toNat + n)
  else if n < 16 then Char.ofNat ('a'.toNat + (n - 10))
  else 'f'

/-- The value of a hexadecimal digit in either case. -/
def hexValue? (c : Char) : Option Nat :=
  if '0' ≤ c ∧ c ≤ '9' then some (c.toNat - '0'.toNat)
  else if 'a' ≤ c ∧ c ≤ 'f' then some (c.toNat - 'a'.toNat + 10)
  else if 'A' ≤ c ∧ c ≤ 'F' then some (c.toNat - 'A'.toNat + 10)
  else none

namespace Bytes

/-- The last `width` bytes of `n`, most significant first. -/
def ofNat : (width n : Nat) → Bytes
  | 0, _ => []
  | width + 1, n => ofNat width (n / 256) ++ [UInt8.ofNat n]

/-- The number whose base 256 digits are the given bytes. -/
def toNat (bytes : Bytes) : Nat :=
  bytes.foldl (fun n b => n * 256 + b.toNat) 0

@[simp] theorem length_ofNat (width n : Nat) : (ofNat width n).length = width := by
  induction width generalizing n with
  | zero => rfl
  | succ width ih => simp [ofNat, ih]

/-- Two lower case digits for each byte, without a prefix. -/
def hex (bytes : Bytes) : String :=
  String.ofList (bytes.flatMap fun b => [hexDigit (b.toNat / 16), hexDigit (b.toNat % 16)])

/-- The bytes written by pairs of digits, with no prefix. An odd digit or another character makes
the text unreadable. -/
def ofHexDigits? : List Char → Option Bytes
  | [] => some []
  | [_] => none
  | high :: low :: rest => do
    let h ← hexValue? high
    let l ← hexValue? low
    let bytes ← ofHexDigits? rest
    return UInt8.ofNat (h * 16 + l) :: bytes

/-- The digits of a hexadecimal text, after its optional `0x` or `0X`. -/
def stripHexPrefix : List Char → List Char
  | '0' :: 'x' :: digits => digits
  | '0' :: 'X' :: digits => digits
  | digits => digits

/-- The bytes of a hexadecimal text, whose `0x` or `0X` may be left out. -/
def ofHex? (text : String) : Option Bytes :=
  ofHexDigits? (stripHexPrefix text.toList)

/-- The hexadecimal text of a byte string, as answers and requests write it. -/
def toText (bytes : Bytes) : String :=
  "0x" ++ bytes.hex

/-- The bytes of a text in UTF-8. -/
def ofString (text : String) : Bytes :=
  text.toUTF8.toList

end Bytes

end StakeSnapshot
