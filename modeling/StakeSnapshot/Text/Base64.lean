import StakeSnapshot.Bytes

/-!
# Bytes in 64 characters

Three bytes are written as four characters of six bits each. A last group of one or two bytes is
filled up with equals signs.
-/

namespace StakeSnapshot.Base64

/-- The character of a number below 64. -/
def digit (n : Nat) : Char :=
  if n < 26 then Char.ofNat ('A'.toNat + n)
  else if n < 52 then Char.ofNat ('a'.toNat + (n - 26))
  else if n < 62 then Char.ofNat ('0'.toNat + (n - 52))
  else if n = 62 then '+'
  else '/'

/-- The first characters of a number of 24 bits. -/
def digits (count n : Nat) : List Char :=
  ([n >>> 18, n >>> 12, n >>> 6, n].take count).map fun d => digit (d % 64)

def encode : Bytes → List Char
  | [] => []
  | [a] => digits 2 (Bytes.toNat [a, 0, 0]) ++ ['=', '=']
  | [a, b] => digits 3 (Bytes.toNat [a, b, 0]) ++ ['=']
  | a :: b :: c :: rest => digits 4 (Bytes.toNat [a, b, c]) ++ encode rest

end StakeSnapshot.Base64
