import StakeSnapshot.Json.Reader

/-!
# Members whose reading is deferred

Some members of an object have to be kept until all of it is known. Such a value must be readable as
a whole: each text in it names characters, each number is within the range of floating point, and
brackets do not stand in each other too deeply. A value that is passed over has no such limits.
-/

namespace StakeSnapshot.Json

namespace Magnitude

/-- The nearest number of 53 binary digits and zeros behind them. Of two the even one is taken. -/
def round (n : Nat) : Nat :=
  if n < 1 <<< 53 then n
  else
    let zeros := n.log2 - 52
    let kept := n >>> zeros
    let rest := n - kept <<< zeros
    let half := 1 <<< (zeros - 1)
    (if half < rest ∨ (rest = half ∧ kept % 2 = 1) then kept + 1 else kept) <<< zeros

/-- The least number that is rounded out of the range. -/
def limit : Nat := 1 <<< 1024 - 1 <<< 970

/-- The largest power of ten in the range. -/
def largestExponent : Nat := 308

/-- A number with some digits and a power of ten, both of which are rounded. -/
def isInRange (digits : Nat) (exponent : Int) : Bool :=
  digits == 0 || exponent < 0 ||
    (exponent ≤ largestExponent && round digits * round (Nat.pow 10 exponent.toNat) < limit)

/-- The digits that count are those that fit into 64 bits. The others are only counted. -/
def leading : Nat → List Char → Nat × Nat
  | n, c :: rest =>
    let next := n * 10 + (c.toNat - 48)
    if next < UInt64.size then leading next rest else (n, (c :: rest).length)
  | n, [] => (n, 0)

/-- The power of ten in the text of an exponent, which may be empty. -/
def exponent : List Char → Int
  | [] => 0
  | _ :: text =>
    let (sign, digits) := readSign text
    if sign = ['-'] then -(naturalOfDigits digits : Int) else naturalOfDigits digits

/-- Whether the number written by a literal is in the range. -/
def literalIsInRange (literal : List Char) : Bool :=
  let unsigned := match literal with
    | '-' :: rest => rest
    | _ => literal
  let (whole, rest) := spanDigits unsigned
  let (fraction, rest) := (readFraction rest).getD ([], rest)
  let (digits, dropped) := leading 0 whole
  let places := fraction.drop 1
  let (digits, left) := leading digits places
  isInRange digits (dropped - (places.length - left : Nat) + exponent rest)

end Magnitude

mutual

/-- Whether a value can be kept, whose brackets may stand in each other to the given depth. -/
def isKept (depth : Nat) : Json → Bool
  | .natural n => n < UInt64.size || Magnitude.literalIsInRange (toString n).toList
  | .number literal => Magnitude.literalIsInRange literal.toList
  | .array items =>
    match depth with
    | 0 => false
    | depth + 1 => areKept depth items
  | .object members =>
    match depth with
    | 0 => false
    | depth + 1 => membersAreKept depth members
  | .unreadable => false
  | .null | .bool _ | .string _ => true

def areKept (depth : Nat) : List Json → Bool
  | [] => true
  | item :: items => isKept depth item && areKept depth items

def membersAreKept (depth : Nat) : List (String × Json) → Bool
  | [] => true
  | (_, value) :: members => isKept depth value && membersAreKept depth members

end

/-- Reads a value that can be kept. -/
def Reader.deferred (depth : Nat) : Reader Json :=
  .via fun value => if value.isKept depth then some value else none

end StakeSnapshot.Json
