/-!
# Numerals

Reading the digits of a number in some base, the two forms of a number that appear in texts
(a 64 bit count in decimal, an amount in one of four bases), and the decimal text of the 64 bit
float nearest to a natural number.
-/

namespace StakeSnapshot

/-- The value of a digit or a letter, letters of either case going on after nine. -/
def digitValue? (c : Char) : Option Nat :=
  if '0' ≤ c ∧ c ≤ '9' then some (c.toNat - '0'.toNat)
  else if 'a' ≤ c ∧ c ≤ 'z' then some (c.toNat - 'a'.toNat + 10)
  else if 'A' ≤ c ∧ c ≤ 'Z' then some (c.toNat - 'A'.toNat + 10)
  else none

/-- The number whose digits in `base` continue the number `n`. -/
def continueNumeral? (base : Nat) : Nat → List Char → Option Nat
  | n, [] => some n
  | n, c :: rest => do
    let d ← digitValue? c
    if d < base then continueNumeral? base (n * base + d) rest else none

/-- A count as it is given on a command line or quoted in a reply: decimal digits after an
optional `+`, at least one of them, below `2 ^ 64`. -/
def countOfText? (text : String) : Option UInt64 := do
  let digits := match text.toList with
    | '+' :: digits => digits
    | digits => digits
  if digits.isEmpty then none
  let n ← continueNumeral? 10 0 digits
  if n < UInt64.size then some (UInt64.ofNat n) else none

/-- Splits a numeral into its base, told by the letter after a leading zero, and its digits. -/
def splitBase : List Char → Nat × List Char
  | '0' :: 'x' :: digits => (16, digits)
  | '0' :: 'X' :: digits => (16, digits)
  | '0' :: 'o' :: digits => (8, digits)
  | '0' :: 'O' :: digits => (8, digits)
  | '0' :: 'b' :: digits => (2, digits)
  | '0' :: 'B' :: digits => (2, digits)
  | digits => (10, digits)

/-- The natural number written by a numeral. Underscores between digits have no meaning, and no
digits at all mean zero. -/
def naturalOfText? (text : String) : Option Nat :=
  let (base, digits) := splitBase text.toList
  continueNumeral? base 0 (digits.filter (· ≠ '_'))

/-- The digits of `n` in `base`, which lies between two and sixteen. -/
def digitsIn (base n : Nat) : String :=
  String.ofList (Nat.toDigits base n)

/-! ## Floats of whole numbers -/

/-- The least number of 53 bits. -/
def leastSignificand : Nat := 1 <<< 52

/-- A whole number rounded to a significand of 53 bits, ties to even, as its significand and
binary exponent. Numbers of at most 53 bits keep the exponent zero. -/
def roundToDouble (n : Nat) : Nat × Nat :=
  if n < 2 * leastSignificand then (n, 0)
  else
    let shift := n.log2 - 52
    let m := n >>> shift
    let rest := n - m <<< shift
    let half := 1 <<< (shift - 1)
    let m := if half < rest ∨ (rest = half ∧ m % 2 = 1) then m + 1 else m
    if m = 2 * leastSignificand then (leastSignificand, shift + 1) else (m, shift)

/-- Whether a whole number lies among the reals that round to the float `m * 2 ^ e`. Distances are
counted in quarters, since the gap below a power of two is half of the gap above it; the ends of
the range belong to it when `m` is even. -/
def roundsTo (m e n : Nat) : Bool :=
  let value := m <<< e
  let gap := if n ≤ value then 4 * (value - n) else 4 * (n - value)
  let bound := if n ≤ value ∧ m = leastSignificand then 1 <<< e else 2 <<< e
  gap < bound ∨ (gap = bound ∧ m % 2 = 0)

/-- The multiple of `10 ^ zeros` that rounds to `m * 2 ^ e`, the nearer one if both neighbours
do. -/
def roundedDecimal? (m e zeros : Nat) : Option Nat :=
  let unit := Nat.pow 10 zeros
  let value := m <<< e
  let lower := value / unit * unit
  let upper := lower + unit
  let candidates := if value - lower < upper - value then [lower, upper] else [upper, lower]
  candidates.find? (roundsTo m e)

/-- The first rounded decimal from the given number of trailing zeros downwards. -/
def shortestDecimal (m e : Nat) : Nat → Nat
  | 0 => m <<< e
  | zeros + 1 => (roundedDecimal? m e (zeros + 1)).getD (shortestDecimal m e zeros)

/-- The number printed for a whole number that is kept as a 64 bit float: the fewest digits that
identify the float, filled up with zeros. -/
def printedDouble (n : Nat) : Nat :=
  let (m, e) := roundToDouble n
  if e = 0 then m else shortestDecimal m e 20

end StakeSnapshot
