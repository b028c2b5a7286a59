import StakeSnapshot.Text.Numeral

/-!
# Punycode

A way to write a text in ASCII. The characters of ASCII come first. For each other character, in the
order of their numbers, there follows how many places and numbers have to be passed until it is put
in. These steps are written in base 36 so that a text of one script becomes short: how many digits a
step takes depends on the steps before (`adapt`).
-/

namespace StakeSnapshot.Punycode

def base : Nat := 36

/-- The number of the first character outside ASCII. -/
def firstNumber : Nat := 128

def firstBias : Nat := 72

def isAscii (c : Char) : Bool := c.toNat < firstNumber

/-- Letters stand for the digits below 26, and digits for those above. -/
def digit (n : Nat) : Char := if n < 26 then Char.ofNat (97 + n) else Char.ofNat (22 + n)

def digit? (c : Char) : Option Nat :=
  if 'a' ≤ c ∧ c ≤ 'z' then some (c.toNat - 97)
  else if 'A' ≤ c ∧ c ≤ 'Z' then some (c.toNat - 65)
  else if '0' ≤ c ∧ c ≤ '9' then some (c.toNat - 22)
  else none

/-- A digit below this is the last one of its number. The place counts in steps of the base. -/
def threshold (bias place : Nat) : Nat :=
  if place ≤ bias then 1 else if bias + 26 ≤ place then 26 else place - bias

theorem threshold_pos (bias place : Nat) : 1 ≤ threshold bias place := by
  unfold threshold
  split
  · omega
  · split <;> omega

/-- Halves a step to the size that digits are chosen for. -/
def adaptLoop (step place : Nat) : Nat :=
  if 455 < step then adaptLoop (step / 35) (place + base) else place + base * step / (step + 38)
termination_by step
decreasing_by omega

/-- The bias after a step, when as many characters are known. -/
def adapt (step known : Nat) (isFirst : Bool) : Nat :=
  let step := if isFirst then step / 700 else step / 2
  adaptLoop (step + step / known) 0

/-! ## Writing -/

/-- The digits of a step, the least one first. -/
def digits (bias place step : Nat) : List Char :=
  let t := threshold bias place
  if step < t then [digit step]
  else digit (t + (step - t) % (base - t)) :: digits bias (place + base) ((step - t) / (base - t))
termination_by step
decreasing_by
  have := threshold_pos bias place
  have := Nat.div_le_self (step - threshold bias place) (base - threshold bias place)
  omega

/-- What was written so far. -/
structure Writing where
  /-- The digits, the last one first. -/
  written : List Char
  step : Nat
  bias : Nat
  /-- How many characters are known. -/
  known : Nat
  isFirst : Bool

/-- Passes a character of the text, or writes the step to it if it has the given number. -/
def Writing.pass (number : Nat) (w : Writing) (c : Char) : Writing :=
  if c.toNat < number then { w with step := w.step + 1 }
  else if c.toNat = number then
    { written := (digits w.bias base w.step).reverse ++ w.written
      step := 0
      bias := adapt w.step (w.known + 1) w.isFirst
      known := w.known + 1
      isFirst := false }
  else w

/-- Writes the characters with the given numbers, which go on from the least one. -/
def Writing.passAll (text : List Char) : (least : Nat) → List Nat → Writing → List Char
  | _, [], w => w.written.reverse
  | least, number :: numbers, w =>
    let w := text.foldl (pass number) { w with step := w.step + (number - least) * (w.known + 1) }
    passAll text (number + 1) numbers { w with step := w.step + 1 }

/-- The text in ASCII. -/
def encode (text : List Char) : List Char :=
  let plain := text.filter isAscii
  let numbers := ((text.filter (!isAscii ·)).map Char.toNat).mergeSort.eraseDups
  plain ++ (if plain.isEmpty then [] else ['-'])
    ++ Writing.passAll text firstNumber numbers ⟨[], 0, firstBias, plain.length, true⟩

/-! ## Reading -/

/-- What was read so far. -/
structure Reading where
  found : List Char
  number : Nat
  /-- The place of the last character that was put in, and the steps from there. -/
  position : Nat
  /-- The position before the step that is being read. -/
  start : Nat
  weight : Nat
  place : Nat
  bias : Nat
  isFirst : Bool

/-- Numbers have 32 bits. -/
def bound : Nat := 1 <<< 32

/-- The character with a number, if there is one. -/
def char? (n : Nat) : Option Char := if n.isValidChar then some (Char.ofNat n) else none

/-- Puts in the character at the position that a step ended at. -/
def Reading.insert? (r : Reading) : Option Reading := do
  let size := r.found.length + 1
  let number := r.number + r.position / size
  let c ← char? number
  let place := r.position % size
  some
    { found := r.found.take place ++ c :: r.found.drop place
      number
      position := place + 1
      start := place + 1
      weight := 1
      place := base
      bias := adapt (r.position - r.start) size r.isFirst
      isFirst := false }

/-- Reads a digit. -/
def Reading.read? (r : Reading) (c : Char) : Option Reading := do
  let n ← digit? c
  let position := r.position + n * r.weight
  if bound ≤ position then none
  let t := threshold r.bias r.place
  if n < t then ({ r with position } : Reading).insert?
  else
    let weight := r.weight * (base - t)
    if bound ≤ weight then none
    some { r with position, weight, place := r.place + base }

/-- The part before the last hyphen, and the part after it. -/
def split (text : List Char) : List Char × List Char :=
  let steps := (text.reverse.takeWhile (· ≠ '-')).reverse
  if steps.length + 1 < text.length then (text.take (text.length - steps.length - 1), steps)
  else ([], text)

/-- The text that is written in ASCII. It must not end within a step. -/
def decode? (text : List Char) : Option (List Char) := do
  let (plain, steps) := split text
  if !plain.all isAscii then none
  let r ← steps.foldlM Reading.read? ⟨plain, firstNumber, 0, 0, 1, base, firstBias, true⟩
  if r.place = base then some r.found else none

end StakeSnapshot.Punycode
