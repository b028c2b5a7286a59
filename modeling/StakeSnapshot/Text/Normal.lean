import StakeSnapshot.Text.Normal.Data
import StakeSnapshot.Text.Table

/-!
# Normal form of texts

A letter with marks can be written in several ways: composed or not, and with its marks in any
order. In normal form all that can be composed is composed, and the other marks are in the order of
their classes (`ofText`). Syllables of Korean are composed by rule, all other characters by table.
-/

namespace StakeSnapshot.Normal

/-! ## Composed characters -/

/-- A character that a letter and a mark make. -/
structure Pair where
  letter : Char
  mark : Char
  composed : Char

def Pair.ofEntry (entry : Nat × List Char) : Pair :=
  let parts := (splitAt '.' entry.2).map fun part => Char.ofNat (Table.number part)
  ⟨Char.ofNat entry.1, parts.headD ' ', parts.getLastD ' '⟩

/-- All characters that are composed by table. -/
def pairs : List Pair := (Table.entries pairLines).map Pair.ofEntry

/-! ### Korean syllables -/

/-- A syllable has one of 19 consonants, one of 21 vowels, and one of 27 consonants or none. -/
structure Jamo where
  lead : Nat
  vowel : Nat
  /-- Zero if the syllable ends in its vowel. -/
  tail : Nat

def firstSyllable : Nat := 0xAC00
def firstLead : Nat := 0x1100
def firstVowel : Nat := 0x1161

/-- The number before that of the first consonant at the end. -/
def noTail : Nat := 0x11A7

namespace Jamo

/-- The parts of a syllable. -/
def ofChar? (c : Char) : Option Jamo :=
  let n := c.toNat - firstSyllable
  if firstSyllable ≤ c.toNat ∧ n < 19 * 21 * 28 then some ⟨n / (21 * 28), n / 28 % 21, n % 28⟩
  else none

def toChar (j : Jamo) : Char :=
  Char.ofNat (firstSyllable + (j.lead * 21 + j.vowel) * 28 + j.tail)

def parts (j : Jamo) : List Char :=
  [Char.ofNat (firstLead + j.lead), Char.ofNat (firstVowel + j.vowel)]
    ++ (if j.tail = 0 then [] else [Char.ofNat (noTail + j.tail)])

/-- The syllable of a consonant and a vowel, or of a syllable without a last consonant and one. -/
def join? (a b : Char) : Option Jamo :=
  let lead := a.toNat - firstLead
  let vowel := b.toNat - firstVowel
  let tail := b.toNat - noTail
  if firstLead ≤ a.toNat ∧ lead < 19 ∧ firstVowel ≤ b.toNat ∧ vowel < 21 then
    some ⟨lead, vowel, 0⟩
  else
    match ofChar? a with
    | some j => if j.tail = 0 ∧ noTail < b.toNat ∧ tail < 28 then some { j with tail } else none
    | none => none

end Jamo

/-! ## Order of marks -/

structure MarkClass where
  number : Nat
  run : Table.Run

def classes : List MarkClass :=
  (Table.entries classLines).map fun (number, word) => ⟨number, .ofWord word⟩

/-- The class of a mark. All other characters have class zero. -/
def classOf (c : Char) : Nat :=
  match classes.find? (·.run.contains c) with
  | some k => k.number
  | none => 0

/-- Whether a character takes the vowel from the letter before it. -/
def isVowelKiller (c : Char) : Bool := classOf c == 9

/-- Puts a character before others, and a mark behind those marks of lower classes that follow. -/
def place (c : Char) : List Char → List Char
  | [] => [c]
  | d :: rest => if 0 < classOf d ∧ classOf d < classOf c then d :: place c rest else c :: d :: rest

/-- Puts all marks in order. Those of one class stay as they are. -/
def order (text : List Char) : List Char := text.foldr place []

/-! ## Normal form -/

/-- The parts of a character, whose letter may have parts of its own, down to a depth. -/
def decomposeChar : (depth : Nat) → Char → List Char
  | 0, c => [c]
  | depth + 1, c =>
    match Jamo.ofChar? c, pairs.find? (·.composed = c) with
    | some j, _ => j.parts
    | none, some p => decomposeChar depth p.letter ++ [p.mark]
    | none, none => [c]

/-- No letter takes more than three marks. -/
def decompose (text : List Char) : List Char := text.flatMap (decomposeChar 3)

/-- What a letter and a mark make. -/
def join? (letter mark : Char) : Option Char :=
  match Jamo.join? letter mark with
  | some j => some j.toChar
  | none => (pairs.find? fun p => p.letter = letter ∧ p.mark = mark).map (·.composed)

/-- Joins a letter and the marks behind it that it takes. Given are the marks that it does not take,
the last one first, and the class of that one: marks of the same class do not pass it. -/
def composeWith (letter : Char) (passed : List Char) (last : Nat) : List Char → List Char
  | [] => letter :: passed.reverse
  | c :: rest =>
    let joined := if passed.isEmpty ∨ last < classOf c then join? letter c else none
    match joined with
    | some letter => composeWith letter passed last rest
    | none =>
      if classOf c = 0 then letter :: (passed.reverse ++ composeWith c [] 0 rest)
      else composeWith letter (c :: passed) (classOf c) rest

def compose : List Char → List Char
  | [] => []
  | c :: rest => composeWith c [] 0 rest

/-- The normal form of a text. -/
def ofText (text : List Char) : List Char := compose (order (decompose text))

end StakeSnapshot.Normal
