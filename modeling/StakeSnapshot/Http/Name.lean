import StakeSnapshot.Http.Name.Mapping
import StakeSnapshot.Text.Direction
import StakeSnapshot.Text.Joining
import StakeSnapshot.Text.Punycode

/-!
# Names of servers

A name has parts with points between them. It may be written in any script, but is asked for in
ASCII, so a name is read in three steps: each character is replaced by what it stands for, the parts
are checked, and those that are not in ASCII are written in Punycode behind the letters `xn--`. Such
a part may be given too, if it is what the steps would lead to.
-/

namespace StakeSnapshot.Http.Name

/-! ## Characters -/

/-- The replacement of some characters. -/
structure Rule where
  run : Table.Run
  /-- Whether it is only for every second character. -/
  isAlternate : Bool
  replacement : List Nat
  /-- Whether each character has a replacement of its own. -/
  isShifted : Bool

namespace Rule

/-- The replacement of a character, if the rule is for it. -/
def image? (r : Rule) (c : Char) : Option (List Char) :=
  let place := c.toNat - r.run.first
  if r.run.contains c ∧ (r.isAlternate → place % 2 = 0) then
    some (r.replacement.map fun n => Char.ofNat (if r.isShifted then n + place else n))
  else none

/-- The numbers between points. -/
def numbers (text : List Char) : List Nat :=
  if text.isEmpty then [] else (splitAt '.' text).map Table.number

/-- The rule for a number of characters from the given one on. -/
def ofWord (next : Nat) (word : List Char) : Rule :=
  match splitAt '+' word, splitAt '/' word, splitAt '=' word with
  | [text, count], _, _ => ⟨⟨next, next + Table.number count - 1⟩, false, numbers text, true⟩
  | _, [text, count], _ => ⟨⟨next, next + 2 * Table.number count - 2⟩, true, numbers text, true⟩
  | _, _, [text, count] => ⟨⟨next, next + Table.number count - 1⟩, false, numbers text, false⟩
  | _, _, _ => ⟨⟨next, next⟩, false, numbers word, false⟩

/-- The rules of a table, each of which goes on behind the one before. -/
def ofWords (next : Nat) : List (List Char) → List Rule
  | [] => []
  | (':' :: key) :: rest => ofWords (Table.number key) rest
  | word :: rest =>
    let r := ofWord next word
    r :: ofWords (r.run.last + 1) rest

end Rule

/-- All rules. -/
def rules : List Rule := Rule.ofWords 0 (replacementLines.flatMap words)

/-- The characters that may stand for themselves. -/
def known : List Table.Run := Table.runs knownLines

/-- What is put in the place of a character, if it may be in a name. -/
def replace? (c : Char) : Option (List Char) :=
  match rules.findSome? (·.image? c) with
  | some text => some text
  | none => if Table.has known c then some [c] else none

/-- Whether a character stands for itself. -/
def isPlain (c : Char) : Bool := replace? c == some [c]

/-- Whether a character may be in a name that is asked for. -/
def isAsked (c : Char) : Bool :=
  32 < c.toNat && c.toNat < 127 && !("#%/:<>?@[\\]^|".toList.contains c)

/-! ## Parts -/

/-- A part of a name, as it is read and as it is asked for. -/
structure Part where
  text : List Char
  asked : List Char

namespace Part

/-- What stands in front of Punycode. -/
def mark : List Char := "xn--".toList

/-- The most characters that are read from Punycode, and the most that are written in it. -/
def mostRead : Nat := 2000
def mostWritten : Nat := 1000

/-- The part that Punycode stands for. It has characters outside ASCII, each for itself and in
normal form. -/
def ofPunycode? (code : List Char) : Option Part := do
  if code.isEmpty ∨ code.getLast? = some '-' ∨ mostRead < code.length then none
  let text ← Punycode.decode? code
  if text.all isPlain ∧ Normal.ofText text = text ∧ text.take 4 ≠ mark then
    some ⟨text, mark ++ code⟩
  else none

/-- The part with some characters. -/
def ofText? (text : List Char) : Option Part :=
  if text.take 4 = mark then ofPunycode? (text.drop 4)
  else if text.all Punycode.isAscii then some ⟨text, text⟩
  else if text.length ≤ mostWritten then some ⟨text, mark ++ Punycode.encode text⟩
  else none

/-- Whether no mark stands at the start, and controls stand where letters join. -/
def fits (p : Part) : Bool := !p.text.head?.any Mark.isMark && Joining.fits [] p.text

end Part

/-! ## Names -/

/-- The characters that a text stands for, in normal form. -/
def plainText? (text : List Char) : Option (List Char) := do
  Normal.ofText (← text.mapM replace?).flatten

/-- The name that is asked for. Where anything is written to the left, each part has to have one
direction. -/
def toAscii? (text : List Char) : Option (List Char) := do
  let parts ← (splitAt '.' (← plainText? text)).mapM Part.ofText?
  let isDirected := parts.any (Direction.matters ·.text)
  let name := joinBy '.' (parts.map (·.asked))
  if parts.all (·.fits) ∧ (isDirected → parts.all (Direction.fits ·.text))
      ∧ name.all isAsked then
    some name
  else none

end StakeSnapshot.Http.Name
