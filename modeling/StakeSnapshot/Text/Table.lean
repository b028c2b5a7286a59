import StakeSnapshot.Text.Numeral
import StakeSnapshot.Text.Split

/-!
# Tables of characters

What is known about single characters is kept in lines of words, which name characters by their
numbers in hexadecimal. In the simplest tables a word is a character, or the first and the last of
a run of characters.
-/

namespace StakeSnapshot.Table

/-- The number written in hexadecimal. -/
def number (word : List Char) : Nat := (continueNumeral? 16 0 word).getD 0

/-- The characters whose numbers lie between two. -/
structure Run where
  first : Nat
  last : Nat
deriving DecidableEq

def Run.contains (r : Run) (c : Char) : Bool := r.first ≤ c.toNat && c.toNat ≤ r.last

def Run.ofWord (word : List Char) : Run :=
  match splitAt '-' word with
  | first :: last :: _ => ⟨number first, number last⟩
  | _ => ⟨number word, number word⟩

/-- The runs in some lines. -/
def runs (lines : List String) : List Run := (lines.flatMap words).map Run.ofWord

/-- Whether a character is in one of some runs. -/
def has (runs : List Run) (c : Char) : Bool := runs.any (·.contains c)

/-- The words in some lines, each with the number that the last word with a colon names. -/
def entries (lines : List String) : List (Nat × List Char) :=
  collect 0 (lines.flatMap words)
where
  collect (key : Nat) : List (List Char) → List (Nat × List Char)
    | [] => []
    | (':' :: key) :: rest => collect (number key) rest
    | word :: rest => (key, word) :: collect key rest

end StakeSnapshot.Table
