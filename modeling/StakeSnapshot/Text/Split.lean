/-!
# Splitting texts

The parts of a text between marks. There is one part more than there are marks.
-/

namespace StakeSnapshot

/-- The parts of a text between the marks. -/
def splitAt (mark : Char) : List Char → List (List Char)
  | [] => [[]]
  | c :: rest =>
    if c = mark then [] :: splitAt mark rest
    else
      match splitAt mark rest with
      | [] => [[c]]
      | part :: parts => (c :: part) :: parts

/-- The parts of a text between blanks, without empty ones. -/
def words (text : String) : List (List Char) :=
  (splitAt ' ' text.toList).filter (!·.isEmpty)

/-- The text whose parts between the marks are given. -/
def joinBy (mark : Char) : List (List Char) → List Char
  | [] => []
  | [part] => part
  | part :: parts => part ++ mark :: joinBy mark parts

end StakeSnapshot
