/-!
# JSON values

A value keeps the members of an object in their order. Numbers are natural when they are written
with digits alone; any other number is kept as its literal. `render` writes a value, either without
blanks or with one item to a line.
-/

namespace StakeSnapshot

inductive Json where
  | null
  | bool (b : Bool)
  | natural (n : Nat)
  | number (literal : String)
  | string (text : String)
  | array (items : List Json)
  | object (members : List (String × Json))
  /-- A well formed text without a value: a string, or an object with a key, that names half of a
  surrogate pair. -/
  | unreadable
deriving Inhabited

namespace Json

/-- The value of the only member with the given name. -/
def member? (name : String) : Json → Option Json
  | .object members =>
    match members.filter (·.1 = name) with
    | [(_, value)] => some value
    | _ => none
  | _ => none

/-- The two last hexadecimal digits of a control character's escape. -/
def controlDigits (c : Char) : List Char :=
  let n := c.toNat
  let digit (d : Nat) : Char := if d < 10 then Char.ofNat (48 + d) else Char.ofNat (87 + d)
  [digit (n / 16), digit (n % 16)]

/-- Quotes, backslashes and control characters are escaped, five controls by a letter; all other
characters stand for themselves. -/
def escape (c : Char) : List Char :=
  if c = '"' then ['\\', '"']
  else if c = '\\' then ['\\', '\\']
  else if c = '\n' then ['\\', 'n']
  else if c = '\r' then ['\\', 'r']
  else if c = '\t' then ['\\', 't']
  else if c.toNat = 8 then ['\\', 'b']
  else if c.toNat = 12 then ['\\', 'f']
  else if c.toNat < 32 then ['\\', 'u', '0', '0'] ++ controlDigits c
  else [c]

/-- A string literal. -/
def quote (text : String) : List Char :=
  '"' :: (text.toList.flatMap escape ++ ['"'])

/-- How items are set apart: not at all, or each on a line of its own at some depth. -/
inductive Spacing where
  | compact
  | indented (depth : Nat)

namespace Spacing

/-- The spacing of the items inside a value. -/
def inner : Spacing → Spacing
  | .compact => .compact
  | .indented depth => .indented (depth + 1)

/-- What stands before an item or a closing bracket. -/
def lineBreak : Spacing → List Char
  | .compact => []
  | .indented depth => '\n' :: List.replicate (2 * depth) ' '

/-- What stands between a key and its value. -/
def colon : Spacing → List Char
  | .compact => [':']
  | .indented _ => [':', ' ']

end Spacing

mutual

/-- The text of a value whose closing bracket stands at the given spacing. -/
def render (spacing : Spacing) : Json → List Char
  | .null => "null".toList
  | .bool true => "true".toList
  | .bool false => "false".toList
  | .natural n => (toString n).toList
  | .number literal => literal.toList
  | .string text => quote text
  | .array [] => ['[', ']']
  | .array (item :: items) =>
    '[' :: (spacing.inner.lineBreak ++ render spacing.inner item
      ++ renderItems spacing.inner items ++ spacing.lineBreak ++ [']'])
  | .object [] => ['{', '}']
  | .object ((key, value) :: members) =>
    '{' :: (spacing.inner.lineBreak ++ quote key ++ spacing.inner.colon
      ++ render spacing.inner value ++ renderMembers spacing.inner members ++ spacing.lineBreak
      ++ ['}'])
  | .unreadable => "null".toList

/-- The items after the first, each led by a comma. -/
def renderItems (spacing : Spacing) : List Json → List Char
  | [] => []
  | item :: items =>
    ',' :: (spacing.lineBreak ++ render spacing item ++ renderItems spacing items)

/-- The members after the first, each led by a comma. -/
def renderMembers (spacing : Spacing) : List (String × Json) → List Char
  | [] => []
  | (key, value) :: members =>
    ',' :: (spacing.lineBreak ++ quote key ++ spacing.colon ++ render spacing value
      ++ renderMembers spacing members)

end

/-- The text without blanks. -/
def compact (value : Json) : String := String.ofList (render .compact value)

/-- The text with each item on its own line, indented by two for each bracket it stands in. -/
def pretty (value : Json) : String := String.ofList (render (.indented 0) value)

end Json

end StakeSnapshot
