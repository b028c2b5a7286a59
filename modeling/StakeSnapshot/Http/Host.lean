import StakeSnapshot.Http.Name
import StakeSnapshot.Text.Utf8

/-!
# Hosts

The host in the address of a server: a name, or a number in one of the two formats of the internet
protocol. Equal hosts have one written form: names are in lower case and in ASCII, and numbers are
printed anew.
-/

namespace StakeSnapshot.Http

inductive Host where
  | named (name : String)
  /-- A number of 32 bits. -/
  | short (n : Nat)
  /-- Eight numbers of 16 bits. -/
  | long (groups : List Nat)
deriving DecidableEq

namespace Host

/-! ## Short numbers -/

/-- A part of a short number, in the base that its first characters tell. -/
def shortPart? : List Char → Option Nat
  | [] => none
  | '0' :: 'x' :: digits => continueNumeral? 16 0 digits
  | '0' :: 'X' :: digits => continueNumeral? 16 0 digits
  | '0' :: d :: digits => continueNumeral? 8 0 (d :: digits)
  | digits => continueNumeral? 10 0 digits

/-- The parts of a name between its dots, without an empty last one. -/
def labels (text : List Char) : List (List Char) :=
  let parts := splitAt '.' text
  if 1 < parts.length ∧ parts.getLast? = some [] then parts.dropLast else parts

/-- Whether a name has to be read as a short number. -/
def endsInNumber (text : List Char) : Bool :=
  match (labels text).getLast? with
  | none => false
  | some label => (!label.isEmpty && label.all Char.isDigit) || (shortPart? label).isSome

/-- The last part fills the bytes that the parts before it leave. -/
def shortOfParts? (n : Nat) : List Nat → Option Nat
  | [] => none
  | [last] => if last < 1 <<< (8 * (4 - n)) then some last else none
  | part :: parts => do
    if part < 256 ∧ n < 3 then
      let rest ← shortOfParts? (n + 1) parts
      some (part <<< (8 * (3 - n)) + rest)
    else none

def short? (text : List Char) : Option Host := do
  let parts ← (labels text).mapM shortPart?
  (shortOfParts? 0 parts).map .short

/-- Four decimal numbers. -/
def shortText (n : Nat) : String :=
  String.intercalate "." ((Bytes.ofNat 4 n).map fun b => toString b.toNat)

/-! ## Long numbers -/

/-- A number below 256 in decimal, without leading zeros. -/
def plainByte? (text : List Char) : Option Nat := do
  let n ← continueNumeral? 10 0 text
  if n < 256 ∧ (toString n).toList = text then some n else none

/-- A group of up to four hexadecimal digits. -/
def group? (text : List Char) : Option Nat :=
  if text.isEmpty ∨ 4 < text.length then none else continueNumeral? 16 0 text

/-- Groups with colons between them. The last two may be written as four decimal numbers. -/
def groups? : List (List Char) → Option (List Nat)
  | [] => some []
  | [last] =>
    if last.contains '.' then
      match (splitAt '.' last).mapM plainByte? with
      | some [a, b, c, d] => some [a * 256 + b, c * 256 + d]
      | _ => none
    else (group? last).map ([·])
  | text :: texts => do some ((← group? text) :: (← groups? texts))

/-- The parts of a text before and after the first pair of colons. -/
def splitPair : List Char → Option (List Char × List Char)
  | [] => none
  | ':' :: ':' :: rest => some ([], rest)
  | c :: rest => (splitPair rest).map fun (before, after) => (c :: before, after)

/-- The groups of a text that may be empty. -/
def side? (text : List Char) : Option (List Nat) :=
  if text.isEmpty then some [] else groups? (splitAt ':' text)

/-- Eight groups, where a pair of colons stands for one or more groups of zero. -/
def long? (text : List Char) : Option Host :=
  match splitPair text with
  | none => do
    let groups ← side? text
    if groups.length = 8 then some (.long groups) else none
  | some (before, after) => do
    if before.contains '.' then none
    let front ← side? before
    let back ← side? after
    let known := front.length + back.length
    if known < 8 then some (.long (front ++ List.replicate (8 - known) 0 ++ back)) else none

/-- The length of the run of zeros at the start. -/
def zeroRun (groups : List Nat) : Nat := (groups.takeWhile (· = 0)).length

/-- The place and length of the first of the longest runs of zeros, if one has two or more. -/
def longestRun? (groups : List Nat) : Option (Nat × Nat) :=
  let runs := (List.range groups.length).map fun i => (i, zeroRun (groups.drop i))
  let best := runs.foldl (fun best run => if best.2 < run.2 then run else best) (0, 1)
  if best.2 < 2 then none else some best

def groupsText (groups : List Nat) : String :=
  String.intercalate ":" (groups.map (digitsIn 16))

/-- The groups in hexadecimal, with a pair of colons for the longest run of zeros. -/
def longText (groups : List Nat) : String :=
  match longestRun? groups with
  | none => groupsText groups
  | some (place, length) =>
    groupsText (groups.take place) ++ "::" ++ groupsText (groups.drop (place + length))

/-! ## Names -/

/-- The bytes of a text in which a percent sign and two digits stand for a byte. -/
def percentDecode : List Char → Bytes
  | '%' :: high :: low :: rest =>
    match hexValue? high, hexValue? low with
    | some h, some l => UInt8.ofNat (h * 16 + l) :: percentDecode rest
    | _, _ => Bytes.ofString "%" ++ percentDecode (high :: low :: rest)
  | c :: rest => Bytes.ofString (String.singleton c) ++ percentDecode rest
  | [] => []
termination_by text => text.length

/-- A name that is asked for, or a number that is written like one. -/
def name? (text : List Char) : Option Host := do
  let name ← Name.toAscii? (Utf8.decodeLossy (percentDecode text)).toList
  if name.isEmpty then none
  else if endsInNumber name then short? name
  else some (.named (String.ofList name))

/-- The host written by a text. Long numbers stand in brackets. -/
def ofText? (text : List Char) : Option Host :=
  match text with
  | '[' :: rest => if rest.getLast? = some ']' then long? rest.dropLast else none
  | _ => name? text

def text : Host → String
  | .named name => name
  | .short n => shortText n
  | .long groups => "[" ++ longText groups ++ "]"

end Host

end StakeSnapshot.Http
