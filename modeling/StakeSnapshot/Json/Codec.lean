import StakeSnapshot.Address
import StakeSnapshot.Amount
import StakeSnapshot.Json.ByteArray

/-!
# Values with a JSON form

`JsonForm` pairs the writer of a type with its readers: one of a text, and one of a value that was
read before. They differ for byte arrays only (`Json.ByteArray`), and for what holds them. A record
is described once, by the list of its fields (`RecordForm`): the list gives the order of writing,
and the readers that accept members in any order, ignore unknown ones, and refuse a field that is
missing, repeated or of the wrong type.
-/

namespace StakeSnapshot

class JsonForm (α : Type) where
  toJson : α → Json
  ofJson? : Json → Option α
  read : Json.Reader α := .via ofJson?

export JsonForm (toJson)

namespace Json

variable {α : Type} [JsonForm α]

/-- The value written by a text. -/
def parse? (text : String) : Option α := Reader.whole JsonForm.read text

/-- A number, if it is natural and within 64 bits. -/
def count? : Json → Option UInt64
  | .natural n => if n < UInt64.size then some (UInt64.ofNat n) else none
  | _ => none

instance : JsonForm Bool where
  toJson := .bool
  ofJson?
    | .bool b => some b
    | _ => none

instance : JsonForm String where
  toJson := .string
  ofJson?
    | .string s => some s
    | _ => none

instance : JsonForm UInt64 where
  toJson n := .natural n.toNat
  ofJson? := count?

/-- An address is written as text. It is also read from an array of its bytes. -/
instance : JsonForm Address where
  toJson a := .string a.toText
  ofJson? value := (ByteArray.ofJson? 20 value).map Address.ofBytes
  read := (ByteArray.read 20).map Address.ofBytes

/-- An amount is written as hexadecimal text, and read from the text of a number in any of its
bases or from a number within 64 bits. -/
instance : JsonForm Amount where
  toJson a := .string a.toText
  ofJson?
    | .string s => Amount.ofText? s
    | value => (count? value).map Amount.ofCount

instance : JsonForm (List α) where
  toJson items := .array (items.map toJson)
  ofJson?
    | .array items => items.mapM JsonForm.ofJson?
    | _ => none
  read := .list JsonForm.read

/-- A missing value is written as `null`. -/
instance : JsonForm (Option α) where
  toJson
    | some a => toJson a
    | none => .null
  ofJson?
    | .null => some none
    | value => (JsonForm.ofJson? value).map some
  read := .optional JsonForm.read

/-- The name of a constant: a string, or an object with that key alone and no content. -/
def constant? : Json → Option String
  | .string s => some s
  | .object [(name, .null)] => some name
  | _ => none

end Json

/-- The form of a type of named constants. -/
@[reducible] def JsonForm.ofNames {α : Type} (all : List α) (name : α → String) : JsonForm α where
  toJson a := .string (name a)
  ofJson? value := do
    let s ← value.constant?
    all.find? (name · = s)

/-- Which records may be read without a field, which then keeps its blank value. -/
inductive Presence where
  | required
  /-- An object may lack the field. -/
  | mayMiss
  /-- An object may lack the field, and an array may end before it. -/
  | defaulted
deriving DecidableEq

/-- A field of the records `ρ`. -/
structure FieldForm (ρ : Type) where
  name : String
  /-- The field's value in a record. -/
  write : ρ → Json
  /-- Puts a value into a record. -/
  set? : Json → ρ → Option ρ
  /-- Reads the value into a record. -/
  read : ρ → Json.Reader ρ
  presence : Presence

namespace FieldForm

variable {ρ α : Type} [JsonForm α]

/-- A field that every record has. -/
def required (name : String) (get : ρ → α) (set : α → ρ → ρ) : FieldForm ρ where
  name := name
  write r := toJson (get r)
  set? value r := (JsonForm.ofJson? value).map (set · r)
  read r := JsonForm.read.map (set · r)
  presence := .required

/-- A field that may be left out of an object. -/
def mayMiss (name : String) (get : ρ → α) (set : α → ρ → ρ) : FieldForm ρ :=
  { required name get set with presence := .mayMiss }

/-- A field that may be left out. -/
def defaulted (name : String) (get : ρ → α) (set : α → ρ → ρ) : FieldForm ρ :=
  { required name get set with presence := .defaulted }

end FieldForm

/-- The form of a type of records: a blank record and the fields in the order of writing. -/
class RecordForm (ρ : Type) where
  blank : ρ
  fields : List (FieldForm ρ)

namespace RecordForm

variable {ρ : Type}

/-- The members of a record's object. -/
def members [RecordForm ρ] (r : ρ) : List (String × Json) :=
  (fields : List (FieldForm ρ)).map fun f => (f.name, f.write r)

/-- Whether a record may be read from an object that has only the given fields. -/
def isComplete [RecordForm ρ] (seen : List String) : Bool :=
  (fields : List (FieldForm ρ)).all fun f => f.presence != .required || seen.contains f.name

/-! ### Records in values -/

/-- Puts a member of an object into a record, whose fields that were seen are noted. -/
def addMember [RecordForm ρ] (found : ρ × List String) (member : String × Json) :
    Option (ρ × List String) :=
  match (fields : List (FieldForm ρ)).find? (·.name = member.1) with
  | none => some found
  | some f =>
    if found.2.contains f.name then none
    else (f.set? member.2 found.1).map (·, f.name :: found.2)

/-- Puts as many items into the fields, in order. -/
def setItems : List (FieldForm ρ) → List Json → ρ → Option ρ
  | [], [], r => some r
  | f :: fields, item :: items, r => do setItems fields items (← f.set? item r)
  | f :: fields, [], r => if f.presence = .defaulted then setItems fields [] r else none
  | [], _ :: _, _ => none

/-- A record is an object, or an array of its fields' values. -/
def ofJson? [RecordForm ρ] : Json → Option ρ
  | .object members => do
    let (r, seen) ← members.foldlM addMember (blank, [])
    if isComplete (ρ := ρ) seen then some r else none
  | .array items => setItems fields items blank
  | _ => none

/-! ### Records in texts -/

/-- Reads a member of an object into a record, whose fields that were seen are noted. -/
def readMember [RecordForm ρ] (name : String) (found : ρ × List String) :
    Json.Reader (ρ × List String) :=
  match (fields : List (FieldForm ρ)).find? (·.name = name) with
  | none => .skip found
  | some f =>
    if found.2.contains f.name then .refuse else (f.read found.1).map (·, f.name :: found.2)

/-- Reads the fields from the items of an array, in order. -/
def readItems : List (FieldForm ρ) → (first : Bool) → ρ → Json.Reader ρ
  | [], first, r => fun _ text =>
    match Json.Reader.next? first text with
    | some (.close rest) => some (r, rest)
    | _ => none
  | f :: fields, first, r => fun bound text =>
    match Json.Reader.next? first text with
    | some (.item rest) => do
      let (r, rest) ← f.read r bound rest
      readItems fields false r bound rest
    | some (.close rest) =>
      if (f :: fields).all (·.presence == .defaulted) then some (r, rest) else none
    | none => none

/-- A record is read from an object, or from an array of its fields' values. -/
def read [RecordForm ρ] : Json.Reader ρ := fun bound text =>
  match Json.skipBlank text with
  | '[' :: rest => readItems fields true blank bound rest
  | text => do
    let ((r, seen), rest) ← Json.Reader.object readMember (blank, []) bound text
    if isComplete (ρ := ρ) seen then some (r, rest) else none

instance [RecordForm ρ] : JsonForm ρ where
  toJson r := .object (members r)
  ofJson? := ofJson?
  read := read

/-- Puts one named value into a record. The name must be that of a field. -/
def update [RecordForm ρ] (r : ρ) (member : String × Json) : Option ρ := do
  let f ← (fields : List (FieldForm ρ)).find? (·.name = member.1)
  f.set? member.2 r

/-- Puts the members of an object into a record, each of which must be a field. -/
def overlay? [RecordForm ρ] (r : ρ) : Json → Option ρ
  | .object members => members.foldlM update r
  | _ => none

end RecordForm

end StakeSnapshot
