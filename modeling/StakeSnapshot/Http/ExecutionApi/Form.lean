import StakeSnapshot.Json.Deferred
import StakeSnapshot.Json.Codec

/-!
# Forms of values in remote calls

Numbers are written as quantities, in hexadecimal, and byte strings as hexadecimal texts. Large
objects are described by the forms of their members (`MemberForm`), of which most are looked at
only to see that the object is what it should be.
-/

namespace StakeSnapshot.Http.ExecutionApi

/-- A number as parameters and results write it. -/
def quantity (n : UInt64) : Json := .string ("0x" ++ digitsIn 16 n.toNat)

/-- A number in a result, of as many bits at most. -/
def number? (bits : Nat) (value : Json) : Option Nat := do
  let n := (← JsonForm.ofJson? (α := Amount) value).toNat
  if n < 1 <<< bits then some n else none

/-- A number in a result, within 64 bits. -/
def quantity? (value : Json) : Option UInt64 := (number? 64 value).map UInt64.ofNat

/-- A number in the form of a quantity. -/
structure Quantity where
  value : UInt64
deriving DecidableEq

instance : JsonForm Quantity where
  toJson q := quantity q.value
  ofJson? value := (quantity? value).map .mk

/-- Bytes in a result: a hexadecimal text, or an array of numbers. -/
def bytes? : Json → Option Bytes
  | .string text => Bytes.ofHex? text
  | .array items => items.mapM Json.byte?
  | _ => none

/-- The digest of a block, or of a part of one, which has thirty-two bytes. -/
structure Digest where
  bytes : Bytes
deriving DecidableEq

instance : JsonForm Digest where
  toJson d := .string d.bytes.toText
  ofJson? value := (Json.ByteArray.ofJson? 32 value).map .mk
  read := (Json.ByteArray.read 32).map .mk

/-! ## Members -/

/-- A member of an object. -/
structure MemberForm where
  /-- The names under which the member may stand. -/
  names : List String
  isRequired : Bool
  accepts : Json → Bool

namespace MemberForm

/-- A member of a type that every object has. -/
def required (α : Type) [JsonForm α] (names : List String) : MemberForm :=
  ⟨names, true, fun value => (JsonForm.ofJson? (α := α) value).isSome⟩

/-- A member of a type that may be left out, or be `null`. -/
def optional (α : Type) [JsonForm α] (names : List String) : MemberForm :=
  ⟨names, false, fun value => (JsonForm.ofJson? (α := Option α) value).isSome⟩

/-- A byte string of some length that every object has. -/
def bytes (length : Nat) (names : List String) : MemberForm :=
  ⟨names, true, fun value => (Json.ByteArray.ofJson? length value).isSome⟩

/-- A byte string of any length that every object has. -/
def data (name : String) : MemberForm := ⟨[name], true, fun value => (bytes? value).isSome⟩

/-- A number of as many bits at most that every object has. -/
def number (bits : Nat) (name : String) : MemberForm :=
  ⟨[name], true, fun value => (number? bits value).isSome⟩

/-- Whether some members have the form: each of them once at most, and none left out that is
required. -/
def fit (form : List MemberForm) (members : List (String × Json)) : Bool :=
  form.all fun f =>
    match members.filter (f.names.contains ·.1) with
    | [] => !f.isRequired
    | [(_, value)] => f.accepts value
    | _ => false

end MemberForm

end StakeSnapshot.Http.ExecutionApi
