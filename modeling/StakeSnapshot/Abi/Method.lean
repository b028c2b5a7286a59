import StakeSnapshot.Abi.Decode
import StakeSnapshot.Abi.Encode

/-!
# Contract functions

A function is told by its selector, the first four bytes of the digest of its signature. The
calldata of a call is the selector and the arguments; the result is a single value.
-/

namespace StakeSnapshot

/-- A call of a contract, which reads the contract's state and changes nothing. -/
structure ContractCall where
  target : Address
  calldata : Bytes
deriving DecidableEq, Hashable

namespace Abi

/-- The name and the argument types of a function. -/
def signature (name : String) (inputs : List Ty) : String :=
  name ++ "(" ++ names inputs ++ ")"

def selectorOf (name : String) (inputs : List Ty) : Bytes :=
  (keccak256 (Bytes.ofString (signature name inputs))).take 4

/-- A function that takes values of the types `inputs` and returns one of the type `output`. -/
structure Method (inputs : List Ty) (output : Ty) where
  name : String
  selector : Bytes
  selector_eq : selector = selectorOf name inputs

namespace Method

variable {inputs : List Ty} {output : Ty}

def named (name : String) : Method inputs output := ⟨name, selectorOf name inputs, rfl⟩

def signature (m : Method inputs output) : String := Abi.signature m.name inputs

/-- The selector and the arguments. -/
def calldata (m : Method inputs output) (args : Values inputs) : Bytes :=
  m.selector ++ encode inputs args

/-- The call of the function on the contract at `target`. -/
def call (m : Method inputs output) (target : Address) (args : Values inputs) : ContractCall :=
  ⟨target, m.calldata args⟩

/-- The bytes that a contract returns for a value. -/
def encodeResult (_ : Method inputs output) (value : output.Value) : Bytes :=
  encode [output] (value, ())

/-- The value that a contract returned. -/
def decodeResult (_ : Method inputs output) (data : Bytes) : Except DecodeError output.Value :=
  decode output data

/-- The arguments of a call of this function, if the calldata is one. -/
def arguments? (m : Method inputs output) (calldata : Bytes) : Option (Values inputs) :=
  if calldata.take 4 = m.selector then (decodeValues inputs (calldata.drop 4)).toOption else none

end Method

end Abi

end StakeSnapshot
