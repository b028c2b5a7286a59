import StakeSnapshot.Address
import StakeSnapshot.Amount

/-!
# Types of the contract interface

The types of the arguments and results of contract functions, with the Lean type of their values
and the name that goes into a function's signature.
-/

namespace StakeSnapshot.Abi

inductive Ty where
  | address
  | uint256
  | int256
  | uint8
  | bool
  | bytes32
  | bytes
  | string
  | array (item : Ty)
  | tuple (parts : List Ty)

mutual

/-- The values of a type. Signed numbers are words in two's complement. -/
@[reducible] def Ty.Value : Ty → Type
  | .address => Address
  | .uint256 => Word
  | .int256 => Word
  | .uint8 => UInt8
  | .bool => Bool
  | .bytes32 => Word
  | .bytes => Bytes
  | .string => String
  | .array item => List item.Value
  | .tuple parts => Values parts

/-- A value for each type of a list, ended by `()`. -/
@[reducible] def Values : List Ty → Type
  | [] => Unit
  | t :: ts => t.Value × Values ts

end

mutual

/-- The name of a type in signatures. -/
def Ty.name : Ty → String
  | .address => "address"
  | .uint256 => "uint256"
  | .int256 => "int256"
  | .uint8 => "uint8"
  | .bool => "bool"
  | .bytes32 => "bytes32"
  | .bytes => "bytes"
  | .string => "string"
  | .array item => item.name ++ "[]"
  | .tuple parts => "(" ++ names parts ++ ")"

/-- The names of a list of types, with commas between them. -/
def names : List Ty → String
  | [] => ""
  | [t] => t.name
  | t :: ts => t.name ++ "," ++ names ts

end

end StakeSnapshot.Abi
