import StakeSnapshot.Chain.Block
import StakeSnapshot.Http.ExecutionApi.Transaction

/-!
# Blocks in results

A block is read as a whole, and refused if it is not complete, though only its number and its time
are kept. Its header stands among the other members of the object, and newer members of the header
may be missing.
-/

namespace StakeSnapshot.Http.ExecutionApi

/-- What validators take out of their deposits in a block. -/
structure Withdrawal where
  index : Quantity
  validator : Quantity
  account : Address
  amount : Quantity

instance : RecordForm Withdrawal where
  blank := ⟨⟨0⟩, ⟨0⟩, .ofBytes [], ⟨0⟩⟩
  fields :=
    [.required "index" (·.index) fun v w => { w with index := v },
      .required "validatorIndex" (·.validator) fun v w => { w with validator := v },
      .required "address" (·.account) fun v w => { w with account := v },
      .required "amount" (·.amount) fun v w => { w with amount := v }]

namespace Block

/-- The header of a block. -/
def headerForm : List MemberForm :=
  [.required Digest ["hash"], .required Digest ["parentHash"],
    .required Digest ["sha3Uncles", "ommersHash"], .required Address ["miner", "beneficiary"],
    .required Digest ["stateRoot"], .required Digest ["transactionsRoot"],
    .required Digest ["receiptsRoot"], .bytes 256 ["logsBloom"], .required Amount ["difficulty"],
    .required Quantity ["number"], .required Quantity ["gasLimit"], .required Quantity ["gasUsed"],
    .required Quantity ["timestamp"], .data "extraData", .required Digest ["mixHash"],
    .bytes 8 ["nonce"], .optional Amount ["totalDifficulty"], .optional Amount ["size"],
    .optional Quantity ["baseFeePerGas"], .optional Digest ["withdrawalsRoot"],
    .optional Quantity ["blobGasUsed"], .optional Quantity ["excessBlobGas"],
    .optional Digest ["parentBeaconBlockRoot"], .optional Digest ["requestsHash"]]

/-- The header among some members. -/
def header? (members : List (String × Json)) : Option BlockHeader := do
  if MemberForm.fit headerForm members then
    some ⟨← quantity? (← members.lookup "number"), ← quantity? (← members.lookup "timestamp")⟩
  else none

/-- The members of a block that were read. -/
structure Draft where
  uncles : Option (List Digest)
  withdrawals : Option (Option (List Withdrawal))
  transactions : Option Json
  /-- All other members, the last one first. -/
  others : List (String × Json)

/-- How deeply the brackets in a block may stand in each other. -/
def depth : Nat := 126

/-- Reads a member. Those of the header are kept until all of them are known. -/
def readMember (name : String) (d : Draft) : Json.Reader Draft :=
  match name with
  | "uncles" => .once d.uncles JsonForm.read fun uncles => { d with uncles := some uncles }
  | "withdrawals" =>
    .once d.withdrawals JsonForm.read fun all => { d with withdrawals := some all }
  | "transactions" =>
    .once d.transactions (.deferred depth) fun all => { d with transactions := some all }
  | _ => (Json.Reader.deferred depth).map fun value =>
    { d with others := (name, value) :: d.others }

/-- Reads a block for its header. -/
def read : Json.Reader BlockHeader := fun bound text => do
  let (d, rest) ← Json.Reader.object readMember ⟨none, none, none, []⟩ bound text
  if d.transactions.all areTransactions then some (← header? d.others, rest) else none

end Block

end StakeSnapshot.Http.ExecutionApi
