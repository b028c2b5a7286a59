import StakeSnapshot.Fetch.Nodes

/-!
# Fetching minipool records

All fields of a minipool are read from its own contract. The addresses come from the registry of
all minipools, or from the list that the registry keeps for one node.
-/

namespace StakeSnapshot

namespace MinipoolField

open Contract

/-- A field that is the result of a function without arguments. -/
def row {output : Abi.Ty} (m : Abi.Method [] output)
    (set : output.Value → Minipool → Minipool) : FieldSpec Address Minipool :=
  .ofMethod m.name m (fun _ minipool => minipool) (fun _ => ()) set

/-- A field that is kept as a number, of which not every value has a meaning. -/
def numberRow {α : Type} (m : Abi.Method [] .uint8) (ofNumber : UInt8 → Except Error α)
    (set : α → Minipool → Minipool) : FieldSpec Address Minipool where
  method := m.name
  call _ minipool := m.call minipool ()
  store data r :=
    match m.decodeResult data with
    | .error e => .error e.toError
    | .ok n => (ofNumber n).map (set · r)

def table : List (FieldSpec Address Minipool) :=
  [row MinipoolDelegate.getNodeAddress fun v m => { m with nodeAddress := v },
    numberRow MinipoolDelegate.getStatus MinipoolStatus.ofNumber
      fun v m => { m with status := v },
    row MinipoolDelegate.getFinalised fun v m => { m with finalised := v },
    row MinipoolDelegate.getNodeFee fun v m => { m with nodeFee := v },
    numberRow MinipoolDelegate.getDepositType DepositType.ofNumber
      fun v m => { m with depositType := v }]

end MinipoolField

namespace Fetch

/-- The address of a minipool, by its index among all minipools. -/
def minipoolAt : FieldSpec UInt64 Address :=
  .ofMethod "getMinipoolAt" Contract.MinipoolManager.getMinipoolAt
    (fun registry _ => registry.minipoolManager) (fun index => (Amount.ofCount index, ()))
    fun a _ => a

/-- The address of a minipool, by its node and its index among the node's minipools. -/
def nodeMinipoolAt : FieldSpec (Address × UInt64) Address :=
  .ofMethod "getNodeMinipoolAt" Contract.MinipoolManager.getNodeMinipoolAt
    (fun registry _ => registry.minipoolManager)
    (fun (node, index) => (node, Amount.ofCount index, ())) fun a _ => a

/-- The addresses of all minipools, in the order of the registry. -/
def minipoolAddresses (registry : Registry) (block : UInt64) : Task Query (List Address) := do
  let count ← read Contract.MinipoolManager.getMinipoolCount registry.minipoolManager () block
  let indices ← Task.ofFaulty (indicesBelow 8 count)
  fetch (fun _ => Address.zero) [minipoolAt] registry block addressBatch indices

/-- The records of the minipools at the given addresses, in that order. -/
def minipools (registry : Registry) (block : UInt64) (addresses : List Address) :
    Task Query (List Minipool) :=
  fetch Minipool.new MinipoolField.table registry block minipoolBatch addresses

/-- The records of all minipools, in the order of the registry. -/
def allMinipools (registry : Registry) (block : UInt64) : Task Query (List Minipool) := do
  minipools registry block (← minipoolAddresses registry block)

/-- The records of the minipools of one node, in the order of the node's list. -/
def nodeMinipools (registry : Registry) (block : UInt64) (node : Address) :
    Task Query (List Minipool) := do
  let count ←
    read Contract.MinipoolManager.getNodeMinipoolCount registry.minipoolManager (node, ()) block
  let indices ← Task.ofFaulty (indicesBelow 32 count)
  let addresses ← fetch (fun _ => Address.zero) [nodeMinipoolAt] registry block addressBatch
    (indices.map (node, ·))
  minipools registry block addresses

end Fetch

end StakeSnapshot
