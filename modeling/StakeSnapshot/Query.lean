import StakeSnapshot.Chain.Block
import StakeSnapshot.Chain.Config
import StakeSnapshot.Contract.Interface
import StakeSnapshot.Snapshot
import StakeSnapshot.Task.Basic

/-!
# What a snapshot asks

The questions of a snapshot: to the execution chain, to the beacon chain, and to the session, which
remembers the beacon configuration and keeps the metrics. `read` asks a single contract function.
-/

namespace StakeSnapshot

/-- Questions to the execution chain. -/
inductive ExecutionQuery : Type → Type where
  /-- The header of the latest block. -/
  | latestBlock : ExecutionQuery BlockHeader
  /-- The result of a call at a block. -/
  | call (call : ContractCall) (block : UInt64) : ExecutionQuery Bytes
  /-- The results of many calls at a block, in order. -/
  | batchCall (calls : List ContractCall) (block : UInt64) : ExecutionQuery (List Bytes)
  /-- What an account holds at a block. -/
  | balance (account : Address) (block : UInt64) : ExecutionQuery Amount
  /-- What many accounts hold at a block, in order. -/
  | bulkBalances (accounts : List Address) (block : UInt64) : ExecutionQuery (List Amount)

/-- Questions to the beacon chain. -/
inductive BeaconQuery : Type → Type where
  | config : BeaconQuery BeaconConfig
  | head : BeaconQuery BeaconHead
  /-- The block of a slot, unless the slot was missed. -/
  | block (slot : UInt64) : BeaconQuery (Option BeaconBlock)

/-- Questions to the session. -/
inductive SessionQuery : Type → Type where
  /-- The beacon configuration, if it is known. -/
  | knownConfig : SessionQuery (Option BeaconConfig)
  | rememberConfig (config : BeaconConfig) : SessionQuery Unit
  /-- Counts a batch that is about to be sent. -/
  | countBatch : SessionQuery Unit
  /-- Shows a full snapshot in the metrics. -/
  | recordSnapshot (snapshot : Snapshot) : SessionQuery Unit

inductive Query : Type → Type where
  | execution {α : Type} (question : ExecutionQuery α) : Query α
  | beacon {α : Type} (question : BeaconQuery α) : Query α
  | session {α : Type} (question : SessionQuery α) : Query α

/-- Calls a function of the contract at `target` and reads its result. -/
def read {inputs : List Abi.Ty} {output : Abi.Ty} (m : Abi.Method inputs output)
    (target : Address) (args : Abi.Values inputs) (block : UInt64) : Task Query output.Value := do
  let data ← (Task.ask (.execution (.call (m.call target args) block))).context
    s!"calling {m.signature} on {target.checksum}"
  .ofExcept ((m.decodeResult data).mapError fun e =>
    e.toError.context s!"decoding {m.signature}")

end StakeSnapshot
