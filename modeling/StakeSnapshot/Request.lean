import StakeSnapshot.Clock
import StakeSnapshot.Fetch.Minipools
import StakeSnapshot.Queue.Contract

/-!
# Requests

What a user can ask for. A request about the pool finds a beacon block first, and makes all its
reads, that of the contract addresses included, at the execution block which that beacon block
carries.
-/

namespace StakeSnapshot

/-- How requests are carried out. -/
structure Settings where
  /-- How many batches may be under way at once. -/
  concurrency : UInt64
  /-- How many slots are looked at for a block. -/
  maxSlotLookback : UInt64
  /-- After how many seconds a request is given up. -/
  requestTimeoutSecs : UInt64
deriving DecidableEq

namespace Settings

def default : Settings := ⟨6, 64, 120⟩

/-- The most permits that can be kept. -/
def permitLimit : UInt64 := 2305843009213693951

/-- The number of permits, at least one. -/
def permits (s : Settings) : Except Fault UInt64 :=
  if permitLimit < s.concurrency then .error .tooManyPermits else .ok (max s.concurrency 1)

end Settings

/-- Looks up the addresses of all contracts at a block. This is a single request, sent without a
permit. -/
def Registry.load (storage : Address) (block : UInt64) : Task Query Registry := do
  let replies ←
    (Task.ask (.execution (.batchCall (ContractName.all.map (lookup storage)) block))).context
      "loading contract addresses"
  .ofExcept (ofReplies storage block replies)

/-- The nodes with their derived fields. Each node takes its minipools out of the list, so of two
records with one address the first has them all. -/
def settleNodes : List Node → List Minipool → Except Error (List Node)
  | [], _ => .ok []
  | n :: nodes, minipools => do
    let n ← n.settled (minipools.filter (·.nodeAddress = n.address))
    let nodes ← settleNodes nodes (minipools.filter (·.nodeAddress ≠ n.address))
    .ok (n :: nodes)

namespace Request

/-- The beacon configuration. It is asked for until it has been read once.

This is a cell that is filled on first use only for operations one at a time. Where operations
overlap, such a cell has one of them ask while the others wait, but a session answers at once, so
here each of them asks for itself as long as nothing is remembered. Nothing is meant to be said of
how often operations that overlap ask for the configuration, or of which answer they go on with. -/
def beaconConfig : Task Query BeaconConfig := do
  match ← Task.ask (.session .knownConfig) with
  | some config => pure config
  | none =>
    let config ← Task.ask (.beacon .config)
    Task.ask (.session (.rememberConfig config))
    pure config

/-- All nodes and minipools at a block, with derived fields. -/
def assembleAll (registry : Registry) (block : UInt64) :
    Task Query (List Node × List Minipool) := do
  let (nodes, minipools) ←
    .both (Fetch.allNodes registry block) (Fetch.allMinipools registry block)
  let nodes ← Task.ofExcept (settleNodes nodes minipools)
  pure (nodes, minipools)

/-- One node and its minipools at a block, with derived fields. -/
def assembleOne (registry : Registry) (block : UInt64) (address : Address) :
    Task Query (Node × List Minipool) := do
  let (node, minipools) ←
    .both (Fetch.node registry block address) (Fetch.nodeMinipools registry block address)
  let node ← Task.ofExcept (node.settled minipools)
  pure (node, minipools)

/-- The effective stake of the whole network at a block. -/
def totalEffectiveRplStake (registry : Registry) (block : UInt64) : Task Query Amount :=
  read Contract.NodeStaking.getTotalEffectiveRplStake registry.nodeStaking () block

/-- The beacon configuration, and the execution block that a beacon block carries. -/
def executionBlock (block : BeaconBlock) : Task Query (BeaconConfig × UInt64) := do
  let config ← beaconConfig
  match block.executionBlock with
  | some number => pure (config, number)
  | none =>
    .failWith
      (.of .sourceUnavailable s!"beacon block at slot {block.slot} has no execution payload")

/-- The latest block at or before the slot of the latest execution block. -/
def headBlock (settings : Settings) : Task Query BeaconBlock := do
  let config ← beaconConfig
  let slot ← Clock.headSlot config
  Clock.latestProposedBlock slot settings.maxSlotLookback

/-- A full snapshot at the execution block of a beacon block. -/
def snapshotAt (storage : Address) (block : BeaconBlock) : Task Query Snapshot := do
  let (config, number) ← executionBlock block
  let registry ← Registry.load storage number
  let ((nodes, minipools), stake) ←
    .both (assembleAll registry number) (totalEffectiveRplStake registry number)
  let snapshot : Snapshot := ⟨number, block.slot, config, stake, nodes, minipools⟩
  Task.ask (.session (.recordSnapshot snapshot))
  pure snapshot

/-- A duration of whole seconds, as messages show it. -/
def durationText (seconds : UInt64) : String :=
  if seconds = 0 then "0ns" else s!"{seconds}s"

/-- Gives a request up when its time is over. -/
def timed {α : Type} (settings : Settings) (name : String) (t : Task Query α) : Task Query α :=
  .within settings.requestTimeoutSecs.toNat
    (.of .sourceUnavailable
      s!"{name} timed out after {durationText settings.requestTimeoutSecs}")
    t

section

variable (settings : Settings) (storage : Address)

/-- A snapshot of all nodes and minipools at the head of the chain. -/
def headState : Task Query Snapshot :=
  timed settings "head state" do
    snapshotAt storage (← headBlock settings)

/-- A snapshot of one node and its minipools at the head of the chain. -/
def headStateForNode (address : Address) : Task Query Snapshot :=
  timed settings "node state" do
    let block ← headBlock settings
    let (config, number) ← executionBlock block
    let registry ← Registry.load storage number
    let ((node, minipools), stake) ←
      .both (assembleOne registry number address) (totalEffectiveRplStake registry number)
    pure ⟨number, block.slot, config, stake, [node], minipools⟩

/-- A snapshot of all nodes and minipools at the latest block at or before a slot. -/
def stateForSlot (slot : UInt64) : Task Query Snapshot :=
  timed settings "state for slot" do
    snapshotAt storage (← Clock.latestProposedBlock slot settings.maxSlotLookback)

/-- The latest block at or before the head slot. -/
def latestBlock : Task Query BeaconBlock :=
  timed settings "latest block" (headBlock settings)

/-- The latest block up to the end of the last finalized epoch. -/
def latestFinalizedBlock : Task Query BeaconBlock :=
  timed settings "latest finalized block" do
    Clock.latestFinalizedBlock (← beaconConfig) settings.maxSlotLookback

/-- A task over the registry at the head of the chain. -/
def atHead {α : Type} (body : Registry → UInt64 → Task Query α) : Task Query α := do
  let (_, number) ← executionBlock (← headBlock settings)
  let registry ← Registry.load storage number
  body registry number

/-- The position of a minipool in the queue at the head of the chain. -/
def queuePosition (minipool : Address) : Task Query UInt64 :=
  timed settings "queue position" <|
    atHead settings storage fun registry block =>
      Queue.atBlock registry block (Queue.positionOf minipool)

/-- The lengths and the capacity of the queue at the head of the chain. -/
def queueStatus : Task Query QueueStatus :=
  timed settings "queue status" (atHead settings storage Queue.status)

/-- The minipool at a place in the queue at the head of the chain. -/
def minipoolAtQueuePosition (position : UInt64) : Task Query Address :=
  timed settings "queue lookup" <|
    atHead settings storage fun registry block =>
      Queue.atBlock registry block (Queue.minipoolAt position)

end

end Request

end StakeSnapshot
