import StakeSnapshot.Chain.Config
import StakeSnapshot.Pool.Node

/-!
# Snapshots

The state of the pool at one execution block and the slot whose beacon block carried it. A snapshot
covers all nodes, or a single node with its minipools.
-/

namespace StakeSnapshot

structure Snapshot where
  /-- The execution block at which all contracts were read. -/
  executionBlock : UInt64
  /-- The slot of the beacon block that carried it. -/
  slot : UInt64
  config : BeaconConfig
  /-- The effective stake of the whole network, also in the snapshot of a single node. -/
  totalEffectiveRplStake : Amount
  nodes : List Node
  minipools : List Minipool
deriving DecidableEq

namespace Snapshot

instance : RecordForm Snapshot where
  blank := ⟨0, 0, ⟨0, 0, 0⟩, 0, [], []⟩
  fields :=
    [.required "el_block_number" executionBlock fun v s => { s with executionBlock := v },
      .required "beacon_slot_number" slot fun v s => { s with slot := v },
      .required "beacon_config" config fun v s => { s with config := v },
      .required "total_effective_rpl_stake" totalEffectiveRplStake
        fun v s => { s with totalEffectiveRplStake := v },
      .required "nodes" nodes fun v s => { s with nodes := v },
      .required "minipools" minipools fun v s => { s with minipools := v }]

/-- The first node with the given address. -/
def node? (s : Snapshot) (address : Address) : Option Node :=
  s.nodes.find? (·.address = address)

/-- The minipools of a node, in the order of the snapshot. -/
def minipoolsOf (s : Snapshot) (node : Address) : List Minipool :=
  s.minipools.filter (·.nodeAddress = node)

end Snapshot

end StakeSnapshot
