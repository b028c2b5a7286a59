import StakeSnapshot.Count
import StakeSnapshot.Snapshot
import StakeSnapshot.Text.Numeral

/-!
# Metrics

Four gauges with the numbers of the last full snapshot, and a counter of the batches that were
sent. `Metrics.text` writes them in the exposition format, in which every value is a float.
-/

namespace StakeSnapshot

structure Metrics where
  executionBlock : UInt64
  slot : UInt64
  nodeCount : UInt64
  minipoolCount : UInt64
  fetchBatches : UInt64
deriving DecidableEq

namespace Metrics

def zero : Metrics := ⟨0, 0, 0, 0, 0⟩

/-- The largest value of a gauge, which is signed. -/
def gaugeLimit : Nat := UInt64.size / 2 - 1

/-- A gauge's value for a natural number. -/
def gauge (n : Nat) : UInt64 := UInt64.ofNat (min n gaugeLimit)

/-- Sets the gauges to the numbers of a snapshot. -/
def recordSnapshot (m : Metrics) (s : Snapshot) : Metrics :=
  { m with
    executionBlock := gauge s.executionBlock.toNat
    slot := gauge s.slot.toNat
    nodeCount := gauge s.nodes.length
    minipoolCount := gauge s.minipools.length }

/-- Counts a number of batches. -/
def countBatches (m : Metrics) (n : UInt64) : Metrics :=
  { m with fetchBatches := m.fetchBatches + n }

/-- The lines of one metric. -/
def family (name type help : String) (value : UInt64) : String :=
  "# HELP " ++ name ++ " " ++ help ++ "\n# TYPE " ++ name ++ " " ++ type ++ "\n" ++ name ++ " "
    ++ toString (printedDouble value.toNat) ++ "\n"

/-- All metrics, in the order of their names. -/
def text (m : Metrics) : String :=
  family "fetch_batches" "counter" "Number of batched contract call requests dispatched"
      m.fetchBatches
    ++ family "snapshot_el_block" "gauge"
      "Execution layer block number of the latest network state snapshot" m.executionBlock
    ++ family "snapshot_minipool_count" "gauge"
      "Number of minipools in the latest network state snapshot" m.minipoolCount
    ++ family "snapshot_node_count" "gauge"
      "Number of nodes in the latest network state snapshot" m.nodeCount
    ++ family "snapshot_slot" "gauge" "Beacon slot of the latest network state snapshot" m.slot

end Metrics

end StakeSnapshot
