import StakeSnapshot.Query

/-!
# From times to blocks

The head slot is the slot of the latest execution block's time. A slot may have been missed, so
blocks are looked for backwards from a slot, within a window that does not reach below slot 0.
-/

namespace StakeSnapshot.Clock

/-- The slot of the latest execution block. -/
def headSlot (config : BeaconConfig) : Task Query UInt64 := do
  let header ← (Task.ask (.execution .latestBlock)).context "reading latest execution block"
  .ofFaulty (config.slotAt header.timestamp)

/-- The first block found in the slots from `start` downwards, at most `count` of them. -/
def findBlock (start : UInt64) : (count : Nat) → Task Query (Option BeaconBlock)
  | 0 => pure none
  | count + 1 => do
    match ← Task.ask (.beacon (.block start)) with
    | some block => pure (some block)
    | none => findBlock (start - 1) count

/-- How many slots a window of `lookback` slots from `start` downwards has. -/
def windowSize (start lookback : UInt64) : Nat := min lookback.toNat (start.toNat + 1)

/-- The latest block in a window of slots. -/
def latestProposedBlock (start lookback : UInt64) : Task Query BeaconBlock := do
  match ← findBlock start (windowSize start lookback) with
  | some block => pure block
  | none =>
    .failWith
      (.of .sourceUnavailable s!"no proposed block in {lookback} slots at or before slot {start}")

/-- The latest block up to the end of the last finalized epoch. -/
def latestFinalizedBlock (config : BeaconConfig) (lookback : UInt64) : Task Query BeaconBlock := do
  let head ← (Task.ask (.beacon .head)).context "reading beacon head"
  let slot ← Task.ofFaulty (config.lastSlotOfEpoch head.finalizedEpoch)
  latestProposedBlock slot lookback

end StakeSnapshot.Clock
