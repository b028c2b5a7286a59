import StakeSnapshot.Json.Codec

/-!
# Blocks of the two chains

A beacon block is proposed in a slot and, since the two chains were joined, carries one block of
the execution chain.
-/

namespace StakeSnapshot

/-- What the beacon chain says about its head. -/
structure BeaconHead where
  /-- The last finalized epoch. -/
  finalizedEpoch : UInt64
deriving DecidableEq

instance : RecordForm BeaconHead where
  blank := ⟨0⟩
  fields := [.required "finalized_epoch" (·.finalizedEpoch) fun v _ => ⟨v⟩]

/-- A proposed beacon block. -/
structure BeaconBlock where
  slot : UInt64
  /-- The index of the validator that proposed it. -/
  proposerIndex : UInt64
  /-- The execution block that it carries, if it carries one. -/
  executionBlock : Option UInt64
deriving DecidableEq

instance : RecordForm BeaconBlock where
  blank := ⟨0, 0, none⟩
  fields :=
    [.required "slot" (·.slot) fun v b => { b with slot := v },
      .required "proposer_index" (·.proposerIndex) fun v b => { b with proposerIndex := v },
      .mayMiss "execution_block_number" (·.executionBlock)
        fun v b => { b with executionBlock := v }]

/-- The number of an execution block and its time. -/
structure BlockHeader where
  number : UInt64
  timestamp : UInt64
deriving DecidableEq

instance : RecordForm BlockHeader where
  blank := ⟨0, 0⟩
  fields :=
    [.required "number" (·.number) fun v h => { h with number := v },
      .required "timestamp" (·.timestamp) fun v h => { h with timestamp := v }]

end StakeSnapshot
