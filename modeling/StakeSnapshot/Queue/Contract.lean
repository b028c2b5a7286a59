import StakeSnapshot.Contract.Registry
import StakeSnapshot.Query
import StakeSnapshot.Queue.Position

/-!
# The queue in the contracts

How the questions to the queue are put to the contracts at one block.
-/

namespace StakeSnapshot.Queue

open Contract

/-- The place from one on of an index that counts from zero. An item that is absent has a negative
index. -/
def placeOfIndex (index : Word) : UInt64 :=
  if index.msb then 0 else Count.addSaturating (Amount.saturate index) 1

/-- A question to the queue, as questions to the contracts. -/
def askContracts (registry : Registry) (block : UInt64) :
    {α : Type} → QueueQuery α → Task Query α
  | _, .length partition =>
    Amount.saturate <$>
      read MinipoolQueue.getLength registry.minipoolQueue (partition.depositType.number, ()) block
  | _, .totalLength =>
    Amount.saturate <$> read MinipoolQueue.getTotalLength registry.minipoolQueue () block
  | _, .indexOf partition minipool =>
    placeOfIndex <$>
      read AddressQueueStorage.getIndexOf registry.addressQueueStorage
        (partition.storageKey, minipool, ()) block
  | _, .itemAt partition index =>
    read AddressQueueStorage.getItem registry.addressQueueStorage
      (partition.storageKey, Amount.ofCount index, ()) block
  | _, .depositType minipool => do
    let number ← read MinipoolDelegate.getDepositType minipool () block
    .ofExcept (DepositType.ofNumber number)

/-- A task over the queue, put to the contracts at a block. -/
def atBlock {α : Type} (registry : Registry) (block : UInt64) (t : Task QueueQuery α) :
    Task Query α :=
  t.substitute (askContracts registry block)

/-- The capacity of the queue. -/
def capacity (registry : Registry) (block : UInt64) : Task Query QueueCapacity := do
  let queue := registry.minipoolQueue
  let (total, effective, nextMinipool) ←
    .both (read MinipoolQueue.getTotalCapacity queue () block)
      (.both (read MinipoolQueue.getEffectiveCapacity queue () block)
        (read MinipoolQueue.getNextCapacity queue () block))
  pure ⟨total, effective, nextMinipool⟩

/-- The lengths and the capacity of the queue. -/
def status (registry : Registry) (block : UInt64) : Task Query QueueStatus := do
  let (lengths, capacity) ← .both (atBlock registry block lengths) (capacity registry block)
  pure ⟨lengths, capacity⟩

end StakeSnapshot.Queue
