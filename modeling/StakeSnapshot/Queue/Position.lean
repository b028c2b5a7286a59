import StakeSnapshot.Queue.Partition
import StakeSnapshot.Task.Basic

/-!
# Positions in the deposit queue

The queue is the three partitions in the order in which they are served. A minipool's position is
its place in its partition and the lengths of the partitions ahead, counted from one, with zero for
a minipool that does not wait; a place in the queue is found by going through the partitions,
counting from zero.
-/

namespace StakeSnapshot

/-- Questions to a queue. -/
inductive QueueQuery : Type → Type where
  | length (partition : Partition) : QueueQuery UInt64
  | totalLength : QueueQuery UInt64
  /-- The place of a minipool in a partition, from one on, or zero. -/
  | indexOf (partition : Partition) (minipool : Address) : QueueQuery UInt64
  /-- The minipool at a place in a partition, from zero on. -/
  | itemAt (partition : Partition) (index : UInt64) : QueueQuery Address
  | depositType (minipool : Address) : QueueQuery DepositType

namespace Queue

/-- The lengths of all partitions. -/
def lengths : Task QueueQuery QueueLengths := do
  let (half, full, empty) ←
    .both (.ask (.length .half)) (.both (.ask (.length .full)) (.ask (.length .empty)))
  pure ⟨half, full, empty⟩

/-- The place in the whole queue of the minipool at some place in a partition, given the lengths
ahead of the partition. -/
def positionAfter (index : UInt64) (ahead : List UInt64) : Option UInt64 :=
  ahead.foldlM Count.add? index

/-- The position of a minipool in the queue, from one on, or zero if it does not wait. -/
def positionOf (minipool : Address) : Task QueueQuery UInt64 := do
  let depositType ← Task.ask (.depositType minipool)
  let partition ← Task.ofExcept ((Partition.ofDepositType depositType).mapError
    (Error.context s!"minipool {minipool.checksum}"))
  let index ← Task.ask (.indexOf partition minipool)
  if index = 0 then pure 0
  else
    let ahead ← Task.all (partition.ahead.map fun p => Task.ask (.length p))
    match positionAfter index ahead with
    | some position => pure position
    | none =>
      .failWith
        (.of .decodeMismatch s!"queue position of {minipool.checksum} overflows")

/-- The partition and the place in it that a number of steps from the front leads to. -/
def locate (lengths : QueueLengths) : List Partition → UInt64 → Option (Partition × UInt64)
  | [], _ => none
  | p :: rest, offset =>
    if offset < lengths.get p then some (p, offset)
    else locate lengths rest (offset - lengths.get p)

/-- The minipool at a place in the whole queue, from zero on. -/
def minipoolAt (position : UInt64) : Task QueueQuery Address := do
  let total ← Task.ask .totalLength
  if total ≤ position then
    .failWith (.of .outOfRange s!"queue position {position} is beyond queue length {total}")
  else
    let lengths ← lengths
    match locate lengths Partition.drainOrder position with
    | some (p, index) => .ask (.itemAt p index)
    | none =>
      .failWith
        (.of .outOfRange s!"queue position {position} is beyond partition lengths {lengths.text}")

end Queue

end StakeSnapshot
