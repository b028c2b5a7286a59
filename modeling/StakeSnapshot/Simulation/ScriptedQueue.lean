import StakeSnapshot.Queue.Position

/-!
# A scripted queue

A queue that gives the replies it was told, which need not fit together, and notes what it was
asked. It shows how the position functions treat any source.
-/

namespace StakeSnapshot.Simulation

/-- The replies to the questions of one kind, told apart by a key. -/
abbrev Script (κ α : Type) := List (κ × Except Error α)

structure ScriptedQueue where
  total : Option (Except Error UInt64)
  lengths : Script Partition UInt64
  indices : Script (Partition × Address) UInt64
  items : Script (Partition × UInt64) Address
  depositTypes : Script Address DepositType
  /-- The questions since the log was last read, the latest one first. -/
  log : List String

namespace ScriptedQueue

/-- A question, as it is noted. -/
def questionText : {α : Type} → QueueQuery α → String
  | _, .length partition => s!"length {partition.name}"
  | _, .totalLength => "total_length"
  | _, .indexOf partition minipool => s!"index_of {partition.name} {minipool.toText}"
  | _, .itemAt partition index => s!"item_at {partition.name} {index}"
  | _, .depositType minipool => s!"deposit_type {minipool.toText}"

/-- The reply in a script, or the error that there is none. -/
def orUnscripted {α : Type} (reply : Option (Except Error α)) : Except Error α :=
  reply.getD (fail .sourceUnavailable "not scripted")

def reply : {α : Type} → QueueQuery α → ScriptedQueue → Except Error α
  | _, .length partition, q => orUnscripted (q.lengths.lookup partition)
  | _, .totalLength, q => orUnscripted q.total
  | _, .indexOf partition minipool, q => orUnscripted (q.indices.lookup (partition, minipool))
  | _, .itemAt partition index, q => orUnscripted (q.items.lookup (partition, index))
  | _, .depositType minipool, q => orUnscripted (q.depositTypes.lookup minipool)

def service : Service QueueQuery ScriptedQueue where
  accept question q := ({ q with log := questionText question :: q.log }, 0)
  answer question q := (Outcome.ofExcept (reply question q), q)
  permit _ := .ok ()

/-- The questions since the last time, in order. -/
def takeLog (q : ScriptedQueue) : List String × ScriptedQueue :=
  (q.log.reverse, { q with log := [] })

end ScriptedQueue

end StakeSnapshot.Simulation
