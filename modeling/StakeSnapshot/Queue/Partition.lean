import StakeSnapshot.Count
import StakeSnapshot.Pool.Minipool

/-!
# Partitions of the deposit queue

Minipools wait for deposits in three partitions, which are served one after the other.
-/

namespace StakeSnapshot

inductive Partition where
  | half
  | full
  | empty
deriving DecidableEq

namespace Partition

/-- The partitions in the order in which they are served. -/
def drainOrder : List Partition := [.half, .full, .empty]

def name : Partition → String
  | .half => "Half"
  | .full => "Full"
  | .empty => "Empty"

instance : JsonForm Partition := JsonForm.ofNames drainOrder name

/-- The partition that a minipool with the given deposit type would wait in. -/
def ofDepositType : DepositType → Except Error Partition
  | .half => .ok .half
  | .full => .ok .full
  | .empty => .ok .empty
  | .variableBond => .ok .empty
  | .none => fail .decodeMismatch "minipool has no deposit type"

/-- The deposit type of the minipools that wait in a partition. -/
def depositType : Partition → DepositType
  | .half => .half
  | .full => .full
  | .empty => .empty

def halfKey : Word := Word.ofBytes (keccak256 (Bytes.ofString "minipools.available.half"))
def fullKey : Word := Word.ofBytes (keccak256 (Bytes.ofString "minipools.available.full"))
def emptyKey : Word := Word.ofBytes (keccak256 (Bytes.ofString "minipools.available.empty"))

/-- The key under which the queue's storage contract keeps a partition. -/
def storageKey : Partition → Word
  | .half => halfKey
  | .full => fullKey
  | .empty => emptyKey

/-- The partitions that are served before the given one. -/
def ahead (p : Partition) : List Partition :=
  drainOrder.takeWhile (· ≠ p)

end Partition

/-- How many minipools wait in each partition. -/
structure QueueLengths where
  half : UInt64
  full : UInt64
  empty : UInt64
deriving DecidableEq

namespace QueueLengths

instance : RecordForm QueueLengths where
  blank := ⟨0, 0, 0⟩
  fields :=
    [.required "half" half fun v l => { l with half := v },
      .required "full" full fun v l => { l with full := v },
      .required "empty" empty fun v l => { l with empty := v }]

def get (l : QueueLengths) : Partition → UInt64
  | .half => l.half
  | .full => l.full
  | .empty => l.empty

/-- The length of the whole queue, or the largest count. -/
def total (l : QueueLengths) : UInt64 :=
  Count.addSaturating (Count.addSaturating l.half l.full) l.empty

/-- The lengths as messages show them. -/
def text (l : QueueLengths) : String :=
  "QueueLengths \x7b half: " ++ toString l.half ++ ", full: " ++ toString l.full ++ ", empty: "
    ++ toString l.empty ++ " \x7d"

end QueueLengths

/-- How much ether the queue can take. -/
structure QueueCapacity where
  /-- The capacity of all minipools in the queue. -/
  total : Amount
  /-- The capacity that counts as demand of the nodes. -/
  effective : Amount
  /-- The capacity of the next minipool. -/
  nextMinipool : Amount
deriving DecidableEq

instance : RecordForm QueueCapacity where
  blank := ⟨0, 0, 0⟩
  fields :=
    [.required "total" (·.total) fun v c => { c with total := v },
      .required "effective" (·.effective) fun v c => { c with effective := v },
      .required "next_minipool" (·.nextMinipool) fun v c => { c with nextMinipool := v }]

/-- The lengths and the capacity of the queue at one block. -/
structure QueueStatus where
  lengths : QueueLengths
  capacity : QueueCapacity
deriving DecidableEq

instance : RecordForm QueueStatus where
  blank := ⟨⟨0, 0, 0⟩, ⟨0, 0, 0⟩⟩
  fields :=
    [.required "lengths" (·.lengths) fun v s => { s with lengths := v },
      .required "capacity" (·.capacity) fun v s => { s with capacity := v }]

end StakeSnapshot
