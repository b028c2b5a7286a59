import StakeSnapshot.Fetch.Minipools
import StakeSnapshot.Proofs.Abi.RoundTrip

/-!
# The functions that snapshots call

A function is told by its selector. A snapshot calls some functions in the batches of fetches, and
others one by one or in the lookup of the contract addresses. A `CallPlan` says which, and that no
function is called in both ways: `CallPlan.forAll` is that of a full snapshot, and `CallPlan.forOne`
that of the snapshot of one node, which reads the fields of the node one by one.
-/

namespace StakeSnapshot

/-- The first four bytes of the calldata, which tell the function. -/
def ContractCall.selector (call : ContractCall) : Bytes := call.calldata.take 4

theorem Abi.Method.selector_call {inputs : List Abi.Ty} {output : Abi.Ty}
    (m : Abi.Method inputs output) (target : Address) (args : Abi.Values inputs) :
    (m.call target args).selector = m.selector :=
  List.take_left' m.length_selector

theorem FieldSpec.selector_ofMethod {κ ρ : Type} {inputs : List Abi.Ty} {output : Abi.Ty}
    (method : String) (m : Abi.Method inputs output) (target : Registry → κ → Address)
    (args : κ → Abi.Values inputs) (set : output.Value → ρ → ρ) (registry : Registry) (key : κ) :
    ((FieldSpec.ofMethod method m target args set).call registry key).selector = m.selector :=
  m.selector_call _ _

/-- The selectors of the functions that read the fields of a table. -/
def FieldSpec.selectors {ρ : Type} (table : List (FieldSpec Address ρ)) : List Bytes :=
  table.map fun f => (f.call (.blank .zero) .zero).selector

theorem NodeField.selector_mem {f : FieldSpec Address Node} (hf : f ∈ table) (registry : Registry)
    (node : Address) : (f.call registry node).selector ∈ FieldSpec.selectors table := by
  have same : ∀ f ∈ table, ∀ registry node,
      (f.call registry node).selector = (f.call (.blank .zero) .zero).selector := by
    simp [table, row, FieldSpec.selector_ofMethod]
  rw [same f hf registry node]
  exact List.mem_map_of_mem hf

theorem MinipoolField.selector_mem {f : FieldSpec Address Minipool} (hf : f ∈ table)
    (registry : Registry) (minipool : Address) :
    (f.call registry minipool).selector ∈ FieldSpec.selectors table := by
  have same : ∀ f ∈ table, ∀ registry minipool,
      (f.call registry minipool).selector = (f.call (.blank .zero) .zero).selector := by
    simp [table, row, numberRow, FieldSpec.selector_ofMethod, Abi.Method.selector_call]
  rw [same f hf registry minipool]
  exact List.mem_map_of_mem hf

namespace CallPlan

open Contract

/-- The functions that list all nodes and all minipools, and those that read the fields of both. -/
@[simp] def batchedForAll : List Bytes :=
  NodeManager.getNodeAt.selector :: MinipoolManager.getMinipoolAt.selector ::
    (FieldSpec.selectors NodeField.table ++ FieldSpec.selectors MinipoolField.table)

@[simp] def singleForAll : List Bytes :=
  [Storage.getAddress.selector, NodeManager.getNodeCount.selector,
    MinipoolManager.getMinipoolCount.selector, NodeStaking.getTotalEffectiveRplStake.selector]

/-- The function that lists the minipools of a node, and those that read the fields of a
minipool. -/
@[simp] def batchedForOne : List Bytes :=
  MinipoolManager.getNodeMinipoolAt.selector :: FieldSpec.selectors MinipoolField.table

@[simp] def singleForOne : List Bytes :=
  Storage.getAddress.selector :: MinipoolManager.getNodeMinipoolCount.selector ::
    NodeStaking.getTotalEffectiveRplStake.selector :: FieldSpec.selectors NodeField.table

theorem selectors_disjoint :
    (∀ s ∈ singleForAll, s ∉ batchedForAll) ∧ ∀ s ∈ singleForOne, s ∉ batchedForOne := by
  decide +kernel

end CallPlan

/-- The selectors of the functions that are called in the batches of fetches, and of those that are
called otherwise. No function is called in both ways. -/
structure CallPlan where
  batched : List Bytes
  single : List Bytes
  disjoint : ∀ s ∈ single, s ∉ batched

namespace CallPlan

/-- What a full snapshot calls. -/
@[simp] def forAll : CallPlan := ⟨batchedForAll, singleForAll, selectors_disjoint.1⟩

/-- What the snapshot of one node calls. -/
@[simp] def forOne : CallPlan := ⟨batchedForOne, singleForOne, selectors_disjoint.2⟩

end CallPlan

end StakeSnapshot
