import StakeSnapshot.Proofs.Task.Outcomes
import StakeSnapshot.Request

/-!
# What reading at a block asks

Everything that is read for a request, the addresses of the contracts included, is asked for at the
block that the reading functions are given. `Reading P n` says that a property `P` of questions
holds of all questions at the block `n`, and of the note that a batch is sent; the lemmas below
give `Task.Asks` for such a property, function by function.
-/

namespace StakeSnapshot

/-- The block at which a question to the execution chain looks, if it names one. -/
def ExecutionQuery.block? {α : Type} : ExecutionQuery α → Option UInt64
  | .latestBlock => none
  | .call _ block => some block
  | .batchCall _ block => some block
  | .balance _ block => some block
  | .bulkBalances _ block => some block

/-- The execution block at which a question looks, if it names one. -/
def Query.block? {α : Type} : Query α → Option UInt64
  | .execution q => q.block?
  | .beacon _ => none
  | .session _ => none

/-- The part of a request for the snapshot of a node that comes after its beacon block has been
found. -/
def Request.nodeStateAt (storage address : Address) (block : BeaconBlock) :
    Task Query Snapshot := do
  let (config, number) ← executionBlock block
  let registry ← Registry.load storage number
  let ((node, minipools), stake) ←
    .both (assembleOne registry number address) (totalEffectiveRplStake registry number)
  pure ⟨number, block.slot, config, stake, [node], minipools⟩

/-- The property `P` holds of what is asked to read the state at a block. -/
structure Reading (P : {α : Type} → Query α → Prop) (n : UInt64) : Prop where
  execution {α : Type} (q : ExecutionQuery α) : q.block? = some n → P (.execution q)
  countBatch : P (.session .countBatch)

namespace Reading

open StakeSnapshot.Task

variable {P : {α : Type} → Query α → Prop} {n : UInt64} {replies : Replies Query} {κ ρ : Type}

theorem asks_read (h : Reading P n) {inputs : List Abi.Ty} {output : Abi.Ty}
    (m : Abi.Method inputs output) (target : Address) (args : Abi.Values inputs) :
    Asks replies P (read m target args n) :=
  .bind ((asks_context _ _).mpr (h.execution _ rfl)) fun _ => trivial

theorem asks_fetchBatch (h : Reading P n) (init : κ → ρ) (fields : List (FieldSpec κ ρ))
    (registry : Registry) (offset : Nat) (keys : List κ) :
    Asks replies P (Fetch.fetchBatch init fields registry n offset keys) := by
  refine Asks.bind h.countBatch fun _ => Asks.bind ?_ fun replies => ?_
  · exact (asks_context _ _).mpr (h.execution _ rfl)
  · split <;> trivial

theorem asks_fetch (h : Reading P n) (init : κ → ρ) (fields : List (FieldSpec κ ρ))
    (registry : Registry) (batchSize : Nat) (keys : List κ) :
    Asks replies P (Fetch.fetch init fields registry n batchSize keys) := by
  unfold Fetch.fetch
  split
  · trivial
  · simp only [asks_map, asks_mapError, asks_all, List.mem_map, forall_exists_index, and_imp]
    rintro _ ⟨keys, i⟩ - rfl
    exact h.asks_fetchBatch init fields registry _ keys

theorem asks_balances (h : Reading P n) (accounts : List Address) :
    Asks replies P (Fetch.balances n accounts) := by
  simp only [Fetch.balances, asks_map, asks_mapError, asks_all, List.mem_map,
    forall_exists_index, and_imp]
  rintro _ accounts - rfl
  refine Asks.bind h.countBatch fun _ => Asks.bind (h.execution _ rfl) fun balances => ?_
  split <;> trivial

theorem asks_fetchDirect (h : Reading P n) (fields : List (FieldSpec κ ρ)) (registry : Registry)
    (key : κ) (r : ρ) : Asks replies P (Fetch.fetchDirect fields registry n key r) := by
  refine Asks.bind ?_ fun _ => trivial
  simp only [asks_all, List.mem_map, forall_exists_index, and_imp]
  rintro _ f - rfl
  exact (asks_context _ _).mpr (h.execution _ rfl)

/-! ## Nodes and minipools -/

variable (registry : Registry)

theorem asks_nodeAddresses (h : Reading P n) :
    Asks replies P (Fetch.nodeAddresses registry n) :=
  .bind (h.asks_read _ _ _) fun _ => .bind trivial fun _ => h.asks_fetch _ _ _ _ _

theorem asks_allNodes (h : Reading P n) : Asks replies P (Fetch.allNodes registry n) :=
  .bind (h.asks_nodeAddresses registry) fun _ => .bind (h.asks_fetch _ _ _ _ _) fun _ =>
    .bind ⟨h.asks_balances _, h.asks_balances _⟩ fun _ => trivial

theorem asks_node (h : Reading P n) (address : Address) :
    Asks replies P (Fetch.node registry n address) :=
  .bind (h.asks_fetchDirect _ _ _ _) fun _ =>
    .bind ⟨h.execution _ rfl, h.execution _ rfl⟩ fun _ => trivial

theorem asks_minipoolAddresses (h : Reading P n) :
    Asks replies P (Fetch.minipoolAddresses registry n) :=
  .bind (h.asks_read _ _ _) fun _ => .bind trivial fun _ => h.asks_fetch _ _ _ _ _

theorem asks_allMinipools (h : Reading P n) : Asks replies P (Fetch.allMinipools registry n) :=
  .bind (h.asks_minipoolAddresses registry) fun _ => h.asks_fetch _ _ _ _ _

theorem asks_nodeMinipools (h : Reading P n) (node : Address) :
    Asks replies P (Fetch.nodeMinipools registry n node) :=
  .bind (h.asks_read _ _ _) fun _ => .bind trivial fun _ =>
    .bind (h.asks_fetch _ _ _ _ _) fun _ => h.asks_fetch _ _ _ _ _

theorem asks_assembleAll (h : Reading P n) :
    Asks replies P (Request.assembleAll registry n) :=
  .bind ⟨h.asks_allNodes registry, h.asks_allMinipools registry⟩ fun _ =>
    .bind trivial fun _ => trivial

theorem asks_assembleOne (h : Reading P n) (address : Address) :
    Asks replies P (Request.assembleOne registry n address) :=
  .bind ⟨h.asks_node registry address, h.asks_nodeMinipools registry address⟩ fun _ =>
    .bind trivial fun _ => trivial

theorem asks_totalEffectiveRplStake (h : Reading P n) :
    Asks replies P (Request.totalEffectiveRplStake registry n) :=
  h.asks_read _ _ _

theorem asks_load (h : Reading P n) (storage : Address) :
    Asks replies P (Registry.load storage n) :=
  .bind ((asks_context _ _).mpr (h.execution _ rfl)) fun _ => trivial

/-! ## The queue -/

theorem asks_askContracts (h : Reading P n) {α : Type} (q : QueueQuery α) :
    Asks replies P (Queue.askContracts registry n q) := by
  cases q with
  | length | totalLength | indexOf => exact (asks_map _ _).mpr (h.asks_read _ _ _)
  | itemAt => exact h.asks_read _ _ _
  | depositType => exact Asks.bind (h.asks_read _ _ _) fun _ => trivial

theorem asks_atBlock (h : Reading P n) {α : Type} (t : Task QueueQuery α) :
    Asks replies P (Queue.atBlock registry n t) :=
  Asks.substitute (h.asks_askContracts registry) t

theorem asks_status (h : Reading P n) : Asks replies P (Queue.status registry n) := by
  refine Asks.bind ⟨h.asks_atBlock registry _, ?_⟩ fun _ => trivial
  exact Asks.bind ⟨h.asks_read _ _ _, h.asks_read _ _ _, h.asks_read _ _ _⟩ fun _ => trivial

end Reading

/-! ## The beacon block of a request -/

section BeaconBlock

open StakeSnapshot.Task

variable {P : {α : Type} → Query α → Prop} {replies : Replies Query}

theorem asks_findBlock (hblock : ∀ slot, P (.beacon (.block slot))) (count : Nat) :
    ∀ start : UInt64, Asks replies P (Clock.findBlock start count) := by
  induction count with
  | zero => intro _; trivial
  | succ count ih =>
      intro start
      refine Asks.bind (hblock start) fun found => ?_
      cases found with
      | none => exact ih (start - 1)
      | some block => trivial

theorem asks_latestProposedBlock (hblock : ∀ slot, P (.beacon (.block slot)))
    (start lookback : UInt64) : Asks replies P (Clock.latestProposedBlock start lookback) := by
  refine Asks.bind (asks_findBlock hblock _ start) fun found => ?_
  cases found <;> trivial

theorem asks_headBlock (hconfig : Asks replies P Request.beaconConfig)
    (hlatest : P (.execution .latestBlock)) (hblock : ∀ slot, P (.beacon (.block slot)))
    (settings : Settings) : Asks replies P (Request.headBlock settings) := by
  refine Asks.bind hconfig fun config => Asks.bind (Asks.bind ?_ fun _ => trivial) fun slot => ?_
  · exact (asks_context _ _).mpr hlatest
  · exact asks_latestProposedBlock hblock slot _

end BeaconBlock

end StakeSnapshot
