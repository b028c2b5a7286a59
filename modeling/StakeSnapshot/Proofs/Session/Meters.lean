import StakeSnapshot.Proofs.Concurrency
import StakeSnapshot.Proofs.Fetch.Selectors
import StakeSnapshot.Proofs.Session.FirstConfig
import StakeSnapshot.Proofs.SingleNode

/-!
# What the metrics tell

The gauges show the last full snapshot that was returned, and the counter tells how many batches the
execution client has received, lookups of contract addresses apart. Both are kept up in the midst of
requests that fail, are given up or are dropped, so this is said of every moment of every run
(`Session.Moment`): operations of a manager and of a fetcher that shares its metrics begin, are
looked at and end in any order.
-/

namespace StakeSnapshot

open StakeSnapshot.Task

/-! ## What is recorded -/

/-- An event that has to do with the metrics. -/
inductive MeterEvent where
  /-- The execution client has received a batch. It may be the lookup of all contract addresses. -/
  | batch (isLookup : Bool)
  /-- A full snapshot has been returned. -/
  | returned (snapshot : Snapshot)
deriving DecidableEq

namespace MeterEvent

/-- The event of a question. What a fetcher is asked to fetch is never the lookup of a registry,
even if it has the same calls. -/
def ofQuery (mayLookUp : Bool) {α : Type} (q : Query α) : Option MeterEvent :=
  if q.isBatch then some (batch (mayLookUp && q.isLookup)) else none

def isBatch : MeterEvent → Bool
  | batch _ => true
  | returned _ => false

def snapshot? : MeterEvent → Option Snapshot
  | batch _ => none
  | returned snapshot => some snapshot

/-- How many batches the execution client has received. -/
def received (log : List MeterEvent) : Nat := log.countP isBatch

/-- How many of them were lookups of contract addresses. -/
def lookups (log : List MeterEvent) : Nat := log.count (batch true)

/-- The last full snapshot that was returned. -/
def last? (log : List MeterEvent) : Option Snapshot := (log.filterMap snapshot?).getLast?

/-- What a gauge should show of the last full snapshot. -/
def shown (log : List MeterEvent) (number : Snapshot → Nat) : Nat :=
  match last? log with
  | none => 0
  | some snapshot => min (number snapshot) (2 ^ 63 - 1)

end MeterEvent

open MeterEvent

/-- The metrics are those of what was recorded. The counter has 64 bits. -/
structure Metrics.Tell (m : Metrics) (log : List MeterEvent) : Prop where
  executionBlock : m.executionBlock.toNat = shown log fun s => s.executionBlock.toNat
  slot : m.slot.toNat = shown log fun s => s.slot.toNat
  nodeCount : m.nodeCount.toNat = shown log fun s => s.nodes.length
  minipoolCount : m.minipoolCount.toNat = shown log fun s => s.minipools.length
  fetchBatches : m.fetchBatches = UInt64.ofNat (received log - lookups log)

/-- The session keeps metrics, and they are those of what was recorded. -/
def Surroundings.Metered {ε β : Type} (s : Surroundings ε β × List MeterEvent) : Prop :=
  ∃ m, s.1.session.metrics = some m ∧ m.Tell s.2

/-! ## Events one by one -/

theorem Metrics.toNat_gauge (n : Nat) : (gauge n).toNat = min n (2 ^ 63 - 1) := by
  have hlt : min n gaugeLimit < UInt64.size :=
    Nat.lt_of_le_of_lt (Nat.min_le_right n gaugeLimit) (by decide)
  exact UInt64.toNat_ofNat_of_lt' hlt

namespace MeterEvent

variable (log : List MeterEvent)

theorem received_batch (isLookup : Bool) :
    received (log ++ [.batch isLookup]) = received log + 1 := by
  simp [received, isBatch]

theorem lookups_le_received : lookups log ≤ received log := by
  rw [lookups, received, List.count_eq_countP]
  refine List.countP_mono_left fun e _ he => ?_
  rw [beq_iff_eq] at he
  rw [he]
  rfl

theorem shown_batch (isLookup : Bool) (number : Snapshot → Nat) :
    shown (log ++ [.batch isLookup]) number = shown log number := by
  simp [shown, last?, snapshot?]

theorem shown_returned (snapshot : Snapshot) (number : Snapshot → Nat) :
    shown (log ++ [.returned snapshot]) number = min (number snapshot) (2 ^ 63 - 1) := by
  simp [shown, last?, snapshot?]

end MeterEvent

namespace Metrics.Tell

variable {m : Metrics} {log : List MeterEvent}

theorem zero : Metrics.zero.Tell [] := ⟨rfl, rfl, rfl, rfl, rfl⟩

/-- Batches do not move the gauges. -/
theorem batch (h : m.Tell log) (isLookup : Bool) {n : UInt64}
    (hn : m.fetchBatches + n =
      UInt64.ofNat (received log + 1 - lookups (log ++ [.batch isLookup]))) :
    (m.countBatches n).Tell (log ++ [.batch isLookup]) where
  executionBlock := h.executionBlock.trans (shown_batch ..).symm
  slot := h.slot.trans (shown_batch ..).symm
  nodeCount := h.nodeCount.trans (shown_batch ..).symm
  minipoolCount := h.minipoolCount.trans (shown_batch ..).symm
  fetchBatches := by
    rw [received_batch]
    exact hn

/-- A lookup is received, but not counted. -/
theorem lookup (h : m.Tell log) : m.Tell (log ++ [.batch true]) := by
  have one : lookups (log ++ [.batch true]) = lookups log + 1 := by simp [lookups]
  have same : m.countBatches 0 = m := by simp [Metrics.countBatches]
  rw [← same]
  refine h.batch true ?_
  rw [one, Nat.add_sub_add_right, UInt64.add_zero, h.fetchBatches]

/-- Every other batch is counted. -/
theorem countBatch (h : m.Tell log) : (m.countBatches 1).Tell (log ++ [.batch false]) := by
  have none : lookups (log ++ [.batch false]) = lookups log := by simp [lookups]
  refine h.batch false ?_
  rw [none, Nat.sub_add_comm (lookups_le_received log), UInt64.ofNat_add, h.fetchBatches]
  rfl

theorem recordSnapshot (h : m.Tell log) (snapshot : Snapshot) :
    (m.recordSnapshot snapshot).Tell (log ++ [.returned snapshot]) := by
  have gauges (number : Snapshot → Nat) :
      (gauge (number snapshot)).toNat = shown (log ++ [.returned snapshot]) number := by
    rw [toNat_gauge, shown_returned]
  refine ⟨gauges fun s => s.executionBlock.toNat, gauges fun s => s.slot.toNat,
    gauges fun s => s.nodes.length, gauges fun s => s.minipools.length, ?_⟩
  have batches : received (log ++ [.returned snapshot]) = received log := by
    simp [received, isBatch]
  have lookups : lookups (log ++ [.returned snapshot]) = lookups log := by simp [lookups]
  rw [batches, lookups]
  exact h.fetchBatches

end Metrics.Tell

/-! ## Questions -/

section Questions

variable {ε β α γ : Type} (client : Service ExecutionQuery ε) (beacon : Service BeaconQuery β)
  (mayLookUp : Bool)

/-- Two chains and a session, with a record of what has to do with the metrics. -/
def Service.ofChainsMetered : Service Query (Surroundings ε β × List MeterEvent) :=
  (Service.ofChains client beacon).noting (MeterEvent.ofQuery mayLookUp)

/-- The question does not change the metrics. -/
def Query.LeavesMetrics : {α : Type} → Query α → Prop
  | _, .session .countBatch => False
  | _, .session (.recordSnapshot _) => False
  | _, _ => True

/-- The question is neither told to the metrics nor a batch that should be counted. -/
def Query.Unmetered {α : Type} (q : Query α) : Prop :=
  q.LeavesMetrics ∧ MeterEvent.ofQuery mayLookUp q ≠ some (.batch false)

/-- A batch has been counted that has not been sent yet. -/
def Surroundings.Counted (s : Surroundings ε β × List MeterEvent) : Prop :=
  ∃ m : Metrics, s.1.session.metrics = some (m.countBatches 1) ∧ m.Tell s.2

variable {client beacon mayLookUp}

theorem accept_session (q : Query α) (s : Surroundings ε β × List MeterEvent) :
    ((Service.ofChainsMetered client beacon mayLookUp).accept q s).1.1.session = s.1.session := by
  cases q <;> rfl

theorem metered_answer {q : Query α} (hq : q.LeavesMetrics)
    {s : Surroundings ε β × List MeterEvent} (hs : Surroundings.Metered s) :
    Surroundings.Metered ((Service.ofChainsMetered client beacon mayLookUp).answer q s).2 := by
  cases q with
  | session q =>
      cases q with
      | countBatch | recordSnapshot => exact hq.elim
      | _ => exact hs
  | _ => exact hs

theorem Query.unmetered {q : Query α} (hq : q.LeavesMetrics) (hbatch : q.isBatch = false) :
    q.Unmetered mayLookUp := by
  refine ⟨hq, ?_⟩
  simp [MeterEvent.ofQuery, hbatch]

theorem metered_keeps :
    (Service.ofChainsMetered client beacon mayLookUp).Keeps (Query.Unmetered mayLookUp)
      Surroundings.Metered where
  accept q s hq hs := by
    obtain ⟨m, hm, tell⟩ := hs
    refine ⟨m, by rw [accept_session, hm], ?_⟩
    show m.Tell (s.2 ++ (MeterEvent.ofQuery mayLookUp q).toList)
    cases hevent : MeterEvent.ofQuery mayLookUp q with
    | none => simpa using tell
    | some e =>
        cases e with
        | batch isLookup =>
            cases isLookup with
            | true => exact tell.lookup
            | false => exact absurd hevent hq.2
        | returned snapshot =>
            unfold MeterEvent.ofQuery at hevent
            split at hevent <;> cases hevent
  answer q s hq hs := metered_answer hq.1 hs

/-- The counter is moved before anyone else does something. -/
theorem ensures_countBatch {s : Surroundings ε β × List MeterEvent}
    (hs : Surroundings.Metered s) :
    (Task.ask (.session .countBatch)).Ensures (.ofChainsMetered client beacon mayLookUp)
      (.among Surroundings.Metered) (fun r s => r = .ok () ∧ Surroundings.Counted s) s := by
  obtain ⟨m, hm, tell⟩ := hs
  refine .ask_now rfl ⟨rfl, m, ?_, ?_⟩
  · exact congrArg (Option.map (Metrics.countBatches · 1)) hm
  · show m.Tell (s.2 ++ [])
    rwa [List.append_nil]

/-- Then the batch is sent. -/
theorem ensures_batch {q : Query α} (hq : q.LeavesMetrics)
    (hbatch : MeterEvent.ofQuery mayLookUp q = some (.batch false))
    {s : Surroundings ε β × List MeterEvent} (hs : Surroundings.Counted s) :
    (Task.ask q).Ensures (.ofChainsMetered client beacon mayLookUp) (.among Surroundings.Metered)
      (fun _ => Surroundings.Metered) s := by
  obtain ⟨m, hm, tell⟩ := hs
  refine .ask ⟨m.countBatches 1, by rw [accept_session, hm], ?_⟩ fun s' hs' => metered_answer hq hs'
  show (m.countBatches 1).Tell (s.2 ++ (MeterEvent.ofQuery mayLookUp q).toList)
  rw [hbatch]
  exact tell.countBatch

end Questions

/-! ## Fetching -/

/-- The field is not read by looking up the address of a contract. -/
def FieldSpec.NeverLooksUp {κ ρ : Type} (f : FieldSpec κ ρ) : Prop :=
  ∀ registry key storage name, f.call registry key ≠ Registry.lookup storage name

/-- What a plan has called in the batches of fetches never looks up, since its lookup is called
otherwise. -/
theorem CallPlan.neverLooksUp {plan : CallPlan}
    (hlookup : Contract.Storage.getAddress.selector ∈ plan.single) {κ ρ : Type} {f : FieldSpec κ ρ}
    (hf : ∀ registry key, (f.call registry key).selector ∈ plan.batched) : f.NeverLooksUp := by
  intro registry key storage name heq
  have batched := hf registry key
  rw [heq, Registry.lookup, Abi.Method.selector_call] at batched
  exact plan.disjoint _ hlookup batched

/-- A batch whose first call looks up no address is no lookup. -/
theorem isLookup_callsFor {κ ρ : Type} {fields : List (FieldSpec κ ρ)}
    (hfields : ∀ f ∈ fields, f.NeverLooksUp) (registry : Registry) (keys : List κ)
    (block : UInt64) :
    (Query.execution (.batchCall (Fetch.callsFor fields registry keys) block)).isLookup =
      false := by
  cases keys with
  | nil => rfl
  | cons key keys =>
      cases fields with
      | nil =>
          have none : Fetch.callsFor ([] : List (FieldSpec κ ρ)) registry (key :: keys) = [] := by
            simp [Fetch.callsFor]
          rw [none]
          rfl
      | cons f fields =>
          refine decide_eq_false fun h => ?_
          exact hfields f List.mem_cons_self registry key _ _ (List.head_eq_of_cons_eq h)

section Fetch

variable {ε β α γ : Type} {client : Service ExecutionQuery ε} {beacon : Service BeaconQuery β}
  {mayLookUp : Bool}

/-- The metrics are right whenever the task waits and when it has ended. -/
abbrev Task.KeepsMeters (client : Service ExecutionQuery ε) (beacon : Service BeaconQuery β)
    (mayLookUp : Bool) (t : Task Query α) : Prop :=
  t.Upholds (.ofChainsMetered client beacon mayLookUp) Surroundings.Metered

theorem metered_of_asks {t : Task Query α} (h : t.Asks .any (Query.Unmetered mayLookUp)) :
    t.KeepsMeters client beacon mayLookUp :=
  metered_keeps.upholds h

/-- A batch that is counted and sent under a permit. -/
theorem metered_batch {t : Task Query α}
    (ht : ∀ s, Surroundings.Counted s → t.Ensures (.ofChainsMetered client beacon mayLookUp)
      (.among Surroundings.Metered) (fun _ => Surroundings.Metered) s) :
    (Task.permitted (Task.ask (.session .countBatch) >>= fun _ => t)).KeepsMeters client beacon
      mayLookUp := by
  refine .permitted fun s hs => .bind ((ensures_countBatch hs).imp fun r s' ⟨hr, hs'⟩ => ?_)
  subst hr
  exact ht s' hs'

variable {κ ρ : Type} (registry : Registry) (block : UInt64)

theorem metered_fetch (init : κ → ρ) {fields : List (FieldSpec κ ρ)}
    (hfields : mayLookUp = true → ∀ f ∈ fields, f.NeverLooksUp) (batchSize : Nat)
    (keys : List κ) :
    (Fetch.fetch init fields registry block batchSize keys).KeepsMeters client beacon
      mayLookUp := by
  have event (keys : List κ) : MeterEvent.ofQuery mayLookUp
      (.execution (.batchCall (Fetch.callsFor fields registry keys) block)) =
        some (.batch false) := by
    cases mayLookUp with
    | false => rfl
    | true =>
        have none := isLookup_callsFor (hfields rfl) registry keys block
        simp only [MeterEvent.ofQuery, none]
        rfl
  unfold Fetch.fetch
  split
  · exact .done _
  · refine (Upholds.mapError (.all fun t ht => ?_) _).map _
    obtain ⟨⟨keys, i⟩, -, rfl⟩ := List.mem_map.mp ht
    refine metered_batch fun s hs => Upholds.after (fun replies => ?_) (.mapError
      (ensures_batch (q := .execution (.batchCall _ block)) trivial (event keys) hs))
    split <;> exact .done _

theorem metered_balances (accounts : List Address) :
    (Fetch.balances block accounts).KeepsMeters client beacon mayLookUp := by
  have event (accounts : List Address) : MeterEvent.ofQuery mayLookUp
      (.execution (.bulkBalances accounts block)) = some (.batch false) := by
    cases mayLookUp <;> rfl
  refine (Upholds.mapError (.all fun t ht => ?_) _).map _
  obtain ⟨accounts, -, rfl⟩ := List.mem_map.mp ht
  refine metered_batch fun s hs => Upholds.after (fun balances => ?_)
    (ensures_batch (q := .execution (.bulkBalances _ block)) trivial (event accounts) hs)
  split <;> exact .done _

theorem metered_read {inputs : List Abi.Ty} {output : Abi.Ty} (m : Abi.Method inputs output)
    (target : Address) (args : Abi.Values inputs) :
    (read m target args block).KeepsMeters client beacon mayLookUp :=
  metered_of_asks (.bind ((asks_context _ _).mpr (Query.unmetered trivial rfl)) fun _ => trivial)

theorem metered_fetchDirect (fields : List (FieldSpec κ ρ)) (key : κ) (r : ρ) :
    (Fetch.fetchDirect fields registry block key r).KeepsMeters client beacon mayLookUp := by
  refine metered_of_asks (.bind ?_ fun _ => trivial)
  simp only [asks_all, List.mem_map, forall_exists_index, and_imp]
  rintro _ f - rfl
  exact (asks_context _ _).mpr (Query.unmetered trivial rfl)

/-! ### Nodes and minipools -/

theorem metered_listing (plan : CallPlan)
    (hlookup : Contract.Storage.getAddress.selector ∈ plan.single) {inputs : List Abi.Ty}
    {output : Abi.Ty} {method : String} {m : Abi.Method inputs output}
    {target : Registry → κ → Address} {args : κ → Abi.Values inputs}
    {set : output.Value → Address → Address} (hm : m.selector ∈ plan.batched) (keys : List κ) :
    (Fetch.fetch (fun _ => Address.zero) [.ofMethod method m target args set] registry block
      Fetch.addressBatch keys).KeepsMeters client beacon mayLookUp := by
  refine metered_fetch registry block _ (fun _ => List.forall_mem_singleton.mpr ?_) _ _
  exact plan.neverLooksUp hlookup fun _ _ => by rwa [FieldSpec.selector_ofMethod]

theorem metered_nodeAddresses :
    (Fetch.nodeAddresses registry block).KeepsMeters client beacon mayLookUp := by
  refine (metered_read block _ _ _).bind fun count => Upholds.bind (.done _) fun indices => ?_
  exact metered_listing registry block .forAll (by simp) (by simp) _

theorem metered_allNodes : (Fetch.allNodes registry block).KeepsMeters client beacon mayLookUp := by
  refine (metered_nodeAddresses registry block).bind fun addresses => ?_
  have fields (f : FieldSpec Address Node) (hf : f ∈ NodeField.table) : f.NeverLooksUp :=
    CallPlan.forAll.neverLooksUp (by simp) fun registry node => by
      simp [NodeField.selector_mem hf registry node]
  refine (metered_fetch registry block _ (fun _ => fields) _ _).bind fun nodes => ?_
  exact ((metered_balances block _).both (metered_balances block _)).bind fun _ => .done _

theorem metered_node (address : Address) :
    (Fetch.node registry block address).KeepsMeters client beacon mayLookUp := by
  refine (metered_fetchDirect registry block _ _ _).bind fun n => ?_
  have balance (account : Address) :
      (Fetch.balance block account).KeepsMeters client beacon mayLookUp :=
    metered_of_asks (t := .ask _) (Query.unmetered trivial rfl)
  exact ((balance _).both (balance _)).bind fun _ => .done _

theorem metered_minipools (addresses : List Address) :
    (Fetch.minipools registry block addresses).KeepsMeters client beacon mayLookUp := by
  have fields (f : FieldSpec Address Minipool) (hf : f ∈ MinipoolField.table) : f.NeverLooksUp :=
    CallPlan.forAll.neverLooksUp (by simp) fun registry minipool => by
      simp [MinipoolField.selector_mem hf registry minipool]
  exact metered_fetch registry block _ (fun _ => fields) _ _

theorem metered_allMinipools :
    (Fetch.allMinipools registry block).KeepsMeters client beacon mayLookUp := by
  refine Upholds.bind ?_ fun addresses => metered_minipools registry block addresses
  refine (metered_read block _ _ _).bind fun count => Upholds.bind (.done _) fun indices => ?_
  exact metered_listing registry block .forAll (by simp) (by simp) _

theorem metered_nodeMinipools (node : Address) :
    (Fetch.nodeMinipools registry block node).KeepsMeters client beacon mayLookUp := by
  refine (metered_read block _ _ _).bind fun count => Upholds.bind (.done _) fun indices => ?_
  refine Upholds.bind ?_ fun addresses => metered_minipools registry block addresses
  exact metered_listing registry block .forOne (by simp) (by simp) _

theorem metered_assembleAll :
    (Request.assembleAll registry block).KeepsMeters client beacon mayLookUp := by
  refine ((metered_allNodes registry block).both (metered_allMinipools registry block)).bind
    fun _ => Upholds.bind (.done _) fun _ => .done _

theorem metered_assembleOne (address : Address) :
    (Request.assembleOne registry block address).KeepsMeters client beacon mayLookUp := by
  refine ((metered_node registry block address).both
    (metered_nodeMinipools registry block address)).bind
      fun _ => Upholds.bind (.done _) fun _ => .done _

/-! ### The queue -/

theorem metered_askContracts (q : QueueQuery α) :
    (Queue.askContracts registry block q).KeepsMeters client beacon mayLookUp := by
  cases q with
  | length | totalLength | indexOf => exact (metered_read block _ _ _).map _
  | itemAt => exact metered_read block _ _ _
  | depositType => exact (metered_read block _ _ _).bind fun _ => .done _

theorem metered_atBlock (t : Task QueueQuery α) :
    (Queue.atBlock registry block t).KeepsMeters client beacon mayLookUp :=
  Upholds.substitute (metered_askContracts registry block) t

theorem metered_status : (Queue.status registry block).KeepsMeters client beacon mayLookUp := by
  have capacity : (Queue.capacity registry block).KeepsMeters client beacon mayLookUp :=
    ((metered_read block _ _ _).both
      ((metered_read block _ _ _).both (metered_read block _ _ _))).bind fun _ => .done _
  exact ((metered_atBlock registry block _).both capacity).bind fun _ => .done _

end Fetch

/-! ## Requests -/

section Requests

variable {ε β α γ : Type} {client : Service ExecutionQuery ε} {beacon : Service BeaconQuery β}
  (settings : Settings) (storage : Address)

theorem asks_beaconConfig_unmetered :
    Request.beaconConfig.Asks .any (Query.Unmetered true) := by
  refine Asks.bind (Query.unmetered trivial rfl) fun known => ?_
  cases known with
  | some config => trivial
  | none =>
      refine Asks.bind (Query.unmetered trivial rfl) fun _ => ?_
      exact Asks.bind (Query.unmetered trivial rfl) fun _ => trivial

theorem asks_headBlock_unmetered :
    (Request.headBlock settings).Asks .any (Query.Unmetered true) :=
  asks_headBlock asks_beaconConfig_unmetered (Query.unmetered trivial rfl)
    (fun _ => Query.unmetered trivial rfl) settings

theorem asks_latestFinalizedBlock_unmetered :
    (Request.latestFinalizedBlock settings).Asks .any (Query.Unmetered true) := by
  refine Asks.bind asks_beaconConfig_unmetered fun config => Asks.bind ?_ fun head => ?_
  · exact (asks_context _ _).mpr (Query.unmetered trivial rfl)
  · exact Asks.bind trivial fun slot =>
      asks_latestProposedBlock (fun _ => Query.unmetered trivial rfl) slot _

theorem metered_beaconBlock (request : PoolRequest α) :
    (request.beaconBlock settings).KeepsMeters client beacon true := by
  cases request with
  | stateForSlot slot =>
      exact metered_of_asks (asks_latestProposedBlock (fun _ => Query.unmetered trivial rfl) slot _)
  | _ => exact metered_of_asks (asks_headBlock_unmetered settings)

theorem metered_executionBlock (block : BeaconBlock) :
    (Request.executionBlock block).KeepsMeters client beacon true := by
  refine metered_of_asks (Asks.bind asks_beaconConfig_unmetered fun config => ?_)
  split <;> trivial

/-- The addresses of the contracts are looked up in a batch that is not counted. -/
theorem metered_load (block : UInt64) :
    (Registry.load storage block).KeepsMeters client beacon true := by
  have event : MeterEvent.ofQuery true (.execution (.batchCall
      (ContractName.all.map (Registry.lookup storage)) block)) = some (.batch true) := by
    have lookup : (Query.execution (.batchCall
        (ContractName.all.map (Registry.lookup storage)) block)).isLookup = true :=
      decide_eq_true rfl
    simp only [MeterEvent.ofQuery, lookup]
    rfl
  refine metered_of_asks (.bind ((asks_context _ _).mpr ⟨trivial, ?_⟩) fun _ => trivial)
  rw [event]
  nofun

/-- After the beacon block, the addresses of the contracts are loaded, and the rest is read. -/
theorem metered_loaded (block : BeaconBlock)
    {t : BeaconConfig × UInt64 → Registry → Task Query α}
    (ht : ∀ c registry, (t c registry).KeepsMeters client beacon true) :
    (Request.executionBlock block >>= fun c => Registry.load storage c.2 >>= t c).KeepsMeters client
      beacon true :=
  (metered_executionBlock block).bind fun c => (metered_load storage c.2).bind (ht c)

end Requests

/-! ## Operations -/

/-- What may be asked of a manager, or of a fetcher that shares its metrics. -/
inductive Operation : Type → Type 1 where
  | session {α : Type} (request : SessionRequest α) : Operation α
  | load (block : UInt64) : Operation Registry
  | assembleAll (registry : Registry) (block : UInt64) : Operation (List Node × List Minipool)
  | assembleOne (registry : Registry) (block : UInt64) (address : Address) :
      Operation (Node × List Minipool)
  | fetch {κ ρ : Type} (init : κ → ρ) (fields : List (FieldSpec κ ρ)) (registry : Registry)
      (block : UInt64) (batchSize : Nat) (keys : List κ) : Operation (List ρ)
  | balances (block : UInt64) (accounts : List Address) : Operation (List Amount)

namespace Operation

variable {α : Type}

def task (settings : Settings) (storage : Address) {α : Type} : Operation α → Task Query α
  | .session request => request.task settings storage
  | .load block => Registry.load storage block
  | .assembleAll registry block => Request.assembleAll registry block
  | .assembleOne registry block address => Request.assembleOne registry block address
  | .fetch init fields registry block batchSize keys =>
      Fetch.fetch init fields registry block batchSize keys
  | .balances block accounts => Fetch.balances block accounts

/-- Only a manager looks up the addresses of contracts. -/
def mayLookUp : Operation α → Bool
  | .fetch .. => false
  | .balances .. => false
  | _ => true

/-- The full snapshot that is returned with a value, if it is one. -/
def fullSnapshot? : {α : Type} → Operation α → α → Option Snapshot
  | _, .session (.pool .headState), snapshot => some snapshot
  | _, .session (.pool (.stateForSlot _)), snapshot => some snapshot
  | _, _, _ => none

/-- What is recorded at the end of an operation. -/
def returned (op : Operation α) (r : Outcome α) : List MeterEvent :=
  ((r.toOption.bind op.fullSnapshot?).map .returned).toList

@[simp] theorem returned_error (op : Operation α) (e : Failure) : op.returned (.error e) = [] := rfl

section Ensures

variable {ε β γ : Type} {client : Service ExecutionQuery ε} {beacon : Service BeaconQuery β}
  (settings : Settings) (storage : Address)

/-- The metrics are right when the operation ends in an outcome. -/
def Settles (op : Operation α) (r : Outcome α) (s : Surroundings ε β × List MeterEvent) : Prop :=
  Surroundings.Metered (s.1, s.2 ++ op.returned r)

theorem settles_error {op : Operation α} {s : Surroundings ε β × List MeterEvent}
    (hs : Surroundings.Metered s) (e : Failure) : op.Settles (.error e) s := by
  rw [Settles, returned_error, List.append_nil]
  exact hs

/-- The operation begins with right metrics, keeps them right when it waits, and settles them. -/
def Settled (client : Service ExecutionQuery ε) (beacon : Service BeaconQuery β)
    (op : Operation α) (t : Task Query α) : Prop :=
  ∀ s, Surroundings.Metered s → t.Ensures (.ofChainsMetered client beacon op.mayLookUp)
    (.among Surroundings.Metered) op.Settles s

/-- An operation that returns no full snapshot. -/
theorem settled_of_none {op : Operation α} (hop : ∀ a, op.fullSnapshot? a = none)
    {t : Task Query α} (ht : t.KeepsMeters client beacon op.mayLookUp) :
    op.Settled client beacon t := by
  refine fun s hs => (ht s hs).imp fun r s' hs' => ?_
  cases r with
  | error e => exact settles_error hs' e
  | ok a =>
      have none : op.returned (.ok a) = [] := by
        show ((op.fullSnapshot? a).map MeterEvent.returned).toList = []
        rw [hop a]
        rfl
      rw [Settles, none, List.append_nil]
      exact hs'

theorem Settled.bind {op : Operation α} {t : Task Query γ} {f : γ → Task Query α}
    (ht : t.KeepsMeters client beacon op.mayLookUp)
    (hf : ∀ a, op.Settled client beacon (f a)) : op.Settled client beacon (t >>= f) := by
  refine fun s hs => .bind ((ht s hs).imp fun r s' hs' => ?_)
  cases r with
  | ok a => exact hf a s' hs'
  | error e => exact settles_error hs' e

theorem Settled.within {op : Operation α} {seconds : Nat} {late : Error} {t : Task Query α}
    (ht : op.Settled client beacon t) : op.Settled client beacon (.within seconds late t) :=
  fun s hs => .within (fun _ hs => settles_error hs _) (ht s hs)

/-- A full snapshot is shown in the metrics before anyone else does something, and returned. -/
theorem settled_snapshotAt {op : Operation Snapshot} (hlooks : op.mayLookUp = true)
    (hop : ∀ snapshot, op.fullSnapshot? snapshot = some snapshot) (block : BeaconBlock) :
    op.Settled client beacon (Request.snapshotAt storage block) := by
  refine .bind (hlooks ▸ metered_executionBlock block) fun c => ?_
  refine .bind (hlooks ▸ metered_load storage c.2) fun registry => ?_
  refine .bind ((metered_assembleAll registry c.2).both (metered_read c.2 _ _ _)) fun read => ?_
  rintro s ⟨m, hm, tell⟩
  refine .bind (.ask_now rfl (.done ⟨_, congrArg (Option.map (Metrics.recordSnapshot · _)) hm, ?_⟩))
  have returned (snapshot : Snapshot) : op.returned (.ok snapshot) = [.returned snapshot] := by
    show ((op.fullSnapshot? snapshot).map MeterEvent.returned).toList = _
    rw [hop snapshot]
    rfl
  show Metrics.Tell _ (s.2 ++ [] ++ op.returned (.ok _))
  rw [returned, List.append_nil]
  exact tell.recordSnapshot _

theorem settled_rest (request : PoolRequest α) (block : BeaconBlock) :
    (Operation.session (.pool request)).Settled client beacon (request.rest storage block) := by
  cases request with
  | headState => exact settled_snapshotAt storage rfl (fun _ => rfl) block
  | stateForSlot slot => exact settled_snapshotAt storage rfl (fun _ => rfl) block
  | headStateForNode address =>
      refine settled_of_none (fun _ => rfl) (metered_loaded storage block fun c registry => ?_)
      exact ((metered_assembleOne registry c.2 address).both (metered_read c.2 _ _ _)).bind
        fun _ => .done _
  | queuePosition minipool | minipoolAtQueuePosition position =>
      exact settled_of_none (fun _ => rfl)
        (metered_loaded storage block fun c registry => metered_atBlock registry c.2 _)
  | queueStatus =>
      exact settled_of_none (fun _ => rfl)
        (metered_loaded storage block fun c registry => metered_status registry c.2)

variable (client beacon) in
/-- Every operation keeps the metrics right. -/
theorem settled_task (op : Operation α) :
    op.Settled client beacon (op.task settings storage) := by
  cases op with
  | session request =>
      cases request with
      | beaconConfig =>
          exact settled_of_none (fun _ => rfl) (metered_of_asks asks_beaconConfig_unmetered)
      | latestBlock =>
          exact settled_of_none (fun _ => rfl) (metered_of_asks (asks_headBlock_unmetered settings))
      | latestFinalizedBlock =>
          exact settled_of_none (fun _ => rfl)
            (metered_of_asks (asks_latestFinalizedBlock_unmetered settings))
      | pool request =>
          obtain ⟨name, htask⟩ := request.task_eq settings storage
          rw [task, SessionRequest.task, htask]
          exact .within (.bind (metered_beaconBlock settings request)
            fun block => settled_rest storage request block)
  | load block => exact settled_of_none (fun _ => rfl) (metered_load storage block)
  | assembleAll registry block =>
      exact settled_of_none (fun _ => rfl) (metered_assembleAll registry block)
  | assembleOne registry block address =>
      exact settled_of_none (fun _ => rfl) (metered_assembleOne registry block address)
  | fetch init fields registry block batchSize keys =>
      have noLookup : false = true → ∀ f ∈ fields, f.NeverLooksUp := Bool.noConfusion
      exact settled_of_none (fun _ => rfl)
        (metered_fetch registry block init noLookup batchSize keys)
  | balances block accounts =>
      exact settled_of_none (fun _ => rfl) (metered_balances block accounts)

end Ensures

end Operation

/-! ## Runs -/

/-- An operation that has begun and not ended. -/
structure UnderWay where
  {α : Type}
  operation : Operation α
  running : Running Query α

section Moments

variable {ε β : Type}

/-- What a look at an operation leaves: the operation itself unless it has ended, and the state,
with a record of what was returned. -/
def Operation.left {α : Type} (op : Operation α) :
    Running Query α × Machine (Surroundings ε β × List MeterEvent) →
      List UnderWay × (Surroundings ε β × List MeterEvent)
  | (.finished r, m) => ([], (m.state.1, m.state.2 ++ op.returned r))
  | (x, m) => ([⟨op, x⟩], m.state)

variable (client : Service ExecutionQuery ε) (beacon : Service BeaconQuery β)
  (settings : Settings) (storage : Address)

/-- The moments of a session with metrics: the operations under way, the state, and the record.
Operations begin, are looked at at any times and with any permits, and are dropped, in any order;
an operation may also be run in order as a whole. Permits may be withdrawn.

Operations that overlap each ask for the beacon configuration, and do not wait until one of them has
filled a cell for all (`Request.beaconConfig`). So the moments are those of batches and snapshots,
and do not tell how often the configuration is asked for. -/
inductive Session.Moment : List UnderWay → Surroundings ε β × List MeterEvent → Prop where
  | new (execution : ε) (beaconState : β) : Moment [] (⟨execution, beaconState, .new true⟩, [])
  | begin {others mine : List UnderWay} {m : Machine (Surroundings ε β × List MeterEvent)}
      {s : Surroundings ε β × List MeterEvent} (h : Moment others m.state) {α : Type}
      (op : Operation α)
      (hnow : op.left ((op.task settings storage).start
        (.ofChainsMetered client beacon op.mayLookUp) m) = (mine, s)) :
      Moment (mine ++ others) s
  | look {before after mine : List UnderWay} {m : Machine (Surroundings ε β × List MeterEvent)}
      {s : Surroundings ε β × List MeterEvent} {α : Type} {op : Operation α} {x : Running Query α}
      (h : Moment (before ++ ⟨op, x⟩ :: after) m.state)
      (hnow : op.left (x.resume (.ofChainsMetered client beacon op.mayLookUp) m) = (mine, s)) :
      Moment (before ++ (mine ++ after)) s
  | drop {before after : List UnderWay} {dropped : UnderWay}
      {s : Surroundings ε β × List MeterEvent} (h : Moment (before ++ dropped :: after) s) :
      Moment (before ++ after) s
  | inOrder {others : List UnderWay} {s last : Surroundings ε β × List MeterEvent}
      (h : Moment others s) {α : Type} (op : Operation α) {r : Outcome α}
      (hrun : (op.task settings storage).run (.ofChainsMetered client beacon op.mayLookUp) s
        = (r, last)) :
      Moment others (last.1, last.2 ++ op.returned r)
  | close {others : List UnderWay} {s : Surroundings ε β × List MeterEvent}
      (h : Moment others s) :
      Moment others (⟨s.1.execution, s.1.beacon, { s.1.session with closed := true }⟩, s.2)

variable {client beacon settings storage}

/-- The operation waits, and keeps the metrics right in all that it still does. -/
structure UnderWay.Safe (client : Service ExecutionQuery ε) (beacon : Service BeaconQuery β)
    (u : UnderWay) : Prop where
  waits : u.running.Waits
  safe (n : Nat) {m : Machine (Surroundings ε β × List MeterEvent)} :
    Surroundings.Metered m.state →
      Running.Safe (.ofChainsMetered client beacon u.operation.mayLookUp)
        (.among Surroundings.Metered) u.operation.Settles n (u.running, m)

/-- One look keeps the metrics right, and so do the looks that are to come. -/
theorem Operation.left_safe {α : Type} {op : Operation α}
    {now : Running Query α × Machine (Surroundings ε β × List MeterEvent)}
    (h : ∀ n, Running.Safe (.ofChainsMetered client beacon op.mayLookUp)
      (.among Surroundings.Metered) op.Settles n now) {mine : List UnderWay}
    {s : Surroundings ε β × List MeterEvent} (hnow : op.left now = (mine, s)) :
    Surroundings.Metered s ∧ ∀ u ∈ mine, u.Safe client beacon := by
  obtain ⟨x, m⟩ := now
  cases x with
  | finished r =>
      cases hnow
      exact ⟨h 0, fun _ hu => (List.not_mem_nil hu).elim⟩
  | _ =>
      cases hnow
      refine ⟨h 0, fun u hu => ?_⟩
      obtain rfl := List.mem_singleton.mp hu
      exact ⟨trivial, fun n _ hm => (h n).stable trivial hm⟩

theorem Session.Moment.metered {others : List UnderWay} {s : Surroundings ε β × List MeterEvent}
    (h : Session.Moment client beacon settings storage others s) :
    Surroundings.Metered s ∧ ∀ u ∈ others, u.Safe client beacon := by
  induction h with
  | new => exact ⟨⟨_, rfl, .zero⟩, fun _ hu => (List.not_mem_nil hu).elim⟩
  | begin _ op hnow ih =>
      obtain ⟨metered, each⟩ := ih
      have started := op.settled_task client beacon settings storage _ metered
      obtain ⟨metered, mine⟩ := Operation.left_safe (fun n => started.start n rfl) hnow
      exact ⟨metered, List.forall_mem_append.mpr ⟨mine, each⟩⟩
  | look _ hnow ih =>
      obtain ⟨metered, each⟩ := ih
      rw [List.forall_mem_append, List.forall_mem_cons] at each
      obtain ⟨before, ⟨waits, safe⟩, after⟩ := each
      obtain ⟨metered, mine⟩ := Operation.left_safe
        (fun n => (safe (n + 1) metered).resume waits metered) hnow
      exact ⟨metered, List.forall_mem_append.mpr ⟨before, List.forall_mem_append.mpr ⟨mine, after⟩⟩⟩
  | drop _ ih =>
      obtain ⟨metered, each⟩ := ih
      rw [List.forall_mem_append, List.forall_mem_cons] at each
      exact ⟨metered, List.forall_mem_append.mpr ⟨each.1, each.2.2⟩⟩
  | inOrder _ op hrun ih =>
      obtain ⟨metered, each⟩ := ih
      have ended := (op.settled_task client beacon settings storage _ metered).run
      rw [hrun] at ended
      exact ⟨ended, each⟩
  | close _ ih => exact ih

/-- Whatever a manager and a fetcher that shares its metrics are asked, and however it fails: at
every moment of every run the gauges are those of the last full snapshot that was returned, and the
counter is the number of batches that the execution client has received, less the lookups of
contract addresses. -/
theorem Session.metrics_tell {others : List UnderWay} {s : Surroundings ε β × List MeterEvent}
    (h : Session.Moment client beacon settings storage others s) :
    ∃ m, s.1.session.metrics = some m ∧ m.Tell s.2 :=
  h.metered.1

end Moments

/-! ### A fetch beside a snapshot -/

/-- A small pool whose batches take a second. -/
def SmallPool.slowBatches : Service ExecutionQuery Unit where
  accept q s := (s, if q.isBatch then 1000 else 0)
  answer q s := (SmallPool.answers q, s)
  permit _ := .ok ()

/-- A session that has counted a batch. -/
def Session.afterBatch : Surroundings Unit Unit × List MeterEvent :=
  (⟨(), (), ⟨none, some (Metrics.zero.countBatches 1), false⟩⟩, [.batch false])

/-- The full snapshot of the small pool, with its lookup and six batches. -/
theorem SmallPool.headState_metered :
    ∃ full s, (Request.headState .default (.ofNat 1)).run
        (.ofChainsMetered slowBatches (.fixed BeaconQuery.sample) true) Session.afterBatch =
          (.ok full, s) ∧
      received s.2 = 8 ∧ s.1.session.metrics = some ⟨7, 7, 2, 3, 7⟩ := by
  have check : (match (Request.headState .default (.ofNat 1)).run
      (.ofChainsMetered slowBatches (.fixed BeaconQuery.sample) true) Session.afterBatch with
      | (.ok _, s) => decide (received s.2 = 8 ∧ s.1.session.metrics = some ⟨7, 7, 2, 3, 7⟩)
      | (.error _, _) => false) = true := by decide +kernel
  generalize (Request.headState .default (.ofNat 1)).run _ _ = last at check
  obtain ⟨e | full, s⟩ := last
  · cases check
  · exact ⟨full, s, rfl, of_decide_eq_true check⟩

/-- The full snapshot is returned while a batch of a fetcher is under way, which has been counted
as well. -/
theorem Session.metrics_tell_smallPool :
    ∃ fetching s, Session.Moment SmallPool.slowBatches (.fixed BeaconQuery.sample) .default
        (.ofNat 1) [fetching] s ∧
      received s.2 = 8 ∧ s.1.session.metrics = some ⟨7, 7, 2, 3, 7⟩ ∧
      ∃ m, s.1.session.metrics = some m ∧ m.Tell s.2 := by
  have begun : ∃ fetching, (Operation.balances 7 [.ofNat 100]).left
      ((Fetch.balances 7 [.ofNat 100]).start
        (.ofChainsMetered SmallPool.slowBatches (.fixed BeaconQuery.sample) false)
        ⟨(⟨(), (), .new true⟩, []), 0, .ofCount 1⟩) = ([fetching], Session.afterBatch) := by
    have oneBatch : Fetch.chunks Fetch.addressBatch [Address.ofNat 100] = [[.ofNat 100]] := by
      decide +kernel
    rw [Fetch.balances, oneBatch]
    exact ⟨_, rfl⟩
  obtain ⟨fetching, hnow⟩ := begun
  obtain ⟨full, s, hrun, hreceived, hmetrics⟩ := SmallPool.headState_metered
  have moment := Session.Moment.inOrder
    (.begin (.new () ()) (.balances 7 [.ofNat 100]) hnow) (.session (.pool .headState)) hrun
  refine ⟨fetching, _, moment, ?_, hmetrics, Session.metrics_tell moment⟩
  rw [← hreceived]
  exact List.countP_append.trans (Nat.add_zero _)

end StakeSnapshot
