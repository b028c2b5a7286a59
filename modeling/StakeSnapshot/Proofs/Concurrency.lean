import StakeSnapshot.Proofs.Queue.Positions
import StakeSnapshot.Proofs.SingleBlock
import StakeSnapshot.Proofs.Task.Looks

/-!
# How many batches are in flight

Requests may overlap in any way, as long as they share their permits. Every batch of a fetch is sent
under a permit, so no more of these are in flight than there are permits. The lookup of the contract
addresses, which every request makes once, is a batch too, and is sent without a permit: with the
lookups, as many more batches may be in flight as there are requests under way
(`PoolRequest.batchesInFlight_le`), and two requests on a single permit do send two batches at once
(`PoolRequest.two_batches_on_one_permit`).

Requests also share the beacon configuration once it has been read. Whether one of several requests
that overlap asks for it or each of them does (`Request.beaconConfig`) makes no difference to
batches, and both are among what can happen to a `System`.
-/

namespace StakeSnapshot

open StakeSnapshot.Task

/-- The question is sent as a batch. -/
def ExecutionQuery.isBatch {α : Type} : ExecutionQuery α → Bool
  | .batchCall _ _ => true
  | .bulkBalances _ _ => true
  | _ => false

/-- The question is the lookup of all contract addresses. -/
def ExecutionQuery.isLookup {α : Type} : ExecutionQuery α → Bool
  | .batchCall (first :: rest) _ =>
    first :: rest = ContractName.all.map (Registry.lookup first.target)
  | _ => false

namespace Query

def isBatch {α : Type} : Query α → Bool
  | .execution q => q.isBatch
  | _ => false

def isLookup {α : Type} : Query α → Bool
  | .execution q => q.isLookup
  | _ => false

/-- The question is a batch other than the lookup of the contract addresses. -/
def isFetchBatch {α : Type} (q : Query α) : Bool := q.isBatch && !q.isLookup

end Query

/-! ## What rations batches -/

section Rationed

variable {p : {α : Type} → Query α → Bool}
  (hp : ∀ {α : Type} (q : Query α), q.isBatch = false → p q = false)

include hp

theorem rationed_ask {α : Type} {q : Query α} (hq : q.isBatch = false) (k : Nat) :
    (ask q).Rationed p k :=
  fun h => by cases (hp q hq).symm.trans h

theorem rationed_read {inputs : List Abi.Ty} {output : Abi.Ty} (m : Abi.Method inputs output)
    (target : Address) (args : Abi.Values inputs) (block : UInt64) :
    (read m target args block).Rationed p 0 :=
  ((rationed_ask hp rfl 0).context _).bind fun _ => trivial

/-! ### Fetching -/

section Fetch

variable {κ ρ : Type} (registry : Registry) (block : UInt64)

omit hp in
/-- A batch is sent under a permit. -/
theorem rationed_fetch (init : κ → ρ) (fields : List (FieldSpec κ ρ)) (batchSize : Nat)
    (keys : List κ) : (Fetch.fetch init fields registry block batchSize keys).Rationed p 0 := by
  unfold Fetch.fetch
  split
  · trivial
  · refine (Rationed.mapError (Rationed.all fun t ht => ?_) _).map _
    obtain ⟨⟨keys, i⟩, -, rfl⟩ := List.mem_map.mp ht
    refine Sequential.bind trivial fun _ => Sequential.bind ?_ fun replies => ?_
    · exact ⟨trivial, fun _ => trivial⟩
    · split <;> trivial

omit hp in
theorem rationed_balances (accounts : List Address) :
    (Fetch.balances block accounts).Rationed p 0 := by
  refine (Rationed.mapError (Rationed.all fun t ht => ?_) _).map _
  obtain ⟨accounts, -, rfl⟩ := List.mem_map.mp ht
  refine Sequential.bind trivial fun _ => Sequential.bind trivial fun balances => ?_
  split <;> trivial

theorem rationed_fetchDirect (fields : List (FieldSpec κ ρ)) (key : κ) (r : ρ) :
    (Fetch.fetchDirect fields registry block key r).Rationed p 0 := by
  refine Rationed.bind (Rationed.all fun t ht => ?_) fun _ => trivial
  obtain ⟨f, -, rfl⟩ := List.mem_map.mp ht
  exact (rationed_ask hp rfl 0).context _

theorem rationed_allNodes : (Fetch.allNodes registry block).Rationed p 0 := by
  refine Rationed.bind ?_ fun _ => (rationed_fetch registry block _ _ _ _).bind fun _ => ?_
  · exact (rationed_read hp _ _ _ _).bind fun _ =>
      Rationed.bind trivial fun _ => rationed_fetch registry block _ _ _ _
  · exact (Rationed.both (rationed_balances block _) (rationed_balances block _)).bind
      fun _ => trivial

theorem rationed_node (address : Address) : (Fetch.node registry block address).Rationed p 0 := by
  refine (rationed_fetchDirect hp registry block _ _ _).bind fun _ => ?_
  exact (Rationed.both (rationed_ask hp rfl 0) (rationed_ask hp rfl 0)).bind fun _ => trivial

theorem rationed_allMinipools : (Fetch.allMinipools registry block).Rationed p 0 := by
  refine Rationed.bind ?_ fun _ => rationed_fetch registry block _ _ _ _
  exact (rationed_read hp _ _ _ _).bind fun _ =>
    Rationed.bind trivial fun _ => rationed_fetch registry block _ _ _ _

theorem rationed_nodeMinipools (node : Address) :
    (Fetch.nodeMinipools registry block node).Rationed p 0 :=
  (rationed_read hp _ _ _ _).bind fun _ => Rationed.bind trivial fun _ =>
    (rationed_fetch registry block _ _ _ _).bind fun _ => rationed_fetch registry block _ _ _ _

theorem rationed_assembleAll : (Request.assembleAll registry block).Rationed p 0 :=
  (Rationed.both (rationed_allNodes hp registry block)
    (rationed_allMinipools hp registry block)).bind fun _ =>
      Rationed.bind trivial fun _ => trivial

theorem rationed_assembleOne (address : Address) :
    (Request.assembleOne registry block address).Rationed p 0 :=
  (Rationed.both (rationed_node hp registry block address)
    (rationed_nodeMinipools hp registry block address)).bind fun _ =>
      Rationed.bind trivial fun _ => trivial

theorem rationed_totalEffectiveRplStake :
    (Request.totalEffectiveRplStake registry block).Rationed p 0 :=
  rationed_read hp _ _ _ _

/-! ### The queue -/

theorem rationed_askContracts {α : Type} (q : QueueQuery α) :
    (Queue.askContracts registry block q).Rationed p 0 := by
  cases q with
  | length | totalLength | indexOf => exact (rationed_read hp _ _ _ _).map _
  | itemAt => exact rationed_read hp _ _ _ _
  | depositType => exact (rationed_read hp _ _ _ _).bind fun _ => trivial

theorem rationed_atBlock {α : Type} {t : Task QueueQuery α} (ht : t.Permitless) :
    (Queue.atBlock registry block t).Rationed p 0 :=
  Rationed.substitute (rationed_askContracts hp registry block) ht

theorem rationed_status : (Queue.status registry block).Rationed p 0 := by
  have lengths : Queue.lengths.Permitless :=
    Permitless.bind ⟨trivial, trivial, trivial⟩ fun _ => trivial
  have capacity : (Queue.capacity registry block).Rationed p 0 :=
    (Rationed.both (rationed_read hp _ _ _ _) (Rationed.both (rationed_read hp _ _ _ _)
      (rationed_read hp _ _ _ _))).bind fun _ => trivial
  exact (Rationed.both (rationed_atBlock hp registry block lengths) capacity).bind fun _ => trivial

end Fetch

/-! ### Requests -/

section Requests

variable {k : Nat} (settings : Settings) (storage : Address)

theorem rationed_beaconConfig : Request.beaconConfig.Rationed p k := by
  refine (rationed_ask hp rfl k).bind fun known => ?_
  cases known with
  | some config => trivial
  | none =>
      exact (rationed_ask hp rfl k).bind fun _ => (rationed_ask hp rfl k).bind fun _ => trivial

theorem rationed_latestProposedBlock (start lookback : UInt64) :
    (Clock.latestProposedBlock start lookback).Rationed p k := by
  have search (count : Nat) : ∀ start : UInt64, (Clock.findBlock start count).Rationed p k := by
    induction count with
    | zero => exact fun _ => trivial
    | succ count ih =>
        intro start
        refine (rationed_ask hp rfl k).bind fun found => ?_
        cases found with
        | none => exact ih (start - 1)
        | some block => trivial
  refine (search _ start).bind fun found => ?_
  cases found <;> trivial

theorem rationed_beaconBlock {α : Type} (request : PoolRequest α) :
    (request.beaconBlock settings).Rationed p k := by
  have slot (config : BeaconConfig) : (Clock.headSlot config).Rationed p k :=
    ((rationed_ask hp rfl k).context _).bind fun _ => trivial
  have head : (Request.headBlock settings).Rationed p k :=
    (rationed_beaconConfig hp).bind fun config =>
      (slot config).bind fun slot => rationed_latestProposedBlock hp slot _
  cases request with
  | stateForSlot slot => exact rationed_latestProposedBlock hp slot _
  | _ => exact head

theorem rationed_executionBlock (block : BeaconBlock) :
    (Request.executionBlock block).Rationed p k := by
  refine (rationed_beaconConfig hp).bind fun config => ?_
  split <;> trivial

variable (hlookup : ∀ block, p (.execution (.batchCall
  (ContractName.all.map (Registry.lookup storage)) block)) = true → 0 < k)

include hlookup

omit hp in
/-- The lookup of the contract addresses is asked without a permit. -/
theorem rationed_load (block : UInt64) : (Registry.load storage block).Rationed p k := by
  have asked : (ask (Query.execution (.batchCall
      (ContractName.all.map (Registry.lookup storage)) block))).Rationed p k := hlookup block
  exact (asked.context _).bind fun _ => trivial

/-- Requests load the contract addresses once the execution block is known, and ration the rest. -/
theorem rationed_loaded {α : Type} (block : BeaconBlock)
    {t : BeaconConfig × UInt64 → Registry → Task Query α} (ht : ∀ c r, (t c r).Rationed p 0) :
    (Request.executionBlock block >>= fun c => Registry.load storage c.2 >>= t c).Rationed p k :=
  (rationed_executionBlock hp block).bind fun c =>
    (rationed_load storage hlookup c.2).bind fun registry => (ht c registry).mono (Nat.zero_le k)

theorem rationed_rest {α : Type} (request : PoolRequest α) (block : BeaconBlock) :
    (request.rest storage block).Rationed p k := by
  have stake (registry : Registry) (number : UInt64) :=
    rationed_totalEffectiveRplStake hp registry number
  have snapshot : (Request.snapshotAt storage block).Rationed p k :=
    rationed_loaded hp storage hlookup block fun (_, number) registry =>
      ((rationed_assembleAll hp registry number).both (stake registry number)).bind fun _ =>
        (rationed_ask hp rfl 0).bind fun _ => trivial
  cases request with
  | headState => exact snapshot
  | stateForSlot slot => exact snapshot
  | headStateForNode address =>
      exact rationed_loaded hp storage hlookup block fun (_, number) registry =>
        ((rationed_assembleOne hp registry number address).both (stake registry number)).bind
          fun _ => trivial
  | queuePosition minipool =>
      exact rationed_loaded hp storage hlookup block fun (_, number) registry =>
        rationed_atBlock hp registry number (Queue.permitless_positionOf minipool)
  | minipoolAtQueuePosition position =>
      exact rationed_loaded hp storage hlookup block fun (_, number) registry =>
        rationed_atBlock hp registry number (Queue.permitless_minipoolAt position)
  | queueStatus =>
      exact rationed_loaded hp storage hlookup block fun (_, number) registry =>
        rationed_status hp registry number

/-- A request asks no batch without a permit but one lookup. -/
theorem rationed_task {α : Type} (request : PoolRequest α) :
    (request.task settings storage).Rationed p k := by
  obtain ⟨name, htask⟩ := request.task_eq settings storage
  rw [htask]
  exact (rationed_beaconBlock hp settings request).bind (rationed_rest hp storage hlookup request)

end Requests

end Rationed

/-! ## Requests that overlap -/

namespace PoolRequest

/-- The task is a request about the pool, with any settings. -/
def IsTask {α : Type} (t : Task Query α) : Prop :=
  ∃ (request : PoolRequest α) (settings : Settings) (storage : Address),
    t = request.task settings storage

/-- However requests overlap, fail, and are given up, no more batches of their fetches are in flight
than there are permits. With the lookups of contract addresses, which take no permit, there may be
one more for each request under way. -/
theorem batchesInFlight_le {permits : Nat} {s : System Query}
    (h : System.Reachable IsTask permits s) :
    s.inFlight Query.isFetchBatch ≤ permits ∧
      s.inFlight Query.isBatch ≤ permits + s.underWay := by
  constructor
  · have rationed : s.Rationed Query.isFetchBatch 0 permits := by
      refine h.rationed fun t ht => ?_
      obtain ⟨request, settings, storage, rfl⟩ := ht
      refine rationed_task (fun q hq => ?_) settings storage (fun block hp => ?_) request
      · rw [Query.isFetchBatch, hq, Bool.false_and]
      · have lookup : (Query.execution (.batchCall (ContractName.all.map (Registry.lookup storage))
            block)).isLookup = true := decide_eq_true rfl
        rw [Query.isFetchBatch, lookup, Bool.not_true, Bool.and_false] at hp
        cases hp
    simpa only [Nat.zero_mul, Nat.add_zero] using rationed.inFlight_le
  · have rationed : s.Rationed Query.isBatch 1 permits := by
      refine h.rationed fun t ht => ?_
      obtain ⟨request, settings, storage, rfl⟩ := ht
      exact rationed_task (fun q hq => hq) settings storage (fun _ _ => Nat.one_pos) request
    simpa only [Nat.one_mul] using rationed.inFlight_le

/-! ### Lookups at once -/

/-- Chains that answer at once, but take their time for batches. All numbers that the contracts
return are 2. -/
def slowBatches : Service Query (Surroundings Unit Unit) :=
  .ofChains
    { accept := fun q s => (s, if q.isBatch then 1000 else 0)
      answer := fun q s => (ExecutionQuery.sample (fun _ => 2) q, s)
      permit := fun _ => .ok () }
    (.fixed BeaconQuery.sample)

/-- A machine without permits, at time zero. -/
def noPermits : Machine (Surroundings Unit Unit) := ⟨⟨(), (), .new false⟩, 0, .ofCount 0⟩

/-- A request has been started where no permit is free. -/
def begun : Running Query QueueStatus × Machine (Surroundings Unit Unit) :=
  Task.start slowBatches (queueStatus.task .default .zero) noPermits

/-- It waits for the contract addresses, without a permit. -/
theorem inFlight_begun : begun.1.inFlight Query.isBatch = 1 := by decide +kernel

theorem available_begun : begun.2.available = 0 := by decide +kernel

/-- Requests that all wait for the contract addresses. -/
def lookups (requests free : Nat) : System Query := ⟨.replicate requests ⟨_, begun.1⟩, free⟩

theorem inFlight_lookups (requests free : Nat) :
    (lookups requests free).inFlight Query.isBatch = requests := by
  simp only [System.inFlight, lookups, List.map_replicate, inFlight_begun, List.sum_replicate_nat,
    Nat.mul_one]

/-- Whatever the number of permits, any number of requests may wait for their lookups at once, and
leave all permits to others. -/
theorem reachable_lookups (permits requests : Nat) :
    System.Reachable IsTask permits (lookups requests permits) := by
  induction requests with
  | zero => exact .refl
  | succ requests ih =>
      obtain ⟨x, hx, hsteps⟩ := Task.start_steps slowBatches (queueStatus.task .default .zero)
        noPermits
      have hsteps : Running.Steps (x, 0) (begun.1, begun.2.available) := hsteps
      rw [available_begun] at hsteps
      have steps := hsteps.spare permits
      rw [Nat.zero_add] at steps
      have started : System.Reachable IsTask permits
          ⟨[] ++ ⟨_, x⟩ :: (lookups requests permits).tasks, permits⟩ :=
        ih.tail (.begin _ _ ⟨queueStatus, .default, .zero, rfl⟩ hx)
      exact started.steps steps

theorem two_batches_on_one_permit :
    System.Reachable IsTask 1 (lookups 2 1) ∧ 1 < (lookups 2 1).inFlight Query.isBatch := by
  refine ⟨reachable_lookups 1 2, ?_⟩
  rw [inFlight_lookups]
  exact Nat.one_lt_two

/-- Two lookups leave the only permit to a batch of a fetch. -/
theorem batchesInFlight_lookups :
    System.Reachable IsTask 1 (lookups 2 1) ∧
      (lookups 2 1).inFlight Query.isFetchBatch ≤ 1 ∧
      (lookups 2 1).inFlight Query.isBatch ≤ 1 + (lookups 2 1).underWay :=
  ⟨reachable_lookups 1 2, batchesInFlight_le (reachable_lookups 1 2)⟩

end PoolRequest

end StakeSnapshot
