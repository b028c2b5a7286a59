import StakeSnapshot.Proofs.Answers
import StakeSnapshot.Proofs.Task.Noting
import StakeSnapshot.Proofs.Task.Sequence

/-!
# A request looks at one block

A request about the pool finds a beacon block, one question after the other, and reads everything
else at the execution block which that beacon block carries. So two execution clients that agree on
this block, and on which block is the latest, cannot be told apart by the request, in order or in
time, however much they differ at other blocks.
-/

namespace StakeSnapshot

/-- The question looks at no execution block but `b`. -/
def Query.At (b : UInt64) {α : Type} (q : Query α) : Prop := ∀ n, q.block? = some n → n = b

section At

variable {α : Type} {b : UInt64}

theorem Query.at_beacon {q : BeaconQuery α} : (Query.beacon q).At b := fun _ h => by cases h

theorem Query.at_session {q : SessionQuery α} : (Query.session q).At b := fun _ h => by cases h

theorem Query.at_latestBlock : (Query.execution .latestBlock).At b := fun _ h => by cases h

theorem Reading.at_block (b : UInt64) : Reading (Query.At b) b where
  execution _ hq _ hn := Option.some.inj (hn.symm.trans hq)
  countBatch := Query.at_session

end At

/-- The requests that look at the state of the pool. -/
inductive PoolRequest : Type → Type where
  | headState : PoolRequest Snapshot
  | headStateForNode (address : Address) : PoolRequest Snapshot
  | stateForSlot (slot : UInt64) : PoolRequest Snapshot
  | queuePosition (minipool : Address) : PoolRequest UInt64
  | minipoolAtQueuePosition (position : UInt64) : PoolRequest Address
  | queueStatus : PoolRequest QueueStatus

namespace PoolRequest

variable {α : Type}

def task (settings : Settings) (storage : Address) {α : Type} : PoolRequest α → Task Query α
  | .headState => Request.headState settings storage
  | .headStateForNode address => Request.headStateForNode settings storage address
  | .stateForSlot slot => Request.stateForSlot settings storage slot
  | .queuePosition minipool => Request.queuePosition settings storage minipool
  | .minipoolAtQueuePosition position => Request.minipoolAtQueuePosition settings storage position
  | .queueStatus => Request.queueStatus settings storage

/-- The part of a request that finds its beacon block. -/
def beaconBlock (settings : Settings) {α : Type} : PoolRequest α → Task Query BeaconBlock
  | .stateForSlot slot => Clock.latestProposedBlock slot settings.maxSlotLookback
  | _ => Request.headBlock settings

/-- The part of a request that comes after its beacon block has been found. -/
def rest (storage : Address) {α : Type} : PoolRequest α → BeaconBlock → Task Query α
  | .headState, block => Request.snapshotAt storage block
  | .stateForSlot _, block => Request.snapshotAt storage block
  | .headStateForNode address, block => Request.nodeStateAt storage address block
  | .queuePosition minipool, block => do
      let (_, number) ← Request.executionBlock block
      let registry ← Registry.load storage number
      Queue.atBlock registry number (Queue.positionOf minipool)
  | .minipoolAtQueuePosition position, block => do
      let (_, number) ← Request.executionBlock block
      let registry ← Registry.load storage number
      Queue.atBlock registry number (Queue.minipoolAt position)
  | .queueStatus, block => do
      let (_, number) ← Request.executionBlock block
      let registry ← Registry.load storage number
      Queue.status registry number

theorem task_eq (settings : Settings) (storage : Address) (request : PoolRequest α) :
    ∃ name, request.task settings storage =
      Request.timed settings name (request.beaconBlock settings >>= request.rest storage) := by
  cases request <;> exact ⟨_, rfl⟩

/-! ## What the two parts of a request ask -/

section Parts

variable {replies : Replies Query} {b : UInt64}

theorem sequential_findBlock (count : Nat) :
    ∀ start : UInt64, (Clock.findBlock start count).Sequential := by
  induction count with
  | zero => intro _; trivial
  | succ count ih =>
      intro start
      refine Task.Sequential.bind trivial fun found => ?_
      cases found with
      | none => exact ih (start - 1)
      | some block => trivial

theorem sequential_latestProposedBlock (start lookback : UInt64) :
    (Clock.latestProposedBlock start lookback).Sequential := by
  refine (sequential_findBlock _ start).bind fun found => ?_
  cases found <;> trivial

theorem sequential_beaconConfig : Request.beaconConfig.Sequential := by
  refine Task.Sequential.bind trivial fun known => ?_
  cases known with
  | some config => trivial
  | none =>
      exact Task.Sequential.bind trivial fun _ => Task.Sequential.bind trivial fun _ => trivial

theorem sequential_beaconBlock (settings : Settings) (request : PoolRequest α) :
    (request.beaconBlock settings).Sequential := by
  have head : (Request.headBlock settings).Sequential := by
    refine sequential_beaconConfig.bind fun config => ?_
    have header : (Task.ask (Query.execution .latestBlock)).Sequential := trivial
    have slot : (Clock.headSlot config).Sequential := (header.context _).bind fun _ => trivial
    exact slot.bind fun slot => sequential_latestProposedBlock slot _
  cases request with
  | stateForSlot slot => exact sequential_latestProposedBlock slot _
  | _ => exact head

theorem asks_beaconConfig : Request.beaconConfig.Asks replies (Query.At b) := by
  refine Task.Asks.bind Query.at_session fun known => ?_
  cases known with
  | some config => trivial
  | none =>
      exact Task.Asks.bind Query.at_beacon fun _ => Task.Asks.bind Query.at_session fun _ => trivial

theorem asks_beaconBlock (settings : Settings) (request : PoolRequest α) :
    (request.beaconBlock settings).Asks replies (Query.At b) := by
  cases request with
  | stateForSlot slot => exact asks_latestProposedBlock (fun _ => Query.at_beacon) slot _
  | _ => exact asks_headBlock asks_beaconConfig Query.at_latestBlock (fun _ => Query.at_beacon) _

theorem executionBlock_of_mayEnd {block : BeaconBlock} {config : BeaconConfig} {n : UInt64}
    (h : Task.MayEnd replies (Request.executionBlock block) (.ok (config, n))) :
    block.executionBlock = some n := by
  obtain ⟨_, -, hend⟩ := (Task.mayEnd_bind_ok _ _ _).mp h
  cases hblock : block.executionBlock with
  | none =>
      rw [hblock] at hend
      cases hend
  | some number =>
      rw [hblock] at hend
      cases hend
      rfl

/-- What comes after the beacon block is read at the block which that beacon block carries. -/
theorem asks_executionBlock {block : BeaconBlock}
    (hblock : ∀ n, block.executionBlock = some n → n = b)
    {f : BeaconConfig × UInt64 → Task Query α}
    (hf : ∀ config, (f (config, b)).Asks replies (Query.At b)) :
    (Request.executionBlock block >>= f).Asks replies (Query.At b) := by
  refine (Task.asks_bind _ _).mpr ⟨?_, fun (config, n) hend => ?_⟩
  · refine Task.Asks.bind asks_beaconConfig fun config => ?_
    split <;> trivial
  · rw [hblock n (executionBlock_of_mayEnd hend)]
    exact hf config

theorem asks_rest (storage : Address) (request : PoolRequest α) {block : BeaconBlock}
    (hb : ∀ n, block.executionBlock = some n → n = b) :
    (request.rest storage block).Asks replies (Query.At b) := by
  have reading := Reading.at_block b
  have snapshot : (Request.snapshotAt storage block).Asks replies (Query.At b) :=
    asks_executionBlock hb fun config => Task.Asks.bind (reading.asks_load storage) fun registry =>
      Task.Asks.bind ⟨reading.asks_assembleAll registry,
        reading.asks_totalEffectiveRplStake registry⟩ fun _ =>
          Task.Asks.bind Query.at_session fun _ => trivial
  cases request with
  | headState => exact snapshot
  | stateForSlot slot => exact snapshot
  | headStateForNode address =>
      exact asks_executionBlock hb fun config =>
        Task.Asks.bind (reading.asks_load storage) fun registry =>
          Task.Asks.bind ⟨reading.asks_assembleOne registry address,
            reading.asks_totalEffectiveRplStake registry⟩ fun _ => trivial
  | queuePosition minipool | minipoolAtQueuePosition position =>
      exact asks_executionBlock hb fun config =>
        Task.Asks.bind (reading.asks_load storage) fun registry => reading.asks_atBlock registry _
  | queueStatus =>
      exact asks_executionBlock hb fun config =>
        Task.Asks.bind (reading.asks_load storage) fun registry => reading.asks_status registry

end Parts

/-! ## Services that agree at a block -/

/-- The request finds no beacon block that carries an execution block other than `b`. -/
def FindsOnly {σ : Type} (settings : Settings) (request : PoolRequest α)
    (service : Service Query σ) (s : σ) (b : UInt64) : Prop :=
  ∀ block n, (Task.run service (request.beaconBlock settings) s).1 = .ok block →
    block.executionBlock = some n → n = b

section Agreement

variable {σ τ : Type} {service : Service Query σ} {other : Service Query τ} {b : UInt64}
  {R : σ → τ → Prop} {s : σ} {s' : τ} {settings : Settings} {request : PoolRequest α}

theorem asks_rest_of_findsOnly (storage : Address)
    (hb : request.FindsOnly settings service s b) (block : BeaconBlock)
    (hfound : (Task.run service (request.beaconBlock settings) s).1 = .ok block) :
    (request.rest storage block).Asks .any (Query.At b) :=
  asks_rest storage request fun n hn => hb block n hfound hn

theorem run_agrees (h : service.Matches other .any (Query.At b) R) (hs : R s s')
    (hb : request.FindsOnly settings service s b) (storage : Address) :
    (Task.run service (request.task settings storage) s).1 =
        (Task.run other (request.task settings storage) s').1 ∧
      R (Task.run service (request.task settings storage) s).2
        (Task.run other (request.task settings storage) s').2 := by
  obtain ⟨name, htask⟩ := request.task_eq settings storage
  rw [htask]
  have alike := Task.run_bind_matches h (asks_beaconBlock settings request) hs
    (asks_rest_of_findsOnly storage hb)
  exact ⟨alike.outcome, alike.state⟩

theorem schedule_agrees (h : service.Matches other .any (Query.At b) R)
    (hpace : service.SamePace other (Query.At b) R) (hs : R s s')
    (hb : request.FindsOnly settings service s b) (storage : Address) (permits bound : Nat) :
    Task.EndAlike R (fun _ => True)
      (Task.schedule service permits bound (request.task settings storage) s)
      (Task.schedule other permits bound (request.task settings storage) s') := by
  obtain ⟨name, htask⟩ := request.task_eq settings storage
  rw [htask]
  refine Task.schedule_within_matches h hpace permits bound _ _
    (sequential_beaconBlock settings request) (asks_beaconBlock settings request) hs ?_
  cases hfound : (Task.run service (request.beaconBlock settings) s).1 with
  | ok block => exact asks_rest_of_findsOnly storage hb block hfound
  | error e => trivial

end Agreement

end PoolRequest

/-- Two execution clients, in states related by `R`, that agree on the latest block and on all that
they say about the block `b`. -/
structure Service.AgreeAt {ε ε' : Type} (client : Service ExecutionQuery ε)
    (other : Service ExecutionQuery ε') (b : UInt64) (R : ε → ε' → Prop) : Prop where
  accept {α : Type} (q : ExecutionQuery α) {s : ε} {s' : ε'} :
    (Query.execution q).At b → R s s' → R (client.accept q s).1 (other.accept q s').1
  outcome {α : Type} (q : ExecutionQuery α) {s : ε} {s' : ε'} :
    (Query.execution q).At b → R s s' → (client.answer q s).1 = (other.answer q s').1
  answer {α : Type} (q : ExecutionQuery α) {s : ε} {s' : ε'} :
    (Query.execution q).At b → R s s' → R (client.answer q s).2 (other.answer q s').2

/-- Surroundings with the same beacon chain and session, and related execution chains. -/
structure Surroundings.Alike {ε ε' β : Type} (R : ε → ε' → Prop) (s : Surroundings ε β)
    (s' : Surroundings ε' β) : Prop where
  execution : R s.execution s'.execution
  beacon : s.beacon = s'.beacon
  session : s.session = s'.session

section Chains

variable {ε ε' β : Type} {client : Service ExecutionQuery ε} {other : Service ExecutionQuery ε'}
  {b : UInt64} {R : ε → ε' → Prop}

theorem Service.AgreeAt.matches (h : client.AgreeAt other b R) (beacon : Service BeaconQuery β) :
    (Service.ofChains client beacon).Matches (.ofChains other beacon) .any (Query.At b)
      (Surroundings.Alike R) where
  accept q s s' hq hs := by
    cases q with
    | execution q => exact ⟨h.accept q hq hs.execution, hs.beacon, hs.session⟩
    | beacon q => exact ⟨hs.execution, by simp [ofChains, hs.beacon], hs.session⟩
    | session q => exact hs
  outcome q s s' hq hs := by
    cases q with
    | execution q => exact h.outcome q hq hs.execution
    | beacon q => simp [ofChains, hs.beacon]
    | session q => simp [ofChains, hs.session]
  answer q s s' hq hs := by
    cases q with
    | execution q => exact ⟨h.answer q hq hs.execution, hs.beacon, hs.session⟩
    | beacon q => exact ⟨hs.execution, by simp [ofChains, hs.beacon], hs.session⟩
    | session q => exact ⟨hs.execution, hs.beacon, by simp [ofChains, hs.session]⟩
  reply _ _ _ _ _ := trivial
  permit hs := by simp [ofChains, hs.session]
  grant _ _ := trivial
  refusal _ _ := trivial

/-- Clients that take equally long make surroundings that take equally long. -/
theorem Service.ofChains_samePace (beacon : Service BeaconQuery β)
    (hpace : client.SamePace other (fun q => (Query.execution q).At b) R) :
    (Service.ofChains client beacon).SamePace (.ofChains other beacon) (Query.At b)
      (Surroundings.Alike R) where
  delay q s s' hq hs := by
    cases q with
    | execution q => exact hpace.delay q hq hs.execution
    | beacon q => simp [ofChains, hs.beacon]
    | session q => rfl

/-- The outcome of a request depends on what the execution client says at one block only, the one
carried by the beacon block that the request finds, and the request asks at no other block. -/
theorem PoolRequest.single_block {α : Type} (request : PoolRequest α) (settings : Settings)
    (storage : Address) (beacon : Service BeaconQuery β) (hagree : client.AgreeAt other b R)
    {s : Surroundings ε β} {s' : Surroundings ε' β} (hs : s.Alike R s')
    (hb : request.FindsOnly settings (.ofChains client beacon) s b) :
    ((request.task settings storage).run (.ofChains client beacon) s).1 =
        ((request.task settings storage).run (.ofChains other beacon) s').1 ∧
      (client.SamePace other (fun q => (Query.execution q).At b) R → ∀ permits bound,
        ((request.task settings storage).schedule (.ofChains client beacon) permits bound s).map
            Prod.fst =
          ((request.task settings storage).schedule (.ofChains other beacon) permits bound s').map
            Prod.fst) ∧
      ∀ last, (request.task settings storage).EndsIn
          ((Service.ofChains client beacon).noting Query.block?) (s, []) last →
        ∀ n ∈ last.2.2, n = b := by
  have hmatches := hagree.matches beacon
  have noted := (Service.ofChains client beacon).noting_matches Query.block?
    (P := Query.At b) (p := (· = b)) fun q hq => hq
  have start : Service.Noted (· = b) s (s, []) := ⟨rfl, fun n hn => by cases hn⟩
  refine ⟨(run_agrees hmatches hs hb storage).1, fun hpace permits bound => ?_,
    fun last hlast => ?_⟩
  · have hpace := Service.ofChains_samePace beacon hpace
    exact (schedule_agrees hmatches hpace hs hb storage permits bound).outcome
  rcases hlast with rfl | ⟨permits, bound, hlast⟩
  · exact (run_agrees noted start hb storage).2.2
  · have hpace := (Service.ofChains client beacon).noting_samePace Query.block? (Query.At b) (· = b)
    have ended := schedule_agrees noted hpace start hb storage permits bound
    rw [hlast] at ended
    obtain ⟨-, _, state⟩ := ended.of_some
    exact state.2

end Chains

theorem Service.fixed_agreeAt {answers answers' : {α : Type} → ExecutionQuery α → Outcome α}
    {b : UInt64}
    (h : ∀ {α : Type} (q : ExecutionQuery α), (Query.execution q).At b → answers q = answers' q) :
    (Service.fixed answers).AgreeAt (.fixed answers') b fun _ _ => True where
  accept _ _ _ _ _ := trivial
  outcome q _ _ hq _ := h q hq
  answer _ _ _ _ _ := trivial

/-- What a chain says whose latest block is number 7, and on which everything at a block is the
number that the block has in `value`. -/
def ExecutionQuery.sample (value : UInt64 → Nat) : {α : Type} → ExecutionQuery α → Outcome α
  | _, .latestBlock => .ok ⟨7, 84⟩
  | _, .call _ block => .ok (Bytes.ofNat 32 (value block))
  | _, .batchCall calls block => .ok (calls.map fun _ => Bytes.ofNat 32 (value block))
  | _, .balance _ block => .ok (BitVec.ofNat _ (value block))
  | _, .bulkBalances accounts block => .ok (accounts.map fun _ => BitVec.ofNat _ (value block))

/-- The status of the queue at block 7, on two chains that agree on no other block. -/
theorem PoolRequest.queueStatus_of_block_seven :
    let first := Service.fixed (ExecutionQuery.sample fun _ => 1)
    let second := Service.fixed (ExecutionQuery.sample fun block => if block = 7 then 1 else 2)
    let beacon := Service.fixed BeaconQuery.sample
    let start : Surroundings Unit Unit := ⟨(), (), .new false⟩
    let request := Request.queueStatus .default .zero
    (request.run (.ofChains first beacon) start).1 =
        (request.run (.ofChains second beacon) start).1 ∧
      ∀ last, request.EndsIn ((Service.ofChains first beacon).noting Query.block?) (start, [])
          last →
        ∀ n ∈ last.2.2, n = 7 := by
  intro first second beacon start request
  have agree : first.AgreeAt second 7 fun _ _ => True := by
    refine Service.fixed_agreeAt fun q hq => ?_
    cases q with
    | latestBlock => rfl
    | call _ block | batchCall _ block | balance _ block | bulkBalances _ block =>
        obtain rfl := hq block rfl
        rfl
  have found : PoolRequest.queueStatus.FindsOnly .default (.ofChains first beacon) start 7 := by
    intro block n hfound hn
    have hseven : ((PoolRequest.queueStatus.beaconBlock .default).run (.ofChains first beacon)
        start).1 = .ok ⟨7, 0, some 7⟩ := rfl
    cases hseven.symm.trans hfound
    exact (Option.some.inj hn).symm
  have single := PoolRequest.queueStatus.single_block .default .zero beacon agree
    ⟨trivial, rfl, rfl⟩ found
  exact ⟨single.1, single.2.2⟩

end StakeSnapshot
