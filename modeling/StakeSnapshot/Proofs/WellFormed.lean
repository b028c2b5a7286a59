import StakeSnapshot.Proofs.Fetch.Listing
import StakeSnapshot.Proofs.SingleBlock
import StakeSnapshot.Proofs.SingleNode

/-!
# Well formed snapshots

A snapshot that is returned has some properties whatever the chains answer, even if single calls and
batches contradict each other: it is of one beacon block and the execution block which that block
carries, it has the nodes and minipools that the registry of contracts lists there, one for each
index below the counts, and each of its nodes is well formed (`Request.snapshot_wellFormed`).
-/

namespace StakeSnapshot

open StakeSnapshot.Task

/-- The registry is made of the chain's answer to the lookups of all contracts at a block. -/
def Registry.LoadedFrom (answers : {α : Type} → ExecutionQuery α → Outcome α) (storage : Address)
    (block : UInt64) (registry : Registry) : Prop :=
  ∃ replies, answers (.batchCall (ContractName.all.map (lookup storage)) block) = .ok replies ∧
    ofReplies storage block replies = .ok registry

namespace Snapshot

/-- The snapshot is of a block that the beacon chain has, and of the execution block in it. -/
def OfBeaconBlock (beacon : {α : Type} → BeaconQuery α → Outcome α) (s : Snapshot) : Prop :=
  ∃ slot block, beacon (.block slot) = .ok (some block) ∧ s.slot = block.slot ∧
    block.executionBlock = some s.executionBlock

/-- What holds of every full snapshot that is returned. -/
structure WellFormed (answers : {α : Type} → ExecutionQuery α → Outcome α)
    (beacon : {α : Type} → BeaconQuery α → Outcome α) (storage : Address) (s : Snapshot) :
    Prop where
  block : s.OfBeaconBlock beacon
  listed : ∃ registry, Registry.LoadedFrom answers storage s.executionBlock registry ∧
    Fetch.Enumerates answers Contract.NodeManager.getNodeCount Contract.NodeManager.getNodeAt
      registry.nodeManager s.executionBlock (s.nodes.map Node.address) ∧
    Fetch.Enumerates answers Contract.MinipoolManager.getMinipoolCount
      Contract.MinipoolManager.getMinipoolAt registry.minipoolManager s.executionBlock
      (s.minipools.map Minipool.address)
  nodes : ∀ n ∈ s.nodes, n.WellFormed

end Snapshot

section Ends

variable {a : Answers} {closed : Bool}

theorem found_of_mayEnd_findBlock {start : UInt64} {count : Nat} {block : BeaconBlock}
    (h : MayEnd (a.replies closed) (Clock.findBlock start count) (.ok (some block))) :
    ∃ slot, a.beacon (.block slot) = .ok (some block) := by
  induction count generalizing start with
  | zero => cases h
  | succ count ih =>
      obtain ⟨found, hfound, h⟩ := (mayEnd_bind_ok _ _ _).mp h
      cases found with
      | none => exact ih h
      | some found =>
          cases h
          exact ⟨start, (Answers.mayEnd_beacon _ _).mp hfound⟩

theorem found_of_mayEnd_latestProposedBlock {start lookback : UInt64} {block : BeaconBlock}
    (h : MayEnd (a.replies closed) (Clock.latestProposedBlock start lookback) (.ok block)) :
    ∃ slot, a.beacon (.block slot) = .ok (some block) := by
  obtain ⟨found, hfound, h⟩ := (mayEnd_bind_ok _ _ _).mp h
  cases found with
  | none => cases h
  | some found =>
      cases h
      exact found_of_mayEnd_findBlock hfound

theorem found_of_mayEnd_headBlock {settings : Settings} {block : BeaconBlock}
    (h : MayEnd (a.replies closed) (Request.headBlock settings) (.ok block)) :
    ∃ slot, a.beacon (.block slot) = .ok (some block) := by
  obtain ⟨config, -, h⟩ := (mayEnd_bind_ok _ _ _).mp h
  obtain ⟨slot, -, h⟩ := (mayEnd_bind_ok _ _ _).mp h
  exact found_of_mayEnd_latestProposedBlock h

theorem loadedFrom_of_mayEnd {storage : Address} {block : UInt64} {registry : Registry}
    (h : MayEnd (a.replies closed) (Registry.load storage block) (.ok registry)) :
    Registry.LoadedFrom a.execution storage block registry := by
  obtain ⟨replies, hreplies, h⟩ := (mayEnd_bind_ok _ _ _).mp h
  have hasked := (Answers.mayEnd_execution _ _).mp ((mayEnd_context_ok _ _ _).mp hreplies)
  exact ⟨replies, hasked, (mayEnd_ofExcept_ok _ _).mp h⟩

theorem wellFormed_of_mayEnd_snapshotAt {storage : Address} {block : BeaconBlock} {full : Snapshot}
    (hblock : ∃ slot, a.beacon (.block slot) = .ok (some block))
    (h : MayEnd (a.replies closed) (Request.snapshotAt storage block) (.ok full)) :
    full.WellFormed a.execution a.beacon storage := by
  obtain ⟨hslot, hnumber, registry, hregistry, hassemble, -⟩ := mayEnd_snapshotAt_ok h
  obtain ⟨fetched, hfetched, hminipools, hsettled⟩ := (mayEnd_assembleAll_ok _ _ _ _).mp hassemble
  obtain ⟨hnodes, hkept⟩ := Fetch.mayEnd_allNodes hfetched
  obtain ⟨slot, hfound⟩ := hblock
  rw [← settleNodes_address hsettled] at hnodes
  exact {
    block := ⟨slot, block, hfound, hslot, PoolRequest.executionBlock_of_mayEnd hnumber⟩
    listed := ⟨registry, loadedFrom_of_mayEnd hregistry, hnodes,
      Fetch.mayEnd_allMinipools hminipools⟩
    nodes := settleNodes_wellFormed hkept hsettled }

theorem wellFormed_of_mayEnd_nodeStateAt {storage address : Address} {block : BeaconBlock}
    {single : Snapshot} (hblock : ∃ slot, a.beacon (.block slot) = .ok (some block))
    (h : MayEnd (a.replies closed) (Request.nodeStateAt storage address block) (.ok single)) :
    single.OfBeaconBlock a.beacon ∧
      ∃ n, single.nodes = [n] ∧ n.address = address ∧ n.WellFormed := by
  obtain ⟨slot, hfound⟩ := hblock
  obtain ⟨⟨config, number⟩, hnumber, h⟩ := (mayEnd_bind_ok _ _ _).mp h
  obtain ⟨registry, -, h⟩ := (mayEnd_bind_ok _ _ _).mp h
  obtain ⟨⟨⟨n, minipools⟩, stake⟩, ⟨hassemble, -⟩, h⟩ := (mayEnd_bind_ok _ _ _).mp h
  cases h
  obtain ⟨fetched, hfetched, -, hsettled⟩ := (mayEnd_assembleOne_ok _ _ _ _ _).mp hassemble
  obtain ⟨haddress, hstake, hfee⟩ := Fetch.mayEnd_node hfetched
  refine ⟨⟨slot, block, hfound, rfl, PoolRequest.executionBlock_of_mayEnd hnumber⟩, n, rfl, ?_, ?_⟩
  · rw [Node.settled_address hsettled, haddress]
  · exact Node.settled_wellFormed hstake hfee hsettled

end Ends

section Requests

variable {ε β : Type} {client : Service ExecutionQuery ε} {beacon : Service BeaconQuery β}
  {answers : {α : Type} → ExecutionQuery α → Outcome α}
  {beaconAnswers : {α : Type} → BeaconQuery α → Outcome α} {I : ε → Prop} {J : β → Prop}

/-- A request that ends in a value has not been given up for its time. -/
theorem Answers.mayEnd_of_timed {a : Answers}
    (hclient : client.Steady a.execution (fun _ => True) I)
    (hbeacon : beacon.Steady a.beacon (fun _ => True) J) {s s' : Surroundings ε β}
    (hs : a.LearnIn I J s.session.closed s) {settings : Settings} {name : String} {α : Type}
    {t : Task Query α} (ht : a.Learns s.session.closed t) {v : α}
    (hlast : (Request.timed settings name t).EndsIn (.ofChains client beacon) s (.ok v, s')) :
    MayEnd (a.replies s.session.closed) t (.ok v) := by
  have learning : (Service.ofChains client beacon).Matches (.ofChains client beacon)
      (a.replies s.session.closed) a.Remembers _ :=
    matches_learning hclient hbeacon (fun _ h => h) s.session.closed
  have hend := (learning.mayEnd ((asks_within _ _ _).mpr ht.asks) hs hlast).1
  exact hend.resolve_right fun h => by cases h

/-- Whatever the chains answer to each question, the snapshots that are returned are well formed. -/
theorem Request.snapshot_wellFormed (hclient : client.Steady answers (fun _ => True) I)
    (hbeacon : beacon.Steady beaconAnswers (fun _ => True) J) (settings : Settings)
    (storage : Address) {s : Surroundings ε β} (hexecution : I s.execution)
    (hbeaconState : J s.beacon) :
    let service := Service.ofChains client beacon
    (∀ full s', (headState settings storage).EndsIn service s (.ok full, s') →
      full.WellFormed answers beaconAnswers storage) ∧
    (∀ slot full s', (stateForSlot settings storage slot).EndsIn service s (.ok full, s') →
      full.WellFormed answers beaconAnswers storage) ∧
    ∀ address single s',
      (headStateForNode settings storage address).EndsIn service s (.ok single, s') →
      single.OfBeaconBlock beaconAnswers ∧
        ∃ n, single.nodes = [n] ∧ n.address = address ∧ n.WellFormed := by
  intro service
  let a : Answers := ⟨answers, beaconAnswers, s.session.config⟩
  have start : a.LearnIn I J s.session.closed s := ⟨hexecution, hbeaconState, .inl rfl, rfl⟩
  refine ⟨fun full s' hlast => ?_, fun slot full s' hlast => ?_, fun address single s' hlast => ?_⟩
  · have learns : a.Learns s.session.closed (headBlock settings >>= snapshotAt storage) :=
      (Answers.learns_headBlock settings).bind (Answers.learns_snapshotAt storage)
    have hend := Answers.mayEnd_of_timed hclient hbeacon start learns hlast
    obtain ⟨block, hblock, hend⟩ := (mayEnd_bind_ok _ _ _).mp hend
    exact wellFormed_of_mayEnd_snapshotAt (found_of_mayEnd_headBlock hblock) hend
  · have learns : a.Learns s.session.closed
        (Clock.latestProposedBlock slot settings.maxSlotLookback >>= snapshotAt storage) :=
      (Answers.learns_of_asks (asks_latestProposedBlock (fun _ => trivial) slot _)).bind
        (Answers.learns_snapshotAt storage)
    have hend := Answers.mayEnd_of_timed hclient hbeacon start learns hlast
    obtain ⟨block, hblock, hend⟩ := (mayEnd_bind_ok _ _ _).mp hend
    exact wellFormed_of_mayEnd_snapshotAt (found_of_mayEnd_latestProposedBlock hblock) hend
  · have learns : a.Learns s.session.closed (headBlock settings >>= nodeStateAt storage address) :=
      (Answers.learns_headBlock settings).bind (Answers.learns_nodeStateAt storage address)
    have hend := Answers.mayEnd_of_timed hclient hbeacon start learns hlast
    obtain ⟨block, hblock, hend⟩ := (mayEnd_bind_ok _ _ _).mp hend
    exact wellFormed_of_mayEnd_nodeStateAt (found_of_mayEnd_headBlock hblock) hend

/-- The full snapshot of the small pool is well formed, and has its two nodes. -/
theorem Request.smallPool_wellFormed :
    ∃ full s', (headState .default (.ofNat 1)).run
        (.ofChains (.fixed SmallPool.answers) (.fixed BeaconQuery.sample))
        ⟨(), (), .new false⟩ = (.ok full, s') ∧
      full.nodes.map Node.address = [.ofNat 100, .ofNat 101] ∧
      full.WellFormed SmallPool.answers BeaconQuery.sample (.ofNat 1) := by
  obtain ⟨full, s', hfull, -, hnodes, -, -⟩ := SmallPool.headState_ok
  have wellFormed := (snapshot_wellFormed (Service.fixed_steady SmallPool.answers fun _ => True)
    (Service.fixed_steady BeaconQuery.sample fun _ => True) .default (.ofNat 1)
    (s := ⟨(), (), .new false⟩) trivial trivial).1
  exact ⟨full, s', hfull, hnodes, wellFormed full s' (.inl hfull.symm)⟩

end Requests

end StakeSnapshot
