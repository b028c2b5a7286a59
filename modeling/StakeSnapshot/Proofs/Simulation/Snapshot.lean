import StakeSnapshot.Proofs.Simulation.Head
import StakeSnapshot.Proofs.Simulation.Orderly

/-!
# The snapshot of a deployment

A full snapshot of a deployment with an orderly history has the records that were added, in the
order in which they were added, each node with its current balances, the number of its minipools and
the fields derived from them; if the balance of one node cannot be split, there is no snapshot
(`Request.headState_of_history`).
-/

namespace StakeSnapshot

open StakeSnapshot.Task Simulation

/-- Two parts at once, of which one has a single outcome and the other a single value. -/
theorem Task.mayEnd_both_of_eq {Q : Type → Type} {replies : Replies Q} {α β : Type} {t : Task Q α}
    {u : Task Q β} {r : Outcome α} {b : β} (ht : ∀ o, MayEnd replies t o → o = r)
    (hu : ∀ o, MayEnd replies u o → o = .ok b) {o : Outcome (α × β)}
    (ho : MayEnd replies (.both t u) o) : o = r.map (·, b) := by
  cases o with
  | ok v =>
      obtain ⟨a, b'⟩ := v
      obtain ⟨ha, hb⟩ := ho
      rw [← ht _ ha]
      cases hu _ hb
      rfl
  | error e =>
      rcases ho with he | he
      · rw [← ht _ he]
        rfl
      · cases hu _ he

namespace Simulation.Ledger

variable (l : Ledger)

/-- The records of all nodes that were added, in order, if the balance of each can be split. -/
def records : Except Error (List Node) := l.nodes.mapM l.record

theorem settleNodes_unsplit (hnodup : (l.nodes.map Node.address).Nodup) :
    settleNodes (l.nodes.map l.unsplit) l.minipools = l.records := by
  have haddress : (l.nodes.map l.unsplit).map Node.address = l.nodes.map Node.address := by
    rw [List.map_map]
    rfl
  rw [settleNodes_eq l.minipools (haddress ▸ hnodup), List.mapM_map, records]
  exact congrArg l.nodes.mapM (funext fun n => (l.unsplit n).settled_eq (l.minipoolsOf n.address))

theorem kind_of_record {n : Node} {e : Error} (h : l.record n = .error e) :
    e.kind = .decodeMismatch :=
  Node.kind_of_settled (((l.unsplit n).settled_eq (l.minipoolsOf n.address)).trans h)

/-- The outcome of a full snapshot at a block, as the ledger has it. -/
def snapshot (number slot : UInt64) (config : BeaconConfig) : Outcome Snapshot :=
  (Outcome.ofExcept l.records).map fun nodes =>
    ⟨number, slot, config, l.totalStake, nodes, l.minipools⟩

theorem snapshot_of_forall₂ {nodes : List Node}
    (h : List.Forall₂ (fun n r => l.record n = .ok r) l.nodes nodes) (number slot : UInt64)
    (config : BeaconConfig) :
    l.snapshot number slot config =
      .ok ⟨number, slot, config, l.totalStake, nodes, l.minipools⟩ := by
  rw [snapshot, records, (mapM_eq_ok _ _ _).mpr h]
  rfl

theorem snapshot_of_error {n : Node} (hn : n ∈ l.nodes) {e : Error} (h : l.record n = .error e)
    (number slot : UInt64) (config : BeaconConfig) :
    ∃ e, l.snapshot number slot config = .error (.error e) ∧ e.kind = .decodeMismatch := by
  cases hrecords : l.records with
  | ok nodes =>
      obtain ⟨r, -, hr⟩ := Fetch.forall₂_mem_right ((mapM_eq_ok _ _ _).mp hrecords).flip hn
      cases h.symm.trans hr
  | error e' =>
      obtain ⟨n', -, he'⟩ := mapM_eq_error hrecords
      refine ⟨e', ?_, l.kind_of_record he'⟩
      rw [snapshot, hrecords]
      rfl

end Simulation.Ledger

/-- The part of a full snapshot that comes after the registry has been loaded. -/
def Request.snapshotFrom (registry : Registry) (slot : UInt64) (config : BeaconConfig)
    (number : UInt64) : Task Query Snapshot := do
  let ((nodes, minipools), stake) ←
    .both (assembleAll registry number) (totalEffectiveRplStake registry number)
  let snapshot : Snapshot := ⟨number, slot, config, stake, nodes, minipools⟩
  Task.ask (.session (.recordSnapshot snapshot))
  pure snapshot

namespace Answers.Serve

variable {a : Answers} {storage : Address} {steps : List Step}
  (h : a.Serve storage (Ledger.after steps)) (block : UInt64)

include h

theorem ends_assembleAll (horderly : Orderly steps) (hmemory : (Ledger.after steps).InMemory)
    {o : Outcome (List Node × List Minipool)}
    (ho : MayEnd (.fixed a.query) (Request.assembleAll (deployed storage) block) o) :
    o = (Outcome.ofExcept (Ledger.after steps).records).map
      (·, (Ledger.after steps).minipools) := by
  have both : (Task.both (Fetch.allNodes (deployed storage) block)
      (Fetch.allMinipools (deployed storage) block)).Strict :=
    ⟨Fetch.strict_allNodes _ block, Fetch.strict_allMinipools _ block⟩
  have hend := both.mayEnd_bind (a := (_, _)) ⟨h.mayEnd_allNodes block horderly hmemory,
    h.mayEnd_allMinipools block horderly hmemory⟩ ho
  obtain ⟨r, hr, hend⟩ := hend
  change r = Outcome.ofExcept (settleNodes _ _) at hr
  rw [Ledger.settleNodes_unsplit _ horderly.nodes] at hr
  subst hr
  generalize (Ledger.after steps).records = records at hend ⊢
  cases records <;> exact hend

theorem ends_snapshot (horderly : Orderly steps) (hmemory : (Ledger.after steps).InMemory)
    (slot : UInt64) (config : BeaconConfig) {o : Outcome Snapshot}
    (ho : MayEnd (.fixed a.query) (Request.snapshotFrom (deployed storage) slot config block) o) :
    o = (Ledger.after steps).snapshot block slot config := by
  have stake : MayEnd (.fixed a.query) (Request.totalEffectiveRplStake (deployed storage) block)
      (.ok (Ledger.after steps).totalStake) :=
    (mayEnd_read_ok _ _ _ _ _).mpr (h.returns block .totalStake rfl rfl rfl)
  obtain ⟨r, hr, ho⟩ := ho
  have hboth := mayEnd_both_of_eq (fun _ => h.ends_assembleAll block horderly hmemory)
    (fun _ => (strict_read _ _ _ _).eq_ok stake) hr
  subst hboth
  rw [Ledger.snapshot]
  generalize (Ledger.after steps).records = records at ho ⊢
  cases records with
  | error e => exact ho
  | ok nodes =>
      obtain ⟨r, hr, ho⟩ := ho
      cases hr
      exact ho

end Answers.Serve

/-- At a head block with an execution block, a full snapshot of a deployment with an orderly history
is that of the ledger: all that was added, in order, with the fields of the nodes that the ledger
derives, if the balance of each node can be split, and otherwise an error. -/
theorem Request.headState_of_history {β : Type} {beacon : Service BeaconQuery β}
    {beaconAnswers : {α : Type} → BeaconQuery α → Outcome α} {J : β → Prop} (settings : Settings)
    (storage : Address) {steps : List Step} (horderly : Orderly steps)
    (hmemory : (Ledger.after steps).InMemory) {s : Surroundings ExecutionChain β}
    (hhosted : (Protocol.after storage steps).HostedIn beacon beaconAnswers J s)
    {block : BeaconBlock} {number : UInt64}
    (hhead : ((headBlock settings).run (.ofChains ExecutionChain.service beacon) s).1 = .ok block)
    (hnumber : block.executionBlock = some number) :
    let l := Ledger.after steps
    let comesTo := ComesTo (.ofChains ExecutionChain.service beacon) s (late settings "head state")
      (headState settings storage)
    (∀ nodes, List.Forall₂ (fun n r => l.record n = .ok r) l.nodes nodes →
      ∃ config, comesTo
        (· = .ok ⟨number, block.slot, config, l.totalStake, nodes, l.minipools⟩)) ∧
    ∀ n ∈ l.nodes, ∀ e, l.record n = .error e →
      comesTo fun o => ∃ e, o = .error (.error e) ∧ e.kind = .decodeMismatch := by
  intro l comesTo
  have hshows := Protocol.shows_after storage steps hmemory.fits
  have hserve := hshows.serve beaconAnswers
    ((Protocol.after storage steps).answersIn beaconAnswers s).learned.known
  obtain ⟨config, atHead⟩ := hhosted.comesTo_atHead hshows hhead hnumber
  have snapshot : comesTo (· = l.snapshot number block.slot config) := by
    refine atHead "head state" (fun block found registry =>
      snapshotFrom registry block.slot found.1 found.2) (fun block found registry => ?_)
      fun o ho => ?_
    · have reading := reading_leavesConfig found.2
      refine Task.Asks.bind ⟨reading.asks_assembleAll registry,
        reading.asks_totalEffectiveRplStake registry⟩ fun _ => ?_
      exact Task.Asks.bind (Q := Query) trivial fun _ => trivial
    · exact hserve.ends_snapshot number horderly hmemory block.slot config ho
  refine ⟨fun nodes hnodes => ⟨config, ?_⟩, fun n hn e he => ?_⟩
  · rwa [l.snapshot_of_forall₂ hnodes] at snapshot
  · obtain ⟨e, hsnapshot, hkind⟩ := l.snapshot_of_error hn he number block.slot config
    rw [hsnapshot] at snapshot
    exact snapshot.imp fun o ho => ⟨e, ho, hkind⟩

/-! ## A node and its minipool -/

namespace Simulation

/-- A node without enough stake, whose ratio of all capital to its own is to be chosen. -/
def sampleNode (ratio : Amount) : Node :=
  { Node.new (.ofNat 100) with
    registered := true
    timezoneLocation := "Etc/UTC"
    feeDistributorAddress := .ofNat 300
    effectiveRplStake := 3
    minimumRplStake := 5
    collateralisationRatio := ratio }

/-- A minipool of the node, with a fee of a tenth. -/
def sampleMinipool : Minipool :=
  ⟨.ofNat 200, .ofNat 100, .staking, false, 10 ^ 17, .half⟩

/-- A node with a minipool: the node holds 8 wei, and its distributor 1000. -/
def sampleSteps (ratio : Amount) : List Step :=
  [.setLatest ⟨7, 84⟩, .addNode (sampleNode ratio), .setBalance (.ofNat 300) 1000,
    .addMinipool sampleMinipool, .setBalance (.ofNat 100) 8]

theorem sampleSteps_orderly (ratio : Amount) : Orderly (sampleSteps ratio) where
  nodes := List.nodup_singleton _
  minipools := List.nodup_singleton _
  owners before m later h := by
    rcases before with _ | ⟨_, _ | ⟨_, _ | ⟨_, _ | ⟨_, _ | ⟨_, before⟩⟩⟩⟩⟩ <;>
      simp [sampleSteps] at h
    obtain ⟨rfl, rfl, rfl, rfl, -⟩ := h
    exact List.mem_singleton_self _

theorem sampleSteps_inMemory (ratio : Amount) : (Ledger.after (sampleSteps ratio)).InMemory where
  nodes := (by decide : 8 * 1 ≤ Memory.limit)
  minipools := (by decide : 8 * 1 ≤ Memory.limit)
  waiting _ := Nat.zero_le _
  texts n hn := by
    cases List.mem_singleton.mp hn
    exact (by decide +kernel : (Bytes.ofString "Etc/UTC").length ≤ Memory.limit)

/-- The record that a snapshot has of the node, with a ratio of two. -/
def sampleRecord : Node :=
  { sampleNode (2 * Amount.one) with
    minipoolCount := 1
    balanceEth := 8
    distributorBalance := 1000
    effectiveRplStake := 0
    averageNodeFee := 10 ^ 17
    distributorBalanceUserEth := 450
    distributorBalanceNodeEth := 550 }

end Simulation

/-- With a ratio of two the node is read with its stake corrected and its balance split; with a
ratio of nothing, its balance cannot be split. -/
theorem Request.headState_of_sampleSteps :
    let service := Service.ofChains ExecutionChain.service BeaconChain.service
    let p := fun ratio => Protocol.after (.ofNat 1) (sampleSteps ratio)
    (∃ config, ((headState .default (.ofNat 1)).run service (p (2 * Amount.one)).sampleWorld).1 =
      .ok ⟨7, 7, config, 0, [sampleRecord], [sampleMinipool]⟩) ∧
    ∃ e, ((headState .default (.ofNat 1)).run service (p 0).sampleWorld).1 = .error (.error e) ∧
      e.kind = .decodeMismatch := by
  intro service p
  have history : ∀ ratio, _ := fun ratio =>
    headState_of_history .default (.ofNat 1) (sampleSteps_orderly ratio)
      (sampleSteps_inMemory ratio) (p ratio).sampleWorld_hosts
      (Protocol.headBlock_sampleWorld (Protocol.shows_after (.ofNat 1) (sampleSteps ratio)
        (sampleSteps_inMemory ratio).fits).latest) rfl
  constructor
  · have hrecord : (Ledger.after (sampleSteps (2 * Amount.one))).record
        (sampleNode (2 * Amount.one)) = .ok sampleRecord := by rfl
    obtain ⟨config, hcomes⟩ := (history (2 * Amount.one)).1 [sampleRecord] (.cons hrecord .nil)
    exact ⟨config, hcomes.run⟩
  · have hrecord : ∃ e, (Ledger.after (sampleSteps 0)).record (sampleNode 0) = .error e := ⟨_, rfl⟩
    obtain ⟨e, he⟩ := hrecord
    exact ((history 0).2 _ (List.mem_singleton_self _) e he).run

end StakeSnapshot
