import StakeSnapshot.Proofs.Simulation.Slots

/-!
# What each step writes

Every step that fills a deployment moves some lists and writes some replies. The writes of a step
are given here as a list (`addNode_eq`, `addMinipool_eq`, `setQueue_eq`, `new_eq`), so that what a
step does to a reply can be looked up there.
-/

namespace StakeSnapshot.Simulation

open Contract

/-- Where the contract with a name is deployed. -/
def contractOf (name : ContractName) : Address :=
  Protocol.contractAddress (ContractName.all.idxOf name)

/-- The registry of the contracts of a deployment. -/
def deployed (storage : Address) : Registry :=
  ContractName.all.zipIdx.foldl (fun r (name, i) => r.set name (Protocol.contractAddress i))
    (.blank storage)

theorem deployed_tokensDiffer (storage : Address) : Slot.TokensDiffer (deployed storage) := by
  have hsame : ∀ g ∈ SlotKind.tokens, g.target (deployed storage) = g.target (deployed .zero) := by
    intro g hg
    simp only [SlotKind.tokens, List.mem_cons, List.not_mem_nil, or_false] at hg
    rcases hg with rfl | rfl | rfl <;> rfl
  have hdiffer : Slot.TokensDiffer (deployed .zero) := by
    unfold Slot.TokensDiffer
    decide
  intro g hg g' hg' h
  rw [hsame g hg, hsame g' hg'] at h
  exact hdiffer g hg g' hg' h

namespace Protocol

variable (p : Protocol)

/-! ## What each step writes -/

/-- The deployment with another node in its list. -/
def listNode (a : Address) : Protocol :=
  { p with nodes := p.nodes ++ [a], nodeMinipools := p.nodeMinipools.insert a 0 }

/-- How many minipools of a node there are. -/
def place (a : Address) : UInt64 := p.nodeMinipools.getD a 0

/-- The deployment with another minipool in its list. -/
def listMinipool (m : Minipool) : Protocol :=
  { p with
    minipools := p.minipools ++ [m.address]
    nodeMinipools := p.nodeMinipools.insert m.nodeAddress (p.place m.nodeAddress + 1) }

def countWrites : List (Slot × Bytes) :=
  [(.nodeCount, NodeManager.getNodeCount.encodeResult (amountOfNat p.nodes.length)),
    (.minipoolCount,
      MinipoolManager.getMinipoolCount.encodeResult (amountOfNat p.minipools.length))]

def capacityWrites (capacity : QueueCapacity) : List (Slot × Bytes) :=
  [(.totalCapacity, MinipoolQueue.getTotalCapacity.encodeResult capacity.total),
    (.effectiveCapacity, MinipoolQueue.getEffectiveCapacity.encodeResult capacity.effective),
    (.nextCapacity, MinipoolQueue.getNextCapacity.encodeResult capacity.nextMinipool)]

def nodeWrites (index : Nat) (n : Node) : List (Slot × Bytes) :=
  (.nodeAt (amountOfNat index), NodeManager.getNodeAt.encodeResult n.address) ::
    NodeGetter.all.map fun g => (.node g n.address, g.reply { n with minipoolCount := 0 })

def minipoolWrites (index : Nat) (place : UInt64) (m : Minipool) : List (Slot × Bytes) :=
  (.minipoolAt (amountOfNat index), MinipoolManager.getMinipoolAt.encodeResult m.address) ::
  (.nodeMinipoolAt m.nodeAddress (Amount.ofCount place),
    MinipoolManager.getNodeMinipoolAt.encodeResult m.address) ::
  (.node .minipoolCount m.nodeAddress,
    MinipoolManager.getNodeMinipoolCount.encodeResult (Amount.ofCount (place + 1))) ::
  MinipoolGetter.all.map fun g => (.minipool g m.address, g.reply m)

def indexWrite (partition : Partition) (minipool : Address) : Slot × Bytes :=
  (.indexOf partition minipool,
    AddressQueueStorage.getIndexOf.encodeResult (storedIndex (p.queue partition) minipool))

def itemWrites (partition : Partition) (start : Nat) (items : List Address) :
    List (Slot × Bytes) :=
  (items.zipIdx start).map fun (minipool, i) =>
    (.item partition (amountOfNat i), AddressQueueStorage.getItem.encodeResult minipool)

def queueWrites (partition : Partition) : List (Slot × Bytes) :=
  [(.length partition,
      MinipoolQueue.getLength.encodeResult (amountOfNat (p.queue partition).length)),
    (.totalLength, MinipoolQueue.getTotalLength.encodeResult (amountOfNat p.totalLength))] ++
  itemWrites partition 0 (p.queue partition) ++ p.minipools.map (p.indexWrite partition)

variable {p}

theorem set_eq_put {inputs : List Abi.Ty} {output : Abi.Ty} (m : Abi.Method inputs output)
    (target : Address) (args : Abi.Values inputs) (value : output.Value) :
    p.set m target args value = p.put (m.call target args) (m.encodeResult value) :=
  rfl

theorem setCapacity_eq (capacity : QueueCapacity) :
    p.setCapacity capacity = p.writeAll (capacityWrites capacity) := by
  simp only [setCapacity, set_eq_put]
  rfl

theorem setTotalStake_eq (stake : Amount) :
    p.setTotalEffectiveRplStake stake =
      p.writeAll [(.totalStake, NodeStaking.getTotalEffectiveRplStake.encodeResult stake)] := by
  rw [setTotalEffectiveRplStake, set_eq_put]
  rfl

theorem setCounts_eq : p.setCounts = p.writeAll p.countWrites := by
  simp only [setCounts, set_eq_put]
  rfl

theorem setIndex_eq (partition : Partition) (minipool : Address) :
    p.setIndex partition minipool = p.write (p.indexWrite partition minipool) := by
  simp only [setIndex, set_eq_put]
  rfl

theorem setForNode_eq (node : Address) (g : NodeGetter) (n : Node) :
    setForNode node g.method g.target (g.get n) p = p.write (.node g node, g.reply n) := by
  simp only [setForNode, set_eq_put]
  rfl

theorem countWrites_writeAll (ws : List (Slot × Bytes)) :
    (p.writeAll ws).countWrites = p.countWrites := by
  rw [countWrites, writeAll_eq]
  rfl

theorem indexWrite_writeAll (ws : List (Slot × Bytes)) :
    (p.writeAll ws).indexWrite = p.indexWrite := by
  funext partition minipool
  rw [indexWrite, writeAll_eq]
  cases partition <;> rfl

theorem foldl_setIndex_eq {γ : Type} (key : γ → Partition × Address) (keys : List γ) :
    keys.foldl (fun p k => p.setIndex (key k).1 (key k).2) p =
      p.writeAll (keys.map fun k => p.indexWrite (key k).1 (key k).2) := by
  induction keys generalizing p with
  | nil => rfl
  | cons k keys ih =>
      rw [List.foldl_cons, setIndex_eq, ih]
      rfl

theorem addMinipool_eq (m : Minipool) :
    p.addMinipool m =
      (p.listMinipool m).writeAll (minipoolWrites p.minipools.length (p.place m.nodeAddress) m ++
        Partition.drainOrder.map ((p.listMinipool m).indexWrite · m.address) ++
        (p.listMinipool m).countWrites) := by
  have hfields : ∀ {q moved : Protocol} {ws : List (Slot × Bytes)}, q = moved.writeAll ws →
      (Partition.drainOrder.foldl (fun p partition => p.setIndex partition m.address) q).setCounts =
        moved.writeAll (ws ++ Partition.drainOrder.map (moved.indexWrite · m.address) ++
          moved.countWrites) := by
    intro q moved ws hq
    rw [foldl_setIndex_eq (fun partition => (partition, m.address)), setCounts_eq,
      countWrites_writeAll, hq, countWrites_writeAll, indexWrite_writeAll, writeAll_append,
      writeAll_append]
  refine hfields ?_
  simp only [set_eq_put]
  rfl

theorem addNode_eq (n : Node) :
    p.addNode n =
      (p.listNode n.address).writeAll
        (nodeWrites p.nodes.length n ++ (p.listNode n.address).countWrites) := by
  change (List.foldl (fun q step => step q)
    ((p.listNode n.address).writeAll
      [(.nodeAt (amountOfNat p.nodes.length), NodeManager.getNodeAt.encodeResult n.address)])
    (NodeGetter.all.map fun g =>
      setForNode n.address g.method g.target (g.get { n with minipoolCount := 0 }))).setCounts = _
  rw [List.foldl_map]
  simp only [setForNode_eq]
  have hwrites : ∀ q : Protocol, NodeGetter.all.foldl (fun q g =>
      q.write (.node g n.address, g.reply { n with minipoolCount := 0 })) q =
      q.writeAll (NodeGetter.all.map fun g =>
        (.node g n.address, g.reply { n with minipoolCount := 0 })) :=
    fun q => List.foldl_map.symm
  rw [hwrites, ← writeAll_append, setCounts_eq, countWrites_writeAll, ← writeAll_append]
  rfl

theorem setItems_eq (partition : Partition) (items : List Address) (start : Nat) :
    setItems partition p start items = p.writeAll (itemWrites partition start items) := by
  induction items generalizing p start with
  | nil => rfl
  | cons minipool items ih =>
      rw [setItems, ih, set_eq_put]
      rfl

theorem queue_writeAll (ws : List (Slot × Bytes)) : (p.writeAll ws).queue = p.queue := by
  funext partition
  rw [writeAll_eq]
  cases partition <;> rfl

theorem minipools_writeAll (ws : List (Slot × Bytes)) :
    (p.writeAll ws).minipools = p.minipools := by
  rw [writeAll_eq]

theorem setQueue_eq (partition : Partition) :
    p.setQueue partition = p.writeAll (p.queueWrites partition) := by
  have hlists : ∀ {q : Protocol} {ws : List (Slot × Bytes)}, q = p.writeAll ws →
      (setItems partition q 0 (q.queue partition)).minipools.foldl
          (fun q minipool => q.setIndex partition minipool)
          (setItems partition q 0 (q.queue partition)) =
        p.writeAll (ws ++ itemWrites partition 0 (p.queue partition) ++
          p.minipools.map (p.indexWrite partition)) := by
    intro q ws hq
    rw [setItems_eq, foldl_setIndex_eq (fun minipool => (partition, minipool)), hq, queue_writeAll,
      ← writeAll_append]
    simp only [minipools_writeAll, indexWrite_writeAll, ← writeAll_append, List.append_assoc]
  refine hlists ?_
  simp only [set_eq_put]
  rfl

theorem queueWrites_writeAll (ws : List (Slot × Bytes)) :
    (p.writeAll ws).queueWrites = p.queueWrites := by
  funext partition
  have htotal : (p.writeAll ws).totalLength = p.totalLength := by
    rw [totalLength, writeAll_eq]
    rfl
  rw [queueWrites, queueWrites, queue_writeAll, htotal, minipools_writeAll, indexWrite_writeAll]

theorem foldl_setQueue_eq (partitions : List Partition) :
    partitions.foldl setQueue p = p.writeAll (partitions.flatMap p.queueWrites) := by
  induction partitions generalizing p with
  | nil => rfl
  | cons partition partitions ih =>
      rw [List.foldl_cons, setQueue_eq, ih, queueWrites_writeAll, ← writeAll_append,
        List.flatMap_cons]

theorem enqueue_eq (partition : Partition) (minipool : Address) :
    p.enqueue partition minipool =
      (p.push partition minipool).writeAll ((p.push partition minipool).queueWrites partition) :=
  setQueue_eq partition

def contractWrite (name : ContractName) (a : Address) : Slot × Bytes :=
  (.contract name, Storage.getAddress.encodeResult a)

/-- Contracts are registered with a storage contract that stays where it is. -/
theorem foldl_register_eq {γ : Type} (key : γ → ContractName × Address) (keys : List γ) :
    keys.foldl (fun p k => p.register (key k).1 (key k).2) p =
      ({ p with registry := keys.foldl (fun r k => r.set (key k).1 (key k).2) p.registry } :
        Protocol).writeAll (keys.map fun k => contractWrite (key k).1 (key k).2) := by
  induction keys generalizing p with
  | nil => rfl
  | cons k keys ih =>
      have hstorage : ∀ (keys : List γ) (r : Registry),
          (keys.foldl (fun r k => r.set (key k).1 (key k).2) r).storage = r.storage := by
        intro keys
        induction keys with
        | nil => exact fun _ => rfl
        | cons k keys ih =>
            intro r
            rw [List.foldl_cons, ih, Registry.storage_set]
      have hmove : ∀ {r : Registry} (name : ContractName) (a : Address),
          r.storage = p.registry.storage →
          ({ p with registry := r } : Protocol).write (contractWrite name a) =
            { p.write (contractWrite name a) with registry := r } := by
        intro r name a hr
        have hcall : (Slot.contract name).call r = (Slot.contract name).call p.registry := by
          rw [Slot.call, Slot.call, hr]
        simp only [write, put, contractWrite, hcall]
      rw [List.foldl_cons, ih, List.map_cons, writeAll, writeAll, List.foldl_cons, hmove]
      · rfl
      · rw [List.foldl_cons, hstorage, Registry.storage_set]

/-- A deployment in which nothing has been written. -/
def unwritten (storage : Address) : Protocol :=
  ⟨.empty, deployed storage, [], [], ∅, [], [], []⟩

def firstWrites (storage : Address) : List (Slot × Bytes) :=
  ContractName.all.zipIdx.map (fun (name, i) => contractWrite name (contractAddress i)) ++
  (unwritten storage).countWrites ++
  [(.totalStake, NodeStaking.getTotalEffectiveRplStake.encodeResult 0)] ++
  capacityWrites ⟨0, 0, 0⟩ ++
  Partition.drainOrder.flatMap (unwritten storage).queueWrites

theorem new_eq (storage : Address) :
    new storage = (unwritten storage).writeAll (firstWrites storage) := by
  have hregistered := foldl_register_eq (p := ⟨.empty, .blank storage, [], [], ∅, [], [], []⟩)
    (fun (k : ContractName × Nat) => (k.1, contractAddress k.2)) ContractName.all.zipIdx
  change _ = (unwritten storage).writeAll _ at hregistered
  rw [new]
  rw [hregistered, foldl_setQueue_eq, setCapacity_eq, setTotalStake_eq, setCounts_eq,
    queueWrites_writeAll, queueWrites_writeAll, queueWrites_writeAll, queueWrites_writeAll,
    countWrites_writeAll, ← writeAll_append, ← writeAll_append, ← writeAll_append,
    ← writeAll_append]
  rfl

end Protocol

end StakeSnapshot.Simulation
