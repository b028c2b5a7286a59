import StakeSnapshot.Contract.Registry
import StakeSnapshot.Queue.Partition
import StakeSnapshot.Simulation.Chain

/-!
# A deployment in memory

The contracts of the pool on an execution chain in memory, with the steps that fill them: nodes,
minipools, queue entries, total stake and capacity. Each step sets the replies that it changes, so
that the chain always answers as the contracts would.
-/

namespace StakeSnapshot.Simulation

open Contract

structure Protocol where
  chain : ExecutionChain
  registry : Registry
  nodes : List Address
  minipools : List Address
  /-- How many minipools each node has. -/
  nodeMinipools : Std.HashMap Address UInt64
  halfQueue : List Address
  fullQueue : List Address
  emptyQueue : List Address

namespace Protocol

/-- The address of the contract at some place in `ContractName.all`. -/
def contractAddress (i : Nat) : Address := .ofNat (16 + i)

/-- The minipools that wait in a partition. -/
def queue (p : Protocol) : Partition → List Address
  | .half => p.halfQueue
  | .full => p.fullQueue
  | .empty => p.emptyQueue

/-- Puts a minipool at the end of a partition. -/
def push (p : Protocol) (partition : Partition) (minipool : Address) : Protocol :=
  match partition with
  | .half => { p with halfQueue := p.halfQueue ++ [minipool] }
  | .full => { p with fullQueue := p.fullQueue ++ [minipool] }
  | .empty => { p with emptyQueue := p.emptyQueue ++ [minipool] }

/-- How many minipools wait. -/
def totalLength (p : Protocol) : Nat :=
  p.halfQueue.length + p.fullQueue.length + p.emptyQueue.length

/-- Sets the value that a function of a contract returns for some arguments. -/
def set {inputs : List Abi.Ty} {output : Abi.Ty} (p : Protocol) (m : Abi.Method inputs output)
    (target : Address) (args : Abi.Values inputs) (value : output.Value) : Protocol :=
  { p with chain := p.chain.setResult m target args value }

def amountOfNat (n : Nat) : Amount := BitVec.ofNat 256 n

/-- The index of a minipool in a partition, as the storage contract returns it. -/
def storedIndex (queue : List Address) (minipool : Address) : Word :=
  match queue.idxOf? minipool with
  | some i => BitVec.ofNat 256 i
  | none => BitVec.allOnes 256

/-- Sets the index of a minipool in a partition. -/
def setIndex (p : Protocol) (partition : Partition) (minipool : Address) : Protocol :=
  p.set AddressQueueStorage.getIndexOf p.registry.addressQueueStorage
    (partition.storageKey, minipool, ()) (storedIndex (p.queue partition) minipool)

/-- Sets the items of a partition from some place on. -/
def setItems (partition : Partition) : Protocol → Nat → List Address → Protocol
  | p, _, [] => p
  | p, i, minipool :: rest =>
    setItems partition
      (p.set AddressQueueStorage.getItem p.registry.addressQueueStorage
        (partition.storageKey, amountOfNat i, ()) minipool)
      (i + 1) rest

/-- Sets all that the contracts say about a partition. -/
def setQueue (p : Protocol) (partition : Partition) : Protocol :=
  let p := p.set MinipoolQueue.getLength p.registry.minipoolQueue
    (partition.depositType.number, ()) (amountOfNat (p.queue partition).length)
  let p := p.set MinipoolQueue.getTotalLength p.registry.minipoolQueue ()
    (amountOfNat p.totalLength)
  let p := setItems partition p 0 (p.queue partition)
  p.minipools.foldl (fun p minipool => p.setIndex partition minipool) p

/-- Sets the numbers of nodes and of minipools. -/
def setCounts (p : Protocol) : Protocol :=
  let p := p.set NodeManager.getNodeCount p.registry.nodeManager () (amountOfNat p.nodes.length)
  p.set MinipoolManager.getMinipoolCount p.registry.minipoolManager ()
    (amountOfNat p.minipools.length)

def setTotalEffectiveRplStake (p : Protocol) (stake : Amount) : Protocol :=
  p.set NodeStaking.getTotalEffectiveRplStake p.registry.nodeStaking () stake

def setCapacity (p : Protocol) (capacity : QueueCapacity) : Protocol :=
  let queue := p.registry.minipoolQueue
  let p := p.set MinipoolQueue.getTotalCapacity queue () capacity.total
  let p := p.set MinipoolQueue.getEffectiveCapacity queue () capacity.effective
  p.set MinipoolQueue.getNextCapacity queue () capacity.nextMinipool

/-- Registers a contract with storage. -/
def register (p : Protocol) (name : ContractName) (a : Address) : Protocol :=
  { p.set Storage.getAddress p.registry.storage (name.storageKey, ()) a with
    registry := p.registry.set name a }

/-- An empty deployment whose storage contract is at the given address. -/
def new (storage : Address) : Protocol :=
  let p : Protocol := ⟨.empty, .blank storage, [], [], ∅, [], [], []⟩
  let p := ContractName.all.zipIdx.foldl (fun p (name, i) => p.register name (contractAddress i)) p
  let p := p.setCounts
  let p := p.setTotalEffectiveRplStake 0
  let p := p.setCapacity ⟨0, 0, 0⟩
  Partition.drainOrder.foldl setQueue p

/-- Sets the value of a function of a node's address. -/
def setForNode {output : Abi.Ty} (node : Address) (m : Abi.Method [.address] output)
    (target : Registry → Address) (value : output.Value) (p : Protocol) : Protocol :=
  p.set m (target p.registry) (node, ()) value

/-- Adds a node with all that the contracts say about it. It starts without minipools; its ether
balances and its derived fields are not used. -/
def addNode (p : Protocol) (n : Node) : Protocol :=
  let index := p.nodes.length
  let p := { p with
    nodes := p.nodes ++ [n.address]
    nodeMinipools := p.nodeMinipools.insert n.address 0 }
  let p := p.set NodeManager.getNodeAt p.registry.nodeManager (amountOfNat index, ()) n.address
  let steps : List (Protocol → Protocol) :=
    [setForNode n.address NodeManager.getNodeExists (·.nodeManager) n.registered,
      setForNode n.address NodeManager.getNodeRegistrationTime (·.nodeManager) n.registrationTime,
      setForNode n.address NodeManager.getNodeTimezoneLocation (·.nodeManager)
        n.timezoneLocation,
      setForNode n.address NodeManager.getFeeDistributorInitialised (·.nodeManager)
        n.feeDistributorInitialised,
      setForNode n.address NodeDistributorFactory.getProxyAddress (·.nodeDistributorFactory)
        n.feeDistributorAddress,
      setForNode n.address NodeManager.getRewardNetwork (·.nodeManager) n.rewardNetwork,
      setForNode n.address NodeStaking.getNodeRplStake (·.nodeStaking) n.rplStake,
      setForNode n.address NodeStaking.getNodeEffectiveRplStake (·.nodeStaking)
        n.effectiveRplStake,
      setForNode n.address NodeStaking.getNodeMinimumRplStake (·.nodeStaking) n.minimumRplStake,
      setForNode n.address NodeStaking.getNodeMaximumRplStake (·.nodeStaking) n.maximumRplStake,
      setForNode n.address NodeStaking.getNodeEthMatched (·.nodeStaking) n.ethMatched,
      setForNode n.address NodeStaking.getNodeEthMatchedLimit (·.nodeStaking) n.ethMatchedLimit,
      setForNode n.address MinipoolManager.getNodeMinipoolCount (·.minipoolManager) 0,
      setForNode n.address Token.balanceOf (·.tokenReth) n.balanceReth,
      setForNode n.address Token.balanceOf (·.tokenRpl) n.balanceRpl,
      setForNode n.address Token.balanceOf (·.tokenRplFixedSupply) n.balanceOldRpl,
      setForNode n.address Storage.getNodeWithdrawalAddress (·.storage) n.withdrawalAddress,
      setForNode n.address Storage.getNodePendingWithdrawalAddress (·.storage)
        n.pendingWithdrawalAddress,
      setForNode n.address NodeManager.getSmoothingPoolRegistrationState (·.nodeManager)
        n.smoothingPoolRegistrationState,
      setForNode n.address NodeManager.getSmoothingPoolRegistrationChanged (·.nodeManager)
        n.smoothingPoolRegistrationChanged,
      setForNode n.address NodeDeposit.getNodeDepositCredit (·.nodeDeposit)
        n.depositCreditBalance,
      setForNode n.address NodeStaking.getNodeEthCollateralisationRatio (·.nodeStaking)
        n.collateralisationRatio]
  (steps.foldl (fun p step => step p) p).setCounts

/-- Adds a minipool, at the end of the list of its node. -/
def addMinipool (p : Protocol) (m : Minipool) : Protocol :=
  let index := p.minipools.length
  let place := p.nodeMinipools.getD m.nodeAddress 0
  let p := { p with
    minipools := p.minipools ++ [m.address]
    nodeMinipools := p.nodeMinipools.insert m.nodeAddress (place + 1) }
  let manager := p.registry.minipoolManager
  let p := p.set MinipoolManager.getMinipoolAt manager (amountOfNat index, ()) m.address
  let p := p.set MinipoolManager.getNodeMinipoolAt manager
    (m.nodeAddress, Amount.ofCount place, ()) m.address
  let p := p.set MinipoolManager.getNodeMinipoolCount manager (m.nodeAddress, ())
    (Amount.ofCount (place + 1))
  let p := p.set MinipoolDelegate.getNodeAddress m.address () m.nodeAddress
  let p := p.set MinipoolDelegate.getStatus m.address () m.status.number
  let p := p.set MinipoolDelegate.getFinalised m.address () m.finalised
  let p := p.set MinipoolDelegate.getNodeFee m.address () m.nodeFee
  let p := p.set MinipoolDelegate.getDepositType m.address () m.depositType.number
  let p := Partition.drainOrder.foldl (fun p partition => p.setIndex partition m.address) p
  p.setCounts

/-- Puts a minipool at the end of a partition of the queue. -/
def enqueue (p : Protocol) (partition : Partition) (minipool : Address) : Protocol :=
  (p.push partition minipool).setQueue partition

end Protocol

end StakeSnapshot.Simulation
