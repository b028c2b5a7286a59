import StakeSnapshot.Fetch.Batch

/-!
# Fetching node records

`NodeField.table` has a row for each field of a node that a contract keeps; the two ether balances
are read apart. `Fetch.allNodes` reads the whole registry in batches, and `Fetch.node` a single
record with direct calls.
-/

namespace StakeSnapshot

namespace NodeField

open Contract

/-- A field that is the result of a function of the node's address. -/
def row {output : Abi.Ty} (m : Abi.Method [.address] output) (target : Registry → Address)
    (set : output.Value → Node → Node) : FieldSpec Address Node :=
  .ofMethod (m.name ++ "Call") m (fun registry _ => target registry) (fun node => (node, ())) set

def table : List (FieldSpec Address Node) :=
  [row NodeManager.getNodeExists (·.nodeManager) fun v n => { n with registered := v },
    row NodeManager.getNodeRegistrationTime (·.nodeManager)
      fun v n => { n with registrationTime := v },
    row NodeManager.getNodeTimezoneLocation (·.nodeManager)
      fun v n => { n with timezoneLocation := v },
    row NodeManager.getFeeDistributorInitialised (·.nodeManager)
      fun v n => { n with feeDistributorInitialised := v },
    row NodeDistributorFactory.getProxyAddress (·.nodeDistributorFactory)
      fun v n => { n with feeDistributorAddress := v },
    row NodeManager.getRewardNetwork (·.nodeManager) fun v n => { n with rewardNetwork := v },
    row NodeStaking.getNodeRplStake (·.nodeStaking) fun v n => { n with rplStake := v },
    row NodeStaking.getNodeEffectiveRplStake (·.nodeStaking)
      fun v n => { n with effectiveRplStake := v },
    row NodeStaking.getNodeMinimumRplStake (·.nodeStaking)
      fun v n => { n with minimumRplStake := v },
    row NodeStaking.getNodeMaximumRplStake (·.nodeStaking)
      fun v n => { n with maximumRplStake := v },
    row NodeStaking.getNodeEthMatched (·.nodeStaking) fun v n => { n with ethMatched := v },
    row NodeStaking.getNodeEthMatchedLimit (·.nodeStaking)
      fun v n => { n with ethMatchedLimit := v },
    row MinipoolManager.getNodeMinipoolCount (·.minipoolManager)
      fun v n => { n with minipoolCount := v },
    row Token.balanceOf (·.tokenReth) fun v n => { n with balanceReth := v },
    row Token.balanceOf (·.tokenRpl) fun v n => { n with balanceRpl := v },
    row Token.balanceOf (·.tokenRplFixedSupply) fun v n => { n with balanceOldRpl := v },
    row Storage.getNodeWithdrawalAddress (·.storage) fun v n => { n with withdrawalAddress := v },
    row Storage.getNodePendingWithdrawalAddress (·.storage)
      fun v n => { n with pendingWithdrawalAddress := v },
    row NodeManager.getSmoothingPoolRegistrationState (·.nodeManager)
      fun v n => { n with smoothingPoolRegistrationState := v },
    row NodeManager.getSmoothingPoolRegistrationChanged (·.nodeManager)
      fun v n => { n with smoothingPoolRegistrationChanged := v },
    row NodeDeposit.getNodeDepositCredit (·.nodeDeposit)
      fun v n => { n with depositCreditBalance := v },
    row NodeStaking.getNodeEthCollateralisationRatio (·.nodeStaking)
      fun v n => { n with collateralisationRatio := v }]

end NodeField

/-- A record with its ether balances, and its effective stake corrected. -/
def Node.withBalances (n : Node) (own distributor : Amount) : Node :=
  { n with balanceEth := own, distributorBalance := distributor }.fixEffectiveStake

namespace Fetch

/-- The indices below a count that was read from a contract, for keys of a number of bytes each. A
count beyond 64 bits is cut, and keys that memory cannot hold are a fault. -/
def indicesBelow (keySize : Nat) (count : Amount) : Except Fault (List UInt64) :=
  let n := count.saturate.toNat
  (Memory.reserve keySize n).map fun _ => (List.range n).map UInt64.ofNat

/-- An address in a registry, by its index. -/
def nodeAt : FieldSpec UInt64 Address :=
  .ofMethod "getNodeAt" Contract.NodeManager.getNodeAt (fun registry _ => registry.nodeManager)
    (fun index => (Amount.ofCount index, ())) fun a _ => a

/-- The addresses of all nodes, in the order of the registry. -/
def nodeAddresses (registry : Registry) (block : UInt64) : Task Query (List Address) := do
  let count ← read Contract.NodeManager.getNodeCount registry.nodeManager () block
  let indices ← Task.ofFaulty (indicesBelow 8 count)
  fetch (fun _ => Address.zero) [nodeAt] registry block addressBatch indices

/-- The records with their balances, which are in the order of the records. -/
def withBalances : List Node → List Amount → List Amount → List Node
  | n :: nodes, own :: owns, distributor :: distributors =>
    n.withBalances own distributor :: withBalances nodes owns distributors
  | _, _, _ => []

/-- The records of all nodes, in the order of the registry, without their derived fields. -/
def allNodes (registry : Registry) (block : UInt64) : Task Query (List Node) := do
  let addresses ← nodeAddresses registry block
  let nodes ← fetch Node.new NodeField.table registry block nodeBatch addresses
  let (own, distributor) ←
    .both (balances block addresses) (balances block (nodes.map (·.feeDistributorAddress)))
  pure (withBalances nodes own distributor)

/-- The balance of one account. -/
def balance (block : UInt64) (account : Address) : Task Query Amount :=
  .ask (.execution (.balance account block))

/-- The record of one node, without its derived fields. -/
def node (registry : Registry) (block : UInt64) (address : Address) : Task Query Node := do
  let n ← fetchDirect NodeField.table registry block address (Node.new address)
  let (own, distributor) ←
    .both (balance block address) (balance block n.feeDistributorAddress)
  pure (n.withBalances own distributor)

end Fetch

end StakeSnapshot
