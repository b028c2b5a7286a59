import StakeSnapshot.Contract.Interface
import StakeSnapshot.Error

/-!
# Where the contracts are

The storage contract keeps the addresses of the other contracts, each under the digest of its name.
A registry holds the addresses found at one block, so that all reads of a snapshot agree on them.
-/

namespace StakeSnapshot

/-- The contracts whose addresses are kept in storage. -/
inductive ContractName where
  | nodeManager
  | nodeDistributorFactory
  | nodeStaking
  | nodeDeposit
  | minipoolManager
  | minipoolQueue
  | addressQueueStorage
  | tokenReth
  | tokenRpl
  | tokenRplFixedSupply
deriving DecidableEq

namespace ContractName

def all : List ContractName :=
  [.nodeManager, .nodeDistributorFactory, .nodeStaking, .nodeDeposit, .minipoolManager,
    .minipoolQueue, .addressQueueStorage, .tokenReth, .tokenRpl, .tokenRplFixedSupply]

theorem mem_all (name : ContractName) : name ∈ all := by
  cases name <;> decide

/-- The name in storage. -/
def text : ContractName → String
  | .nodeManager => "rocketNodeManager"
  | .nodeDistributorFactory => "rocketNodeDistributorFactory"
  | .nodeStaking => "rocketNodeStaking"
  | .nodeDeposit => "rocketNodeDeposit"
  | .minipoolManager => "rocketMinipoolManager"
  | .minipoolQueue => "rocketMinipoolQueue"
  | .addressQueueStorage => "addressQueueStorage"
  | .tokenReth => "rocketTokenRETH"
  | .tokenRpl => "rocketTokenRPL"
  | .tokenRplFixedSupply => "rocketTokenRPLFixedSupply"

/-- The key under which storage keeps the contract's address. -/
def storageKey (name : ContractName) : Word :=
  Word.ofBytes (keccak256 (Bytes.ofString ("contract.address" ++ name.text)))

end ContractName

structure Registry where
  storage : Address
  nodeManager : Address
  nodeDistributorFactory : Address
  nodeStaking : Address
  nodeDeposit : Address
  minipoolManager : Address
  minipoolQueue : Address
  addressQueueStorage : Address
  tokenReth : Address
  tokenRpl : Address
  tokenRplFixedSupply : Address
deriving DecidableEq

namespace Registry

/-- The registry of a storage contract of which no address has been read. -/
def blank (storage : Address) : Registry :=
  ⟨storage, .zero, .zero, .zero, .zero, .zero, .zero, .zero, .zero, .zero, .zero⟩

/-- The address of a contract. -/
def get (r : Registry) : ContractName → Address
  | .nodeManager => r.nodeManager
  | .nodeDistributorFactory => r.nodeDistributorFactory
  | .nodeStaking => r.nodeStaking
  | .nodeDeposit => r.nodeDeposit
  | .minipoolManager => r.minipoolManager
  | .minipoolQueue => r.minipoolQueue
  | .addressQueueStorage => r.addressQueueStorage
  | .tokenReth => r.tokenReth
  | .tokenRpl => r.tokenRpl
  | .tokenRplFixedSupply => r.tokenRplFixedSupply

/-- The registry with another address for one contract. -/
def set (r : Registry) (name : ContractName) (a : Address) : Registry :=
  match name with
  | .nodeManager => { r with nodeManager := a }
  | .nodeDistributorFactory => { r with nodeDistributorFactory := a }
  | .nodeStaking => { r with nodeStaking := a }
  | .nodeDeposit => { r with nodeDeposit := a }
  | .minipoolManager => { r with minipoolManager := a }
  | .minipoolQueue => { r with minipoolQueue := a }
  | .addressQueueStorage => { r with addressQueueStorage := a }
  | .tokenReth => { r with tokenReth := a }
  | .tokenRpl => { r with tokenRpl := a }
  | .tokenRplFixedSupply => { r with tokenRplFixedSupply := a }

instance : RecordForm Registry where
  blank := blank .zero
  fields :=
    [.required "storage" storage fun v r => { r with storage := v },
      .required "node_manager" nodeManager fun v r => r.set .nodeManager v,
      .required "node_distributor_factory" nodeDistributorFactory
        fun v r => r.set .nodeDistributorFactory v,
      .required "node_staking" nodeStaking fun v r => r.set .nodeStaking v,
      .required "node_deposit" nodeDeposit fun v r => r.set .nodeDeposit v,
      .required "minipool_manager" minipoolManager fun v r => r.set .minipoolManager v,
      .required "minipool_queue" minipoolQueue fun v r => r.set .minipoolQueue v,
      .required "address_queue_storage" addressQueueStorage
        fun v r => r.set .addressQueueStorage v,
      .required "token_reth" tokenReth fun v r => r.set .tokenReth v,
      .required "token_rpl" tokenRpl fun v r => r.set .tokenRpl v,
      .required "token_rpl_fixed_supply" tokenRplFixedSupply
        fun v r => r.set .tokenRplFixedSupply v]

theorem get_set_self (r : Registry) (name : ContractName) (a : Address) :
    (r.set name a).get name = a := by
  cases name <;> rfl

theorem get_set_of_ne (r : Registry) {name other : ContractName} (a : Address)
    (h : other ≠ name) : (r.set name a).get other = r.get other := by
  cases name <;> cases other <;> first | rfl | exact absurd rfl h

theorem storage_set (r : Registry) (name : ContractName) (a : Address) :
    (r.set name a).storage = r.storage := by
  cases name <;> rfl

/-- The call that asks storage for the address of a contract. -/
def lookup (storage : Address) (name : ContractName) : ContractCall :=
  Contract.Storage.getAddress.call storage (name.storageKey, ())

/-- The address in a reply, which must not be zero. -/
def readAddress (block : UInt64) (name : ContractName) (data : Bytes) : Except Error Address :=
  match Contract.Storage.getAddress.decodeResult data with
  | .error e => .error e.toError
  | .ok a =>
    if a = .zero then
      fail .decodeMismatch s!"contract {name.text} is not registered at block {block}"
    else .ok a

/-- Enters the addresses of the named contracts from the replies, in order. -/
def enter (block : UInt64) : Registry → List (ContractName × Bytes) → Except Error Registry
  | r, [] => .ok r
  | r, (name, data) :: rest =>
    match readAddress block name data with
    | .ok a => enter block (r.set name a) rest
    | .error e => .error e

/-- The registry made of the replies to the lookups of all contracts. -/
def ofReplies (storage : Address) (block : UInt64) (replies : List Bytes) :
    Except Error Registry :=
  if replies.length = ContractName.all.length then
    enter block (blank storage) (ContractName.all.zip replies)
  else
    fail .decodeMismatch
      s!"expected {ContractName.all.length} contract addresses, got {replies.length}"

end Registry

end StakeSnapshot
