import StakeSnapshot.Abi.Method

/-!
# The functions of the pool's contracts

All functions that snapshots read, by the contract that has them, and the two helper contracts that
answer many questions in one call.
-/

namespace StakeSnapshot.Contract

open Abi

namespace Storage

def getAddress : Method [.bytes32] .address := .named "getAddress"
def getNodeWithdrawalAddress : Method [.address] .address := .named "getNodeWithdrawalAddress"
def getNodePendingWithdrawalAddress : Method [.address] .address :=
  .named "getNodePendingWithdrawalAddress"

end Storage

namespace NodeManager

def getNodeCount : Method [] .uint256 := .named "getNodeCount"
def getNodeAt : Method [.uint256] .address := .named "getNodeAt"
def getNodeExists : Method [.address] .bool := .named "getNodeExists"
def getNodeRegistrationTime : Method [.address] .uint256 := .named "getNodeRegistrationTime"
def getNodeTimezoneLocation : Method [.address] .string := .named "getNodeTimezoneLocation"
def getFeeDistributorInitialised : Method [.address] .bool :=
  .named "getFeeDistributorInitialised"
def getRewardNetwork : Method [.address] .uint256 := .named "getRewardNetwork"
def getSmoothingPoolRegistrationState : Method [.address] .bool :=
  .named "getSmoothingPoolRegistrationState"
def getSmoothingPoolRegistrationChanged : Method [.address] .uint256 :=
  .named "getSmoothingPoolRegistrationChanged"

end NodeManager

namespace NodeDistributorFactory

def getProxyAddress : Method [.address] .address := .named "getProxyAddress"

end NodeDistributorFactory

namespace NodeStaking

def getTotalEffectiveRplStake : Method [] .uint256 := .named "getTotalEffectiveRPLStake"
def getNodeRplStake : Method [.address] .uint256 := .named "getNodeRPLStake"
def getNodeEffectiveRplStake : Method [.address] .uint256 := .named "getNodeEffectiveRPLStake"
def getNodeMinimumRplStake : Method [.address] .uint256 := .named "getNodeMinimumRPLStake"
def getNodeMaximumRplStake : Method [.address] .uint256 := .named "getNodeMaximumRPLStake"
def getNodeEthMatched : Method [.address] .uint256 := .named "getNodeETHMatched"
def getNodeEthMatchedLimit : Method [.address] .uint256 := .named "getNodeETHMatchedLimit"
def getNodeEthCollateralisationRatio : Method [.address] .uint256 :=
  .named "getNodeETHCollateralisationRatio"

end NodeStaking

namespace NodeDeposit

def getNodeDepositCredit : Method [.address] .uint256 := .named "getNodeDepositCredit"

end NodeDeposit

namespace MinipoolManager

def getMinipoolCount : Method [] .uint256 := .named "getMinipoolCount"
def getMinipoolAt : Method [.uint256] .address := .named "getMinipoolAt"
def getNodeMinipoolCount : Method [.address] .uint256 := .named "getNodeMinipoolCount"
def getNodeMinipoolAt : Method [.address, .uint256] .address := .named "getNodeMinipoolAt"

end MinipoolManager

/-! The functions of a minipool's own contract. -/

namespace MinipoolDelegate

def getNodeAddress : Method [] .address := .named "getNodeAddress"
def getStatus : Method [] .uint8 := .named "getStatus"
def getFinalised : Method [] .bool := .named "getFinalised"
def getNodeFee : Method [] .uint256 := .named "getNodeFee"
def getDepositType : Method [] .uint8 := .named "getDepositType"

end MinipoolDelegate

namespace MinipoolQueue

def getTotalLength : Method [] .uint256 := .named "getTotalLength"
def getLength : Method [.uint8] .uint256 := .named "getLength"
def getTotalCapacity : Method [] .uint256 := .named "getTotalCapacity"
def getEffectiveCapacity : Method [] .uint256 := .named "getEffectiveCapacity"
def getNextCapacity : Method [] .uint256 := .named "getNextCapacity"

end MinipoolQueue

namespace AddressQueueStorage

def getIndexOf : Method [.bytes32, .address] .int256 := .named "getIndexOf"
def getItem : Method [.bytes32, .uint256] .address := .named "getItem"

end AddressQueueStorage

namespace Token

def balanceOf : Method [.address] .uint256 := .named "balanceOf"

end Token

/-! The contract that makes many calls in one. A call has a target, whether it may fail, and
calldata; an answer, whether the call succeeded and what it returned. -/

namespace Multicall

def aggregate3 :
    Method [.array (.tuple [.address, .bool, .bytes])] (.array (.tuple [.bool, .bytes])) :=
  .named "aggregate3"

end Multicall

/-! The contract that reads the balances of many accounts in one call: of each of the users, each
of the tokens. -/

namespace BalanceBatcher

def balances : Method [.array .address, .array .address] (.array .uint256) := .named "balances"

end BalanceBatcher

/-- A function together with the name of the contract that has it. -/
structure Entry where
  owner : String
  inputs : List Ty
  output : Ty
  method : Method inputs output

namespace Entry

def of (owner : String) {inputs : List Ty} {output : Ty} (method : Method inputs output) : Entry :=
  ⟨owner, inputs, output, method⟩

/-- The names of the contract and the function, with a point between them. -/
def name (e : Entry) : String := e.owner ++ "." ++ e.method.name

end Entry

/-- All functions of all contracts. -/
def catalogue : List Entry :=
  [.of "RocketStorage" Storage.getAddress,
    .of "RocketStorage" Storage.getNodeWithdrawalAddress,
    .of "RocketStorage" Storage.getNodePendingWithdrawalAddress,
    .of "RocketNodeManager" NodeManager.getNodeCount,
    .of "RocketNodeManager" NodeManager.getNodeAt,
    .of "RocketNodeManager" NodeManager.getNodeExists,
    .of "RocketNodeManager" NodeManager.getNodeRegistrationTime,
    .of "RocketNodeManager" NodeManager.getNodeTimezoneLocation,
    .of "RocketNodeManager" NodeManager.getFeeDistributorInitialised,
    .of "RocketNodeManager" NodeManager.getRewardNetwork,
    .of "RocketNodeManager" NodeManager.getSmoothingPoolRegistrationState,
    .of "RocketNodeManager" NodeManager.getSmoothingPoolRegistrationChanged,
    .of "RocketNodeDistributorFactory" NodeDistributorFactory.getProxyAddress,
    .of "RocketNodeStaking" NodeStaking.getTotalEffectiveRplStake,
    .of "RocketNodeStaking" NodeStaking.getNodeRplStake,
    .of "RocketNodeStaking" NodeStaking.getNodeEffectiveRplStake,
    .of "RocketNodeStaking" NodeStaking.getNodeMinimumRplStake,
    .of "RocketNodeStaking" NodeStaking.getNodeMaximumRplStake,
    .of "RocketNodeStaking" NodeStaking.getNodeEthMatched,
    .of "RocketNodeStaking" NodeStaking.getNodeEthMatchedLimit,
    .of "RocketNodeStaking" NodeStaking.getNodeEthCollateralisationRatio,
    .of "RocketNodeDeposit" NodeDeposit.getNodeDepositCredit,
    .of "RocketMinipoolManager" MinipoolManager.getMinipoolCount,
    .of "RocketMinipoolManager" MinipoolManager.getMinipoolAt,
    .of "RocketMinipoolManager" MinipoolManager.getNodeMinipoolCount,
    .of "RocketMinipoolManager" MinipoolManager.getNodeMinipoolAt,
    .of "RocketMinipool" MinipoolDelegate.getNodeAddress,
    .of "RocketMinipool" MinipoolDelegate.getStatus,
    .of "RocketMinipool" MinipoolDelegate.getFinalised,
    .of "RocketMinipool" MinipoolDelegate.getNodeFee,
    .of "RocketMinipool" MinipoolDelegate.getDepositType,
    .of "RocketMinipoolQueue" MinipoolQueue.getTotalLength,
    .of "RocketMinipoolQueue" MinipoolQueue.getLength,
    .of "RocketMinipoolQueue" MinipoolQueue.getTotalCapacity,
    .of "RocketMinipoolQueue" MinipoolQueue.getEffectiveCapacity,
    .of "RocketMinipoolQueue" MinipoolQueue.getNextCapacity,
    .of "AddressQueueStorage" AddressQueueStorage.getIndexOf,
    .of "AddressQueueStorage" AddressQueueStorage.getItem,
    .of "ERC20" Token.balanceOf,
    .of "IMulticall3" Multicall.aggregate3,
    .of "BalanceBatcher" BalanceBatcher.balances]

/-- The function with the given full name. -/
def find? (name : String) : Option Entry :=
  catalogue.find? (·.name = name)

end StakeSnapshot.Contract
