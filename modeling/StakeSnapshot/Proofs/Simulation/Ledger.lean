import StakeSnapshot.Proofs.Queue.Positions
import StakeSnapshot.Proofs.Simulation.Writes

/-!
# What a deployment has been told

A deployment in memory is filled step by step (`Step`). A ledger is what a history of steps amounts
to: all that was added, in order, and what was set last. It says which reply is due to each call
(`Ledger.due`), without keeping any.
-/

namespace StakeSnapshot.Simulation

open Contract

/-- The steps that fill a deployment. -/
inductive Step where
  | addNode (n : Node)
  | addMinipool (m : Minipool)
  | enqueue (partition : Partition) (minipool : Address)
  | setTotalStake (stake : Amount)
  | setCapacity (capacity : QueueCapacity)
  | setBalance (account : Address) (balance : Amount)
  | setLatest (header : BlockHeader)
  | setDelay (milliseconds : Nat)

namespace Protocol

def apply (p : Protocol) : Step → Protocol
  | .addNode n => p.addNode n
  | .addMinipool m => p.addMinipool m
  | .enqueue partition minipool => p.enqueue partition minipool
  | .setTotalStake stake => p.setTotalEffectiveRplStake stake
  | .setCapacity capacity => p.setCapacity capacity
  | .setBalance account balance => { p with chain := p.chain.setBalance account balance }
  | .setLatest header => { p with chain := p.chain.setLatest header }
  | .setDelay milliseconds => { p with chain := p.chain.setDelay milliseconds }

/-- The deployment after a history of steps. -/
def after (storage : Address) (steps : List Step) : Protocol := steps.foldl apply (new storage)

end Protocol

structure Ledger where
  nodes : List Node
  minipools : List Minipool
  /-- The minipools that were added for a node after the node was. -/
  owned : Address → List Address
  /-- The minipools that were put into a partition. -/
  waiting : Partition → List Address
  totalStake : Amount
  capacity : QueueCapacity
  balance : Address → Amount
  latest : Option BlockHeader

namespace Ledger

def empty : Ledger := ⟨[], [], fun _ => [], fun _ => [], 0, ⟨0, 0, 0⟩, fun _ => 0, none⟩

def apply (l : Ledger) : Step → Ledger
  | .addNode n =>
      { l with nodes := l.nodes ++ [n], owned := Function.update l.owned n.address [] }
  | .addMinipool m =>
      { l with
        minipools := l.minipools ++ [m]
        owned := Function.update l.owned m.nodeAddress (l.owned m.nodeAddress ++ [m.address]) }
  | .enqueue partition minipool =>
      { l with
        waiting := Function.update l.waiting partition (l.waiting partition ++ [minipool]) }
  | .setTotalStake stake => { l with totalStake := stake }
  | .setCapacity capacity => { l with capacity }
  | .setBalance account balance => { l with balance := Function.update l.balance account balance }
  | .setLatest header => { l with latest := some header }
  | .setDelay _ => l

/-- The ledger of a history of steps. -/
def after (steps : List Step) : Ledger := steps.foldl apply empty

/-- How many minipools a node has, as the contracts count. -/
def ownedCount (l : Ledger) (a : Address) : UInt64 := UInt64.ofNat (l.owned a).length

/-- The record that was added last for a node, with the number of its minipools. -/
def node? (l : Ledger) (a : Address) : Option Node :=
  (l.nodes.reverse.find? (·.address = a)).map fun n =>
    { n with minipoolCount := Amount.ofCount (l.ownedCount a) }

/-- The record that was added last for a minipool. -/
def minipool? (l : Ledger) (a : Address) : Option Minipool :=
  l.minipools.reverse.find? (·.address = a)

/-- The reply to a call that the steps call for, if they do. -/
def due (l : Ledger) : Slot → Option Bytes
  | .contract name => some (Storage.getAddress.encodeResult (contractOf name))
  | .nodeCount =>
      some (NodeManager.getNodeCount.encodeResult (Protocol.amountOfNat l.nodes.length))
  | .nodeAt index =>
      l.nodes[index.toNat]?.map fun n => NodeManager.getNodeAt.encodeResult n.address
  | .node g a => (l.node? a).map g.reply
  | .minipoolCount =>
      some (MinipoolManager.getMinipoolCount.encodeResult
        (Protocol.amountOfNat l.minipools.length))
  | .minipoolAt index =>
      l.minipools[index.toNat]?.map fun m => MinipoolManager.getMinipoolAt.encodeResult m.address
  | .nodeMinipoolAt owner index =>
      (l.owned owner)[index.toNat]?.map MinipoolManager.getNodeMinipoolAt.encodeResult
  | .minipool g a => (l.minipool? a).map g.reply
  | .totalStake => some (NodeStaking.getTotalEffectiveRplStake.encodeResult l.totalStake)
  | .totalCapacity => some (MinipoolQueue.getTotalCapacity.encodeResult l.capacity.total)
  | .effectiveCapacity =>
      some (MinipoolQueue.getEffectiveCapacity.encodeResult l.capacity.effective)
  | .nextCapacity => some (MinipoolQueue.getNextCapacity.encodeResult l.capacity.nextMinipool)
  | .length partition =>
      some (MinipoolQueue.getLength.encodeResult
        (Protocol.amountOfNat (l.waiting partition).length))
  | .totalLength =>
      some (MinipoolQueue.getTotalLength.encodeResult
        (Protocol.amountOfNat (Queue.whole l.waiting).length))
  | .item partition index =>
      (l.waiting partition)[index.toNat]?.map AddressQueueStorage.getItem.encodeResult
  | .indexOf partition minipool =>
      if minipool ∈ l.minipools.map Minipool.address then
        some (AddressQueueStorage.getIndexOf.encodeResult
          (Protocol.storedIndex (l.waiting partition) minipool))
      else none

/-- No list is longer than a count can say. -/
structure Fits (l : Ledger) : Prop where
  nodes : l.nodes.length < UInt64.size
  minipools : l.minipools.length < UInt64.size
  waiting : ∀ partition, (l.waiting partition).length < UInt64.size

/-- What fits after a step has fitted before it. -/
theorem Fits.of_apply {l : Ledger} {step : Step} (h : (l.apply step).Fits) : l.Fits := by
  have hgrows : ∀ {α : Type} {items : List α} {item : α},
      (items ++ [item]).length < UInt64.size → items.length < UInt64.size := by
    intro α items item hlength
    rw [List.length_append, List.length_singleton] at hlength
    exact Nat.lt_of_succ_lt hlength
  cases step with
  | addNode n => exact ⟨hgrows h.nodes, h.minipools, h.waiting⟩
  | addMinipool m => exact ⟨h.nodes, hgrows h.minipools, h.waiting⟩
  | enqueue partition a =>
      refine ⟨h.nodes, h.minipools, fun other => ?_⟩
      have hwaiting := h.waiting other
      change (Function.update l.waiting partition (l.waiting partition ++ [a]) other).length <
        UInt64.size at hwaiting
      by_cases hp : other = partition
      · subst hp
        rw [Function.update_self] at hwaiting
        exact hgrows hwaiting
      · rwa [Function.update_of_ne hp] at hwaiting
  | _ => exact ⟨h.nodes, h.minipools, h.waiting⟩

end Ledger

end StakeSnapshot.Simulation
