import Std.Data.HashMap
import StakeSnapshot.Query

/-!
# A beacon chain in memory

A chain with the blocks that were added to it; every other slot was missed. It can be taken
offline, and it keeps count of what it is asked, which goes on while it is offline.
-/

namespace StakeSnapshot.Simulation

structure BeaconChain where
  config : BeaconConfig
  head : BeaconHead
  blocks : Std.HashMap UInt64 BeaconBlock
  offline : Bool
  configRequests : Nat
  /-- The slots that were asked for, the last one first. -/
  queried : List UInt64

namespace BeaconChain

def new (config : BeaconConfig) : BeaconChain := ⟨config, ⟨0⟩, ∅, false, 0, []⟩

/-- Proposes a block in a slot, which carries the given execution block or none. -/
def addBlock (chain : BeaconChain) (slot : UInt64) (executionBlock : Option UInt64) :
    BeaconChain :=
  { chain with blocks := chain.blocks.insert slot ⟨slot, slot % 1000, executionBlock⟩ }

/-- Makes an epoch final. -/
def setFinalized (chain : BeaconChain) (epoch : UInt64) : BeaconChain :=
  { chain with head := ⟨epoch⟩ }

def setOffline (chain : BeaconChain) (offline : Bool) : BeaconChain := { chain with offline }

/-- What a chain that is offline answers in place of a value. -/
def online {α : Type} (chain : BeaconChain) (a : α) : Outcome α :=
  if chain.offline then .error (.error (.of .sourceUnavailable "beacon node offline"))
  else .ok a

def answer : {α : Type} → BeaconQuery α → BeaconChain → Outcome α × BeaconChain
  | _, .config, chain =>
    (chain.online chain.config, { chain with configRequests := chain.configRequests + 1 })
  | _, .head, chain => (chain.online chain.head, chain)
  | _, .block slot, chain =>
    (chain.online chain.blocks[slot]?, { chain with queried := slot :: chain.queried })

def service : Service BeaconQuery BeaconChain where
  accept _ chain := (chain, 0)
  answer := answer
  permit _ := .ok ()

end BeaconChain

end StakeSnapshot.Simulation
