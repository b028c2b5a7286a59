import Std.Data.HashMap
import Std.Data.HashSet
import StakeSnapshot.Query

/-!
# An execution chain in memory

A chain that answers what it was told to: a reply for each call, a balance for each account. Calls
can be made to fail, and batches can be made to take time. The chain has one state at all blocks,
and it counts what it is asked.
-/

namespace StakeSnapshot.Simulation

structure ExecutionCounts where
  batchCalls : Nat
  singleCalls : Nat
  bulkBalanceCalls : Nat
  /-- How many batches have been taken in and not answered. -/
  inFlight : Nat
  /-- The most batches that were ever in flight. -/
  maxInFlight : Nat
deriving DecidableEq

namespace ExecutionCounts

def zero : ExecutionCounts := ⟨0, 0, 0, 0, 0⟩

/-- Counts a single call or balance. -/
def single (c : ExecutionCounts) : ExecutionCounts := { c with singleCalls := c.singleCalls + 1 }

/-- Counts a batch that is taken in. -/
def batchStarted (c : ExecutionCounts) : ExecutionCounts :=
  { c with
    batchCalls := c.batchCalls + 1
    inFlight := c.inFlight + 1
    maxInFlight := max c.maxInFlight (c.inFlight + 1) }

/-- Counts a batch that is answered. -/
def batchEnded (c : ExecutionCounts) : ExecutionCounts := { c with inFlight := c.inFlight - 1 }

/-- Counts a read of many balances. -/
def bulk (c : ExecutionCounts) : ExecutionCounts :=
  { c with bulkBalanceCalls := c.bulkBalanceCalls + 1 }

end ExecutionCounts

structure ExecutionChain where
  latest : Option BlockHeader
  replies : Std.HashMap ContractCall Bytes
  balances : Std.HashMap Address Amount
  failing : Std.HashSet ContractCall
  /-- How many milliseconds a batch takes. -/
  batchDelay : Nat
  counts : ExecutionCounts

namespace ExecutionChain

def empty : ExecutionChain := ⟨none, ∅, ∅, ∅, 0, .zero⟩

/-- Sets the bytes that answer a call. -/
def setReply (chain : ExecutionChain) (call : ContractCall) (data : Bytes) : ExecutionChain :=
  { chain with replies := chain.replies.insert call data }

/-- Sets the value that a function returns for some arguments. -/
def setResult {inputs : List Abi.Ty} {output : Abi.Ty} (chain : ExecutionChain)
    (m : Abi.Method inputs output) (target : Address) (args : Abi.Values inputs)
    (value : output.Value) : ExecutionChain :=
  chain.setReply (m.call target args) (m.encodeResult value)

/-- Makes every request fail that contains a call. -/
def failCall (chain : ExecutionChain) (call : ContractCall) : ExecutionChain :=
  { chain with failing := chain.failing.insert call }

def setBalance (chain : ExecutionChain) (account : Address) (balance : Amount) : ExecutionChain :=
  { chain with balances := chain.balances.insert account balance }

def setLatest (chain : ExecutionChain) (header : BlockHeader) : ExecutionChain :=
  { chain with latest := some header }

/-- Thirty years in milliseconds. No batch takes longer. -/
def longestDelay : Nat := 30 * 365 * 86400 * 1000

/-- Sets how many milliseconds a batch takes. -/
def setDelay (chain : ExecutionChain) (milliseconds : Nat) : ExecutionChain :=
  { chain with batchDelay := min milliseconds longestDelay }

/-- The reply to a call, at any block. -/
def respond (chain : ExecutionChain) (call : ContractCall) : Except Error Bytes :=
  if chain.failing.contains call then
    fail .sourceUnavailable s!"simulated failure calling {call.target.checksum}"
  else
    match chain.replies[call]? with
    | some data => .ok data
    | none =>
      fail .sourceUnavailable
        ("execution reverted: no response for call to " ++ call.target.checksum ++ " ("
          ++ call.calldata.toText ++ ")")

/-- What an account holds, at any block. -/
def balanceOf (chain : ExecutionChain) (account : Address) : Amount :=
  chain.balances.getD account 0

/-- Takes a question in. Only batches take time. -/
def accept {α : Type} (q : ExecutionQuery α) (chain : ExecutionChain) : ExecutionChain × Nat :=
  match q with
  | .latestBlock => (chain, 0)
  | .call _ _ => ({ chain with counts := chain.counts.single }, 0)
  | .batchCall _ _ => ({ chain with counts := chain.counts.batchStarted }, chain.batchDelay)
  | .balance _ _ => ({ chain with counts := chain.counts.single }, 0)
  | .bulkBalances _ _ => ({ chain with counts := chain.counts.bulk }, 0)

/-- Answers a question. A batch is answered by the replies to its calls, or the first error among
them. -/
def answer : {α : Type} → ExecutionQuery α → ExecutionChain → Outcome α × ExecutionChain
  | _, .latestBlock, chain =>
    match chain.latest with
    | some header => (.ok header, chain)
    | none => (.error (.error (.of .sourceUnavailable "no latest block")), chain)
  | _, .call call _, chain => (Outcome.ofExcept (chain.respond call), chain)
  | _, .batchCall calls _, chain =>
    (Outcome.ofExcept (calls.mapM chain.respond),
      { chain with counts := chain.counts.batchEnded })
  | _, .balance account _, chain => (.ok (chain.balanceOf account), chain)
  | _, .bulkBalances accounts _, chain => (.ok (accounts.map chain.balanceOf), chain)

def service : Service ExecutionQuery ExecutionChain where
  accept := accept
  answer := answer
  permit _ := .ok ()

end ExecutionChain

end StakeSnapshot.Simulation
