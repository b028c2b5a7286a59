import StakeSnapshot.Simulation.Protocol

/-!
# A deployment with faults

A layer around a deployment in memory that answers some calls in its own way, changes the number of
results of batches, and notes every request.
-/

namespace StakeSnapshot.Simulation

/-- A request, as it is noted. -/
inductive Request where
  | call (call : ContractCall) (block : UInt64)
  | batch (calls : List ContractCall) (block : UInt64)
  | balance (account : Address) (block : UInt64)
  | balances (accounts : List Address) (block : UInt64)

namespace Request

def callText (c : ContractCall) : String := c.target.toText ++ ":" ++ c.calldata.toText

def text : Request → String
  | .call c block => s!"call@{block} {callText c}"
  | .batch calls block => s!"batch@{block} " ++ String.intercalate " " (calls.map callText)
  | .balance account block => s!"balance@{block} {account.toText}"
  | .balances accounts block =>
    s!"balances@{block} " ++ String.intercalate " " (accounts.map Address.toText)

end Request

/-- An answer that takes the place of the chain's own. -/
structure Override where
  call : ContractCall
  /-- The only block at which it holds, if there is one. -/
  block : Option UInt64
  reply : Except Error Bytes

/-- What is done to results. A positive number of items is taken from the end, a negative number is
added as blank items. -/
structure Tampering where
  dropCalls : Int
  dropBalances : Int
  balancesError : Option Error

namespace Tampering

def none : Tampering := ⟨0, 0, .none⟩

/-- How many bytes memory takes for an item of a result. -/
def itemSize : Nat := 32

/-- Takes items from the end of a list, or adds blank ones, if memory can hold them. -/
def adjust {α : Type} (drop : Int) (blank : α) (items : List α) : Outcome (List α) :=
  match drop with
  | .ofNat n => .ok (items.take (items.length - n))
  | .negSucc n =>
    match Memory.reserve itemSize (items.length + n + 1) with
    | .ok () => .ok (items ++ List.replicate (n + 1) blank)
    | .error f => .error (.fault f)

end Tampering

structure FaultyProtocol where
  protocol : Protocol
  /-- The overrides, the latest one first. -/
  overrides : List Override
  tampering : Tampering
  /-- The requests since the log was last read, the latest one first. -/
  log : List Request

namespace FaultyProtocol

def new (storage : Address) : FaultyProtocol := ⟨.new storage, [], .none, []⟩

/-- Adds an override, which comes before all others. -/
def override (f : FaultyProtocol) (o : Override) : FaultyProtocol :=
  { f with overrides := o :: f.overrides }

def tamper (f : FaultyProtocol) (t : Tampering) : FaultyProtocol := { f with tampering := t }

def note (f : FaultyProtocol) (r : Request) : FaultyProtocol := { f with log := r :: f.log }

/-- The latest override of a call at a block. -/
def override? (f : FaultyProtocol) (block : UInt64) (call : ContractCall) :
    Option (Except Error Bytes) :=
  (f.overrides.find? fun o => o.call = call && o.block.all (· = block)).map (·.reply)

/-- The calls of a batch that are passed on: those without an override, up to the first that is
made to fail. -/
def passedOn (f : FaultyProtocol) (block : UInt64) : List ContractCall → List ContractCall
  | [] => []
  | call :: calls =>
    match f.override? block call with
    | none => call :: passedOn f block calls
    | some (.ok _) => passedOn f block calls
    | some (.error _) => []

/-- Puts the replies to the calls that were passed on where they belong, between the overrides. -/
def merge (f : FaultyProtocol) (block : UInt64) :
    List ContractCall → List Bytes → Except Error (List Bytes)
  | [], _ => .ok []
  | call :: calls, replies =>
    match f.override? block call, replies with
    | some (.error e), _ => .error e
    | some (.ok data), replies => do .ok (data :: (← merge f block calls replies))
    | none, data :: replies => do .ok (data :: (← merge f block calls replies))
    | none, [] => .ok []

def withChain (f : FaultyProtocol) (chain : ExecutionChain) : FaultyProtocol :=
  { f with protocol := { f.protocol with chain } }

/-- Has the chain take a question in. -/
def passAccept {α : Type} (f : FaultyProtocol) (q : ExecutionQuery α) : FaultyProtocol × Nat :=
  let (chain, delay) := f.protocol.chain.accept q
  (f.withChain chain, delay)

/-- Has the chain answer a question. -/
def passAnswer {α : Type} (f : FaultyProtocol) (q : ExecutionQuery α) :
    Outcome α × FaultyProtocol :=
  let (r, chain) := ExecutionChain.answer q f.protocol.chain
  (r, f.withChain chain)

def accept {α : Type} (q : ExecutionQuery α) (f : FaultyProtocol) : FaultyProtocol × Nat :=
  match q with
  | .latestBlock => f.passAccept .latestBlock
  | .call call block =>
    let f := f.note (.call call block)
    if (f.override? block call).isSome then (f, 0) else f.passAccept (.call call block)
  | .batchCall calls block =>
    let f := f.note (.batch calls block)
    f.passAccept (.batchCall (f.passedOn block calls) block)
  | .balance account block => (f.note (.balance account block)).passAccept (.balance account block)
  | .bulkBalances accounts block =>
    let f := f.note (.balances accounts block)
    if f.tampering.balancesError.isSome then (f, 0)
    else f.passAccept (.bulkBalances accounts block)

def answer : {α : Type} → ExecutionQuery α → FaultyProtocol → Outcome α × FaultyProtocol
  | _, .latestBlock, f => f.passAnswer .latestBlock
  | _, .call call block, f =>
    match f.override? block call with
    | some reply => (Outcome.ofExcept reply, f)
    | none => f.passAnswer (.call call block)
  | _, .batchCall calls block, f =>
    match f.passAnswer (.batchCall (f.passedOn block calls) block) with
    | (.error e, f) => (.error e, f)
    | (.ok replies, f) =>
      (Outcome.ofExcept (f.merge block calls replies) >>=
        Tampering.adjust f.tampering.dropCalls [], f)
  | _, .balance account block, f => f.passAnswer (.balance account block)
  | _, .bulkBalances accounts block, f =>
    match f.tampering.balancesError with
    | some e => (.error (.error e), f)
    | none =>
      match f.passAnswer (.bulkBalances accounts block) with
      | (.error e, f) => (.error e, f)
      | (.ok balances, f) => (Tampering.adjust f.tampering.dropBalances 0 balances, f)

def service : Service ExecutionQuery FaultyProtocol where
  accept := accept
  answer := answer
  permit _ := .ok ()

end FaultyProtocol

end StakeSnapshot.Simulation
