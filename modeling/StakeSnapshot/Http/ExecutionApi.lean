import StakeSnapshot.Http.ExecutionApi.Block
import StakeSnapshot.Http.JsonRpc

/-!
# The execution chain over the web

Single calls and balances are remote calls of their own. A batch is one call of the contract that
makes many calls in one, and many balances are one call of the contract that reads balances, so
each of them is read at one block.
-/

namespace StakeSnapshot.Http

/-- The contracts that answer many questions in one call. -/
structure HelperContracts where
  multicall : Address
  balanceBatcher : Address
deriving DecidableEq

namespace ExecutionApi

/-! ## Calls -/

def latestCall : RemoteCall := ⟨"eth_getBlockByNumber", [.string "latest", .bool false]⟩

def contractCall (c : ContractCall) (block : UInt64) : RemoteCall :=
  ⟨"eth_call",
    [.object [("to", toJson c.target), ("input", .string c.calldata.toText)], quantity block]⟩

def balanceCall (account : Address) (block : UInt64) : RemoteCall :=
  ⟨"eth_getBalance", [toJson account, quantity block]⟩

/-- A result without data, which is what an address without a contract returns. -/
def noDataText (name : String) : String :=
  s!"contract call to \x60{name}\x60 returned no data (\"0x\"); " ++
    "the called address might not be a contract"

/-- The value that a contract function returned. -/
def readResult {inputs : List Abi.Ty} {output : Abi.Ty} (m : Abi.Method inputs output)
    (data : Bytes) : Except Error output.Value :=
  match m.decodeResult data with
  | .ok value => .ok value
  | .error e =>
    if data.isEmpty then fail .sourceUnavailable (noDataText m.name) else .error e.toError

/-- Calls a contract function. -/
def invoke {inputs : List Abi.Ty} {output : Abi.Ty} (url : Url) (m : Abi.Method inputs output)
    (target : Address) (args : Abi.Values inputs) (block : UInt64) :
    Task Exchange output.Value := do
  let data ← (contractCall (m.call target args) block).perform url (.via bytes?)
  .ofExcept (readResult m data)

/-! ## Batches -/

/-- The arguments that put calls together. None of them may fail. -/
def batchArguments (calls : List ContractCall) :
    Abi.Values [.array (.tuple [.address, .bool, .bytes])] :=
  (calls.map fun c => (c.target, false, c.calldata, ()), ())

/-- The replies to the calls of a batch, all of which have to succeed. -/
def unpackReplies : List (Bool × Bytes × Unit) → List ContractCall → Except Error (List Bytes)
  | (success, data, _) :: answers, c :: calls =>
    if success then do .ok (data :: (← unpackReplies answers calls))
    else fail .sourceUnavailable s!"call to {c.target.checksum} reverted"
  | _, _ => .ok []

def readBatch (calls : List ContractCall) (answers : List (Bool × Bytes × Unit)) :
    Except Error (List Bytes) :=
  if answers.length = calls.length then unpackReplies answers calls
  else
    fail .decodeMismatch
      s!"multicall returned {answers.length} results for {calls.length} calls"

def readBalances (accounts : List Address) (balances : List Amount) :
    Except Error (List Amount) :=
  if balances.length = accounts.length then .ok balances
  else
    fail .decodeMismatch
      s!"balance batcher returned {balances.length} balances for {accounts.length} addresses"

/-- A question to the execution chain, put to the server at a URL. The balances asked for are those
of ether, which is named by the address zero. -/
def ask (url : Url) (helpers : HelperContracts) :
    {α : Type} → ExecutionQuery α → Task Exchange α
  | _, .latestBlock => do
    match ← (latestCall.perform url (.optional Block.read)).context
        "failed to fetch latest block" with
    | some header => pure header
    | none => .failWith (.of .sourceUnavailable "latest block not found")
  | _, .call c block => (contractCall c block).perform url (.via bytes?)
  | _, .batchCall calls block => do
    let answers ←
      invoke url Contract.Multicall.aggregate3 helpers.multicall (batchArguments calls) block
    .ofExcept (readBatch calls answers)
  | _, .balance account block =>
    (balanceCall account block).perform url JsonForm.read
  | _, .bulkBalances accounts block => do
    let balances ← invoke url Contract.BalanceBatcher.balances helpers.balanceBatcher
      (accounts, [.zero], ()) block
    .ofExcept (readBalances accounts balances)

end ExecutionApi

end StakeSnapshot.Http
