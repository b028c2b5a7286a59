import StakeSnapshot.Http.Remote
import StakeSnapshot.Simulation.World

/-!
# A world behind servers

Two servers that answer requests out of a world in memory: one for the execution chain, one for the
beacon chain. Every request takes a moment, so what is asked at once is under way at once.
-/

namespace StakeSnapshot.Simulation

open Http

/-- A request that was received: one that a question answers, or one with a reply of its own. -/
inductive Incoming : Type 1 where
  | asks {α : Type} (question : Query α) (reply : Outcome α → Reply)
  | answered (reply : Reply)

/-- Where the servers are, and the helper contracts that the execution chain knows. -/
structure Gateway where
  execution : Authority
  beacon : Authority
  helpers : HelperContracts

namespace Gateway

/-- A server on this machine. -/
def localServer (port : Nat) : Authority := ⟨"", "", some "127.0.0.1", some port⟩

/-- The base URL of a server. -/
def baseUrl (a : Authority) : Url := ⟨"http", some a, .segments [""], none, none⟩

/-- A gateway on this machine. -/
def onThisMachine (helpers : HelperContracts) : Gateway :=
  ⟨localServer 8545, localServer 5052, helpers⟩

def endpoints (g : Gateway) : Endpoints := ⟨baseUrl g.execution, baseUrl g.beacon, g.helpers⟩

/-! ## The execution chain -/

/-- The answer to a call that fails, for whatever reason. -/
def reverted : Reply := .ofJson 200 (RemoteAnswer.ofError 3 "execution reverted")

/-- The reply to a call, with the form of its result. -/
def rpcReply {α : Type} (form : α → Json) : Outcome α → Reply
  | .ok a => .ofJson 200 (RemoteAnswer.ofResult (form a))
  | .error _ => reverted

def bytesJson (bytes : Bytes) : Json := .string bytes.toText

/-- The result of a contract function. -/
def resultJson {inputs : List Abi.Ty} {output : Abi.Ty} (m : Abi.Method inputs output)
    (value : output.Value) : Json :=
  bytesJson (m.encodeResult value)

/-- Bytes of zero. -/
def blank (length : Nat) : Json := bytesJson (List.replicate length 0)

/-- A complete block. -/
def blockJson (h : BlockHeader) : Json :=
  .object
    [("hash", blank 32), ("parentHash", blank 32), ("sha3Uncles", blank 32), ("miner", blank 20),
      ("stateRoot", blank 32), ("transactionsRoot", blank 32), ("receiptsRoot", blank 32),
      ("logsBloom", blank 256), ("difficulty", .string "0x0"),
      ("number", ExecutionApi.quantity h.number), ("gasLimit", .string "0x0"),
      ("gasUsed", .string "0x0"), ("timestamp", ExecutionApi.quantity h.timestamp),
      ("extraData", .string "0x"), ("mixHash", blank 32), ("nonce", blank 8),
      ("transactions", .array []), ("uncles", .array [])]

/-- The reply that asks for the latest block, which may be missing. -/
def latestReply (r : Outcome BlockHeader) : Reply :=
  .ofJson 200 (RemoteAnswer.ofResult (match r with
    | .ok h => blockJson h
    | .error _ => .null))

/-- A call of a contract. Those of the helper contracts are taken apart. -/
def contractCall (g : Gateway) (c : ContractCall) (block : UInt64) : Incoming :=
  if c.target = g.helpers.multicall then
    match Contract.Multicall.aggregate3.arguments? c.calldata with
    | some (calls, ()) =>
      .asks (.execution (.batchCall (calls.map fun c => ⟨c.1, c.2.2.1⟩) block))
        (rpcReply fun replies =>
          resultJson Contract.Multicall.aggregate3 (replies.map fun data => (true, data, ())))
    | none => .answered reverted
  else if c.target = g.helpers.balanceBatcher then
    match Contract.BalanceBatcher.balances.arguments? c.calldata with
    | some (accounts, _) =>
      .asks (.execution (.bulkBalances accounts block))
        (rpcReply (resultJson Contract.BalanceBatcher.balances))
    | none => .answered reverted
  else .asks (.execution (.call c block)) (rpcReply bytesJson)

/-- The call in the parameters of a contract call. -/
def callOfParams? (params : Json) : Option ContractCall := do
  let target ← JsonForm.ofJson? (← params.member? "to")
  let calldata ← ExecutionApi.bytes? (← params.member? "input")
  some ⟨target, calldata⟩

/-- A remote call. -/
def remoteCall (g : Gateway) (c : RemoteCall) : Incoming :=
  match c.method, c.params with
  | "eth_getBlockByNumber", _ => .asks (.execution .latestBlock) latestReply
  | "eth_call", [params, block] =>
    match callOfParams? params, ExecutionApi.quantity? block with
    | some call, some block => g.contractCall call block
    | _, _ => .answered reverted
  | "eth_getBalance", [account, block] =>
    match JsonForm.ofJson? account, ExecutionApi.quantity? block with
    | some account, some block =>
      .asks (.execution (.balance account block)) (rpcReply (toJson (α := Amount)))
    | _, _ => .answered reverted
  | _, _ => .answered reverted

/-! ## The beacon chain -/

def notFound : Reply := ⟨404, []⟩

def offlineReply : Reply := ⟨503, []⟩

/-- The reply with some content. -/
def contentReply {α ρ : Type} [RecordForm ρ] (content : α → ρ) : Outcome α → Reply
  | .ok a => .ofJson 200 (toJson (Envelope.mk (content a)))
  | .error _ => offlineReply

/-- The reply that asks for a block, which may be missing. -/
def blockReply : Outcome (Option BeaconBlock) → Reply
  | .ok (some b) => contentReply SignedBlock.ofBlock (.ok b)
  | .ok none => notFound
  | .error _ => offlineReply

/-- The slot in the path of a block. -/
def slotOfPath? (path : List Char) : Option UInt64 :=
  let blocks := ("/" ++ BeaconApi.blocksPath).toList
  if path.take blocks.length = blocks then
    countOfText? (String.ofList (path.drop blocks.length))
  else none

/-- A request for the content at a path. -/
def content (path : String) : Incoming :=
  if path = "/" ++ BeaconApi.specPath then
    .asks (.beacon .config)
      (contentReply fun c => SpecReply.mk ⟨c.secondsPerSlot⟩ ⟨c.slotsPerEpoch⟩)
  else if path = "/" ++ BeaconApi.genesisPath then
    .asks (.beacon .config) (contentReply fun c => GenesisReply.mk ⟨c.genesisTime⟩)
  else if path = "/" ++ BeaconApi.finalityPath then
    .asks (.beacon .head) (contentReply fun h => FinalityReply.mk ⟨⟨h.finalizedEpoch⟩⟩)
  else
    match slotOfPath? path.toList with
    | some slot => .asks (.beacon (.block slot)) blockReply
    | none => .answered notFound

/-! ## Serving -/

/-- What a request asks, unless it leads to no server. -/
def receive (g : Gateway) : Http.Request → Option Incoming
  | .get url =>
    if url.authority = some g.beacon then some (content (Url.pathText url.path))
    else if url.authority = some g.execution then some (.answered notFound)
    else none
  | .post url body =>
    if url.authority = some g.execution then
      match RemoteCall.ofJson? body with
      | some c => some (g.remoteCall c)
      | none => some (.answered reverted)
    else if url.authority = some g.beacon then some (.answered notFound)
    else none

/-- How many milliseconds a request is under way. -/
def travel : Nat := 1

def accept (g : Gateway) : {α : Type} → Exchange α → World → World × Nat
  | _, .web (.send request), w =>
    match g.receive request with
    | some (.asks question _) =>
      let (w, delay) := World.service.accept question w
      (w, travel + delay)
    | _ => (w, travel)
  | _, .session _, w => (w, 0)

def answer (g : Gateway) : {α : Type} → Exchange α → World → Outcome α × World
  | _, .web (.send request), w =>
    match g.receive request with
    | some (.asks question reply) =>
      let (r, w) := World.service.answer question w
      (.ok (some (reply r)), w)
    | some (.answered reply) => (.ok (some reply), w)
    | none => (.ok none, w)
  | _, .session q, w => World.service.answer (.session q) w

def service (g : Gateway) : Service Exchange World where
  accept := g.accept
  answer := g.answer
  permit := World.service.permit

/-- Runs a task over the web on a number of permits. -/
def perform {α : Type} (g : Gateway) (permits : Nat) (t : Task Exchange α) (w : World) :
    Outcome α × World :=
  (t.schedule g.service permits World.patience w).getD (t.run g.service w)

end Gateway

end StakeSnapshot.Simulation
