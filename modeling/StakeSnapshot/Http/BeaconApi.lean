import StakeSnapshot.Http.Exchange

/-!
# The beacon chain over the web

A beacon node answers at fixed paths below a base URL. Its replies hold their content in a member
`data`, and numbers as text; of a reply only the members that a snapshot needs are read.
-/

namespace StakeSnapshot.Http

/-- A number that is written as text. -/
structure Quoted where
  value : UInt64
deriving DecidableEq

instance : JsonForm Quoted where
  toJson q := .string (toString q.value)
  ofJson?
    | .string text => (countOfText? text).map .mk
    | _ => none

/-- The content of a reply. -/
structure Envelope (ρ : Type) where
  data : ρ

instance {ρ : Type} [RecordForm ρ] : RecordForm (Envelope ρ) where
  blank := ⟨RecordForm.blank⟩
  fields := [.required "data" (·.data) fun v _ => ⟨v⟩]

/-- The settings of the chain. -/
structure SpecReply where
  secondsPerSlot : Quoted
  slotsPerEpoch : Quoted

instance : RecordForm SpecReply where
  blank := ⟨⟨0⟩, ⟨0⟩⟩
  fields :=
    [.required "SECONDS_PER_SLOT" (·.secondsPerSlot) fun v r => { r with secondsPerSlot := v },
      .required "SLOTS_PER_EPOCH" (·.slotsPerEpoch) fun v r => { r with slotsPerEpoch := v }]

/-- The start of the chain. -/
structure GenesisReply where
  genesisTime : Quoted

instance : RecordForm GenesisReply where
  blank := ⟨⟨0⟩⟩
  fields := [.required "genesis_time" (·.genesisTime) fun v _ => ⟨v⟩]

structure Checkpoint where
  epoch : Quoted

instance : RecordForm Checkpoint where
  blank := ⟨⟨0⟩⟩
  fields := [.required "epoch" (·.epoch) fun v _ => ⟨v⟩]

/-- What is final at the head of the chain. -/
structure FinalityReply where
  finalized : Checkpoint

instance : RecordForm FinalityReply where
  blank := ⟨RecordForm.blank⟩
  fields := [.required "finalized" (·.finalized) fun v _ => ⟨v⟩]

/-- The part of an execution block that a beacon block carries. -/
structure Payload where
  blockNumber : Quoted

instance : RecordForm Payload where
  blank := ⟨⟨0⟩⟩
  fields := [.required "block_number" (·.blockNumber) fun v _ => ⟨v⟩]

structure BlockBody where
  payload : Option Payload

instance : RecordForm BlockBody where
  blank := ⟨none⟩
  fields := [.defaulted "execution_payload" (·.payload) fun v _ => ⟨v⟩]

structure BlockMessage where
  slot : Quoted
  proposerIndex : Quoted
  body : BlockBody

instance : RecordForm BlockMessage where
  blank := ⟨⟨0⟩, ⟨0⟩, RecordForm.blank⟩
  fields :=
    [.required "slot" (·.slot) fun v m => { m with slot := v },
      .required "proposer_index" (·.proposerIndex) fun v m => { m with proposerIndex := v },
      .required "body" (·.body) fun v m => { m with body := v }]

/-- A block with its signature, which is not read. -/
structure SignedBlock where
  message : BlockMessage

instance : RecordForm SignedBlock where
  blank := ⟨RecordForm.blank⟩
  fields := [.required "message" (·.message) fun v _ => ⟨v⟩]

def SignedBlock.block (b : SignedBlock) : BeaconBlock :=
  ⟨b.message.slot.value, b.message.proposerIndex.value,
    b.message.body.payload.map (·.blockNumber.value)⟩

def SignedBlock.ofBlock (b : BeaconBlock) : SignedBlock :=
  ⟨⟨⟨b.slot⟩, ⟨b.proposerIndex⟩, ⟨b.executionBlock.map fun n => ⟨⟨n⟩⟩⟩⟩⟩

namespace BeaconApi

def specPath : String := "eth/v1/config/spec"
def genesisPath : String := "eth/v1/beacon/genesis"
def finalityPath : String := "eth/v1/beacon/states/head/finality_checkpoints"

/-- The path of all blocks, without the slot. -/
def blocksPath : String := "eth/v2/beacon/blocks/"

def blockPath (slot : UInt64) : String := blocksPath ++ toString slot

/-- What the reply to a request says, if the server answered and has it. -/
def readReply {ρ : Type} [RecordForm ρ] : Option Reply → Except Obstacle (Option ρ)
  | none => .error .unreachable
  | some r =>
    if r.status = 404 then .ok none
    else if 400 ≤ r.status ∧ r.status < 600 then .error (.failed r.status)
    else
      match r.read? (JsonForm.read (α := Envelope ρ)) with
      | some envelope => .ok (some envelope.data)
      | none => .error .badBody

/-- An obstacle with what was being done when it was met. -/
def obstacleError (url : Url) (o : Obstacle) : Error :=
  (o.toError url).context
    (if o = .badBody then s!"parsing response from {url.text}" else s!"requesting {url.text}")

/-- The content at a path below the base URL, if the server has it. -/
def get? (ρ : Type) [RecordForm ρ] (base : Url) (path : String) : Task Exchange (Option ρ) :=
  match base.resolve? path with
  | none =>
    .failWith ((Error.of .sourceUnavailable s!"invalid beacon endpoint {path}").context
      "relative URL with a cannot-be-a-base base")
  | some url =>
    if url.isWeb then do
      let reply ← send (.get url)
      .ofExcept ((readReply reply).mapError (obstacleError url))
    else .failWith (obstacleError url .badScheme)

/-- The content at a path that every server has. -/
def get (ρ : Type) [RecordForm ρ] (base : Url) (path : String) : Task Exchange ρ := do
  match ← get? ρ base path with
  | some content => pure content
  | none => .failWith (.of .sourceUnavailable s!"beacon endpoint {path} not found")

/-- A configuration in which time stands still is refused. -/
def checkConfig (config : BeaconConfig) : Except Error BeaconConfig :=
  if 0 < config.secondsPerSlot ∧ 0 < config.slotsPerEpoch then .ok config
  else fail .decodeMismatch s!"degenerate beacon config {config.text}"

def config (base : Url) : Task Exchange BeaconConfig := do
  let (spec, genesis) ← .both (get SpecReply base specPath) (get GenesisReply base genesisPath)
  .ofExcept (checkConfig
    ⟨genesis.genesisTime.value, spec.secondsPerSlot.value, spec.slotsPerEpoch.value⟩)

/-- A question to the beacon chain, put to the server at a base URL. -/
def ask (base : Url) : {α : Type} → BeaconQuery α → Task Exchange α
  | _, .config => config base
  | _, .head => do
    let r ← get FinalityReply base finalityPath
    pure ⟨r.finalized.epoch.value⟩
  | _, .block slot => do
    let r ← get? SignedBlock base (blockPath slot)
    pure (r.map SignedBlock.block)

end BeaconApi

end StakeSnapshot.Http
