import StakeSnapshot.Fetch.Minipools
import StakeSnapshot.Proofs.Abi.RoundTrip
import StakeSnapshot.Proofs.Task.Outcomes

/-!
# The fields behind the tables

Each row of the node table reads one function of a contract, and sets the field that the function
has the value of (`NodeGetter`); likewise for minipools (`MinipoolGetter`). If every function
returns the value that a record has, the stores of all rows make up that record
(`storeAll_nodeTable`, `storeAll_minipoolTable`).
-/

namespace StakeSnapshot

open Contract

/-- The functions of a node's address, in the order of the node table. -/
inductive NodeGetter where
  | registered
  | registrationTime
  | timezoneLocation
  | feeDistributorInitialised
  | feeDistributorAddress
  | rewardNetwork
  | rplStake
  | effectiveRplStake
  | minimumRplStake
  | maximumRplStake
  | ethMatched
  | ethMatchedLimit
  | minipoolCount
  | balanceReth
  | balanceRpl
  | balanceOldRpl
  | withdrawalAddress
  | pendingWithdrawalAddress
  | smoothingPoolRegistrationState
  | smoothingPoolRegistrationChanged
  | depositCreditBalance
  | collateralisationRatio
deriving DecidableEq

namespace NodeGetter

def all : List NodeGetter :=
  [.registered, .registrationTime, .timezoneLocation, .feeDistributorInitialised,
    .feeDistributorAddress, .rewardNetwork, .rplStake, .effectiveRplStake, .minimumRplStake,
    .maximumRplStake, .ethMatched, .ethMatchedLimit, .minipoolCount, .balanceReth, .balanceRpl,
    .balanceOldRpl, .withdrawalAddress, .pendingWithdrawalAddress,
    .smoothingPoolRegistrationState, .smoothingPoolRegistrationChanged, .depositCreditBalance,
    .collateralisationRatio]

theorem mem_all (g : NodeGetter) : g ∈ all := by
  cases g <;> decide

theorem nodup_all : all.Nodup := by
  decide

def output : NodeGetter → Abi.Ty
  | .registered | .feeDistributorInitialised | .smoothingPoolRegistrationState => .bool
  | .timezoneLocation => .string
  | .feeDistributorAddress | .withdrawalAddress | .pendingWithdrawalAddress => .address
  | _ => .uint256

def method : (g : NodeGetter) → Abi.Method [.address] g.output
  | .registered => NodeManager.getNodeExists
  | .registrationTime => NodeManager.getNodeRegistrationTime
  | .timezoneLocation => NodeManager.getNodeTimezoneLocation
  | .feeDistributorInitialised => NodeManager.getFeeDistributorInitialised
  | .feeDistributorAddress => NodeDistributorFactory.getProxyAddress
  | .rewardNetwork => NodeManager.getRewardNetwork
  | .rplStake => NodeStaking.getNodeRplStake
  | .effectiveRplStake => NodeStaking.getNodeEffectiveRplStake
  | .minimumRplStake => NodeStaking.getNodeMinimumRplStake
  | .maximumRplStake => NodeStaking.getNodeMaximumRplStake
  | .ethMatched => NodeStaking.getNodeEthMatched
  | .ethMatchedLimit => NodeStaking.getNodeEthMatchedLimit
  | .minipoolCount => MinipoolManager.getNodeMinipoolCount
  | .balanceReth | .balanceRpl | .balanceOldRpl => Token.balanceOf
  | .withdrawalAddress => Storage.getNodeWithdrawalAddress
  | .pendingWithdrawalAddress => Storage.getNodePendingWithdrawalAddress
  | .smoothingPoolRegistrationState => NodeManager.getSmoothingPoolRegistrationState
  | .smoothingPoolRegistrationChanged => NodeManager.getSmoothingPoolRegistrationChanged
  | .depositCreditBalance => NodeDeposit.getNodeDepositCredit
  | .collateralisationRatio => NodeStaking.getNodeEthCollateralisationRatio

/-- The contract that has the function. -/
def target : NodeGetter → Registry → Address
  | .feeDistributorAddress => Registry.nodeDistributorFactory
  | .rplStake | .effectiveRplStake | .minimumRplStake | .maximumRplStake | .ethMatched
  | .ethMatchedLimit | .collateralisationRatio => Registry.nodeStaking
  | .minipoolCount => Registry.minipoolManager
  | .balanceReth => Registry.tokenReth
  | .balanceRpl => Registry.tokenRpl
  | .balanceOldRpl => Registry.tokenRplFixedSupply
  | .withdrawalAddress | .pendingWithdrawalAddress => Registry.storage
  | .depositCreditBalance => Registry.nodeDeposit
  | _ => Registry.nodeManager

/-- The field of a record that the function has the value of. -/
def get : (g : NodeGetter) → Node → g.output.Value
  | .registered => Node.registered
  | .registrationTime => Node.registrationTime
  | .timezoneLocation => Node.timezoneLocation
  | .feeDistributorInitialised => Node.feeDistributorInitialised
  | .feeDistributorAddress => Node.feeDistributorAddress
  | .rewardNetwork => Node.rewardNetwork
  | .rplStake => Node.rplStake
  | .effectiveRplStake => Node.effectiveRplStake
  | .minimumRplStake => Node.minimumRplStake
  | .maximumRplStake => Node.maximumRplStake
  | .ethMatched => Node.ethMatched
  | .ethMatchedLimit => Node.ethMatchedLimit
  | .minipoolCount => Node.minipoolCount
  | .balanceReth => Node.balanceReth
  | .balanceRpl => Node.balanceRpl
  | .balanceOldRpl => Node.balanceOldRpl
  | .withdrawalAddress => Node.withdrawalAddress
  | .pendingWithdrawalAddress => Node.pendingWithdrawalAddress
  | .smoothingPoolRegistrationState => Node.smoothingPoolRegistrationState
  | .smoothingPoolRegistrationChanged => Node.smoothingPoolRegistrationChanged
  | .depositCreditBalance => Node.depositCreditBalance
  | .collateralisationRatio => Node.collateralisationRatio

def set : (g : NodeGetter) → g.output.Value → Node → Node
  | .registered => fun v n => { n with registered := v }
  | .registrationTime => fun v n => { n with registrationTime := v }
  | .timezoneLocation => fun v n => { n with timezoneLocation := v }
  | .feeDistributorInitialised => fun v n => { n with feeDistributorInitialised := v }
  | .feeDistributorAddress => fun v n => { n with feeDistributorAddress := v }
  | .rewardNetwork => fun v n => { n with rewardNetwork := v }
  | .rplStake => fun v n => { n with rplStake := v }
  | .effectiveRplStake => fun v n => { n with effectiveRplStake := v }
  | .minimumRplStake => fun v n => { n with minimumRplStake := v }
  | .maximumRplStake => fun v n => { n with maximumRplStake := v }
  | .ethMatched => fun v n => { n with ethMatched := v }
  | .ethMatchedLimit => fun v n => { n with ethMatchedLimit := v }
  | .minipoolCount => fun v n => { n with minipoolCount := v }
  | .balanceReth => fun v n => { n with balanceReth := v }
  | .balanceRpl => fun v n => { n with balanceRpl := v }
  | .balanceOldRpl => fun v n => { n with balanceOldRpl := v }
  | .withdrawalAddress => fun v n => { n with withdrawalAddress := v }
  | .pendingWithdrawalAddress => fun v n => { n with pendingWithdrawalAddress := v }
  | .smoothingPoolRegistrationState => fun v n => { n with smoothingPoolRegistrationState := v }
  | .smoothingPoolRegistrationChanged =>
      fun v n => { n with smoothingPoolRegistrationChanged := v }
  | .depositCreditBalance => fun v n => { n with depositCreditBalance := v }
  | .collateralisationRatio => fun v n => { n with collateralisationRatio := v }

def field (g : NodeGetter) : FieldSpec Address Node := NodeField.row g.method g.target g.set

theorem table_eq : NodeField.table = all.map field := rfl

/-- What a contract returns for the field of a record. -/
def reply (g : NodeGetter) (n : Node) : Bytes := g.method.encodeResult (g.get n)

theorem decodeResult_reply (g : NodeGetter) {n : Node}
    (htext : (Bytes.ofString n.timezoneLocation).length ≤ Memory.limit) :
    g.method.decodeResult (g.reply n) = .ok (g.get n) := by
  cases g with
  | timezoneLocation => exact Abi.Method.decodeResult_string _ htext
  | _ => exact Abi.Method.decodeResult_encodeResult _ rfl _

end NodeGetter

/-- The functions of a minipool, in the order of the minipool table. -/
inductive MinipoolGetter where
  | nodeAddress
  | status
  | finalised
  | nodeFee
  | depositType
deriving DecidableEq

namespace MinipoolGetter

def all : List MinipoolGetter := [.nodeAddress, .status, .finalised, .nodeFee, .depositType]

theorem mem_all (g : MinipoolGetter) : g ∈ all := by
  cases g <;> decide

theorem nodup_all : all.Nodup := by
  decide

def output : MinipoolGetter → Abi.Ty
  | .nodeAddress => .address
  | .status | .depositType => .uint8
  | .finalised => .bool
  | .nodeFee => .uint256

def method : (g : MinipoolGetter) → Abi.Method [] g.output
  | .nodeAddress => MinipoolDelegate.getNodeAddress
  | .status => MinipoolDelegate.getStatus
  | .finalised => MinipoolDelegate.getFinalised
  | .nodeFee => MinipoolDelegate.getNodeFee
  | .depositType => MinipoolDelegate.getDepositType

/-- What a minipool returns for a field of its record. -/
def value : (g : MinipoolGetter) → Minipool → g.output.Value
  | .nodeAddress => Minipool.nodeAddress
  | .status => fun m => m.status.number
  | .finalised => Minipool.finalised
  | .nodeFee => Minipool.nodeFee
  | .depositType => fun m => m.depositType.number

/-- The record with the field of another one. -/
def copy : MinipoolGetter → Minipool → Minipool → Minipool
  | .nodeAddress => fun m r => { r with nodeAddress := m.nodeAddress }
  | .status => fun m r => { r with status := m.status }
  | .finalised => fun m r => { r with finalised := m.finalised }
  | .nodeFee => fun m r => { r with nodeFee := m.nodeFee }
  | .depositType => fun m r => { r with depositType := m.depositType }

def field : MinipoolGetter → FieldSpec Address Minipool
  | .nodeAddress =>
      MinipoolField.row MinipoolDelegate.getNodeAddress fun v m => { m with nodeAddress := v }
  | .status =>
      MinipoolField.numberRow MinipoolDelegate.getStatus MinipoolStatus.ofNumber
        fun v m => { m with status := v }
  | .finalised =>
      MinipoolField.row MinipoolDelegate.getFinalised fun v m => { m with finalised := v }
  | .nodeFee => MinipoolField.row MinipoolDelegate.getNodeFee fun v m => { m with nodeFee := v }
  | .depositType =>
      MinipoolField.numberRow MinipoolDelegate.getDepositType DepositType.ofNumber
        fun v m => { m with depositType := v }

theorem table_eq : MinipoolField.table = all.map field := rfl

theorem call_field (g : MinipoolGetter) (registry : Registry) (m : Address) :
    g.field.call registry m = g.method.call m () := by
  cases g <;> rfl

def reply (g : MinipoolGetter) (m : Minipool) : Bytes := g.method.encodeResult (g.value m)

theorem decodeResult_reply (g : MinipoolGetter) (m : Minipool) :
    g.method.decodeResult (g.reply m) = .ok (g.value m) := by
  cases g <;> exact Abi.Method.decodeResult_encodeResult _ rfl _

end MinipoolGetter

theorem MinipoolStatus.ofNumber_number (s : MinipoolStatus) : ofNumber s.number = .ok s := by
  cases s <;> rfl

theorem DepositType.ofNumber_number (t : DepositType) : ofNumber t.number = .ok t := by
  cases t <;> rfl

/-! ## Storing all fields -/

namespace Fetch

variable {κ ρ γ : Type}

theorem storeAll_cons_eq_ok {f : FieldSpec κ ρ} {fields : List (FieldSpec κ ρ)} {data : Bytes}
    {replies : List Bytes} {r r' : ρ} :
    storeAll (f :: fields) (data :: replies) r = .ok r' ↔
      ∃ m, f.store data r = .ok m ∧ storeAll fields replies m = .ok r' := by
  rw [storeAll]
  constructor
  · intro h
    cases hstore : f.storeNamed data r with
    | error e =>
        rw [hstore] at h
        cases h
    | ok m =>
        rw [hstore] at h
        exact ⟨m, (mapError_eq_ok _ _ _).mp hstore, h⟩
  · rintro ⟨m, hstore, hrest⟩
    have hnamed : f.storeNamed data r = .ok m := (mapError_eq_ok _ _ _).mpr hstore
    rw [hnamed]
    exact hrest

/-- Stores that each do their own step do all steps, one after the other. -/
theorem storeAll_map {fields : List γ} {field : γ → FieldSpec κ ρ} {reply : γ → Bytes}
    {step : γ → ρ → ρ} (h : ∀ g ∈ fields, ∀ r, (field g).store (reply g) r = .ok (step g r))
    (start : ρ) :
    storeAll (fields.map field) (fields.map reply) start =
      .ok (fields.foldl (fun r g => step g r) start) := by
  induction fields generalizing start with
  | nil => rfl
  | cons g fields ih =>
      refine storeAll_cons_eq_ok.mpr ⟨_, h g (List.mem_cons_self ..) start, ?_⟩
      exact ih (fun g' hg' => h g' (List.mem_cons_of_mem _ hg')) _

theorem store_ofMethod {inputs : List Abi.Ty} {output : Abi.Ty} {method : String}
    {m : Abi.Method inputs output} {target : Registry → κ → Address} {args : κ → Abi.Values inputs}
    {set : output.Value → ρ → ρ} {data : Bytes} {value : output.Value}
    (h : m.decodeResult data = .ok value) (r : ρ) :
    (FieldSpec.ofMethod method m target args set).store data r = .ok (set value r) := by
  dsimp only [FieldSpec.ofMethod]
  rw [h]

theorem store_numberRow {m : Abi.Method [] .uint8} {ofNumber : UInt8 → Except Error γ}
    {set : γ → Minipool → Minipool} {data : Bytes} {number : UInt8} {value : γ}
    (h : m.decodeResult data = .ok number) (hvalue : ofNumber number = .ok value) (r : Minipool) :
    (MinipoolField.numberRow m ofNumber set).store data r = .ok (set value r) := by
  dsimp only [MinipoolField.numberRow]
  rw [h]
  dsimp only
  rw [hvalue]
  rfl

/-- The record that the contracts hold of a node, with nothing that they do not hold. -/
def onChain (n : Node) : Node :=
  { n with
    balanceEth := 0
    distributorBalance := 0
    averageNodeFee := 0
    distributorBalanceUserEth := 0
    distributorBalanceNodeEth := 0 }

theorem storeAll_nodeTable {n : Node}
    (htext : (Bytes.ofString n.timezoneLocation).length ≤ Memory.limit) :
    storeAll NodeField.table (NodeGetter.all.map (·.reply n)) (.new n.address) =
      .ok (onChain n) := by
  have hstore : ∀ g ∈ NodeGetter.all, ∀ r,
      g.field.store (g.reply n) r = .ok (g.set (g.get n) r) := by
    intro g _ r
    exact store_ofMethod (g.decodeResult_reply htext) r
  rw [NodeGetter.table_eq, storeAll_map hstore]
  cases n
  rfl

theorem storeAll_minipoolTable (m : Minipool) :
    storeAll MinipoolField.table (MinipoolGetter.all.map (·.reply m)) (.new m.address) =
      .ok m := by
  have hstore : ∀ g ∈ MinipoolGetter.all, ∀ r,
      g.field.store (g.reply m) r = .ok (g.copy m r) := by
    intro g _ r
    have hdecode := g.decodeResult_reply m
    cases g with
    | status =>
        change MinipoolDelegate.getStatus.decodeResult _ = .ok m.status.number at hdecode
        rw [MinipoolGetter.field, store_numberRow hdecode (MinipoolStatus.ofNumber_number _) r]
        rfl
    | depositType =>
        change MinipoolDelegate.getDepositType.decodeResult _ = .ok m.depositType.number at hdecode
        rw [MinipoolGetter.field, store_numberRow hdecode (DepositType.ofNumber_number _) r]
        rfl
    | nodeAddress =>
        change MinipoolDelegate.getNodeAddress.decodeResult _ = .ok m.nodeAddress at hdecode
        rw [MinipoolGetter.field, MinipoolField.row, store_ofMethod hdecode r]
        rfl
    | finalised =>
        change MinipoolDelegate.getFinalised.decodeResult _ = .ok m.finalised at hdecode
        rw [MinipoolGetter.field, MinipoolField.row, store_ofMethod hdecode r]
        rfl
    | nodeFee =>
        change MinipoolDelegate.getNodeFee.decodeResult _ = .ok m.nodeFee at hdecode
        rw [MinipoolGetter.field, MinipoolField.row, store_ofMethod hdecode r]
        rfl
  rw [MinipoolGetter.table_eq, storeAll_map hstore]
  rfl

end Fetch

end StakeSnapshot
