import StakeSnapshot.Pool.Minipool
import StakeSnapshot.Pool.Shares

/-!
# Node operators

The record of a node at one block: what the contracts and balances say about it, and three fields
derived from its minipools. `Node.settle` computes the derived fields; `Node.bonusEligibility` and
`Node.wasOptedInAt` tell when the node took part in the smoothing pool.
-/

namespace StakeSnapshot

structure Node where
  registered : Bool
  registrationTime : Amount
  timezoneLocation : String
  feeDistributorInitialised : Bool
  feeDistributorAddress : Address
  rewardNetwork : Amount
  rplStake : Amount
  /-- The stake that counts towards rewards. -/
  effectiveRplStake : Amount
  minimumRplStake : Amount
  maximumRplStake : Amount
  ethMatched : Amount
  ethMatchedLimit : Amount
  minipoolCount : Amount
  balanceEth : Amount
  balanceReth : Amount
  balanceRpl : Amount
  balanceOldRpl : Amount
  depositCreditBalance : Amount
  withdrawalAddress : Address
  pendingWithdrawalAddress : Address
  smoothingPoolRegistrationState : Bool
  /-- When the node last joined or left the smoothing pool, or zero if it never joined. -/
  smoothingPoolRegistrationChanged : Amount
  address : Address
  /-- The ratio of all capital in the node's minipools to the node's own, in fixed point. -/
  collateralisationRatio : Amount
  /-- What the fee distributor of the node holds. -/
  distributorBalance : Amount
  /-- The mean fee of the node's minipools that are eligible for one. -/
  averageNodeFee : Amount
  /-- The users' share of the distributor's balance. -/
  distributorBalanceUserEth : Amount
  /-- The node's share of the distributor's balance. -/
  distributorBalanceNodeEth : Amount
deriving DecidableEq

/-- Whether a node earns a bonus in an interval, and in which part of it. -/
structure BonusEligibility where
  eligible : Bool
  start : UInt64
  stop : UInt64
deriving DecidableEq

instance : RecordForm BonusEligibility where
  blank := ⟨false, 0, 0⟩
  fields :=
    [.required "eligible" (·.eligible) fun v b => { b with eligible := v },
      .required "start" (·.start) fun v b => { b with start := v },
      .required "end" (·.stop) fun v b => { b with stop := v }]

namespace Node

/-- A record of which only the address is known. -/
def new (address : Address) : Node where
  registered := false
  registrationTime := 0
  timezoneLocation := ""
  feeDistributorInitialised := false
  feeDistributorAddress := .zero
  rewardNetwork := 0
  rplStake := 0
  effectiveRplStake := 0
  minimumRplStake := 0
  maximumRplStake := 0
  ethMatched := 0
  ethMatchedLimit := 0
  minipoolCount := 0
  balanceEth := 0
  balanceReth := 0
  balanceRpl := 0
  balanceOldRpl := 0
  depositCreditBalance := 0
  withdrawalAddress := .zero
  pendingWithdrawalAddress := .zero
  smoothingPoolRegistrationState := false
  smoothingPoolRegistrationChanged := 0
  address := address
  collateralisationRatio := 0
  distributorBalance := 0
  averageNodeFee := 0
  distributorBalanceUserEth := 0
  distributorBalanceNodeEth := 0

instance : RecordForm Node where
  blank := new .zero
  fields :=
    [.required "exists" registered fun v n => { n with registered := v },
      .required "registration_time" registrationTime fun v n => { n with registrationTime := v },
      .required "timezone_location" timezoneLocation fun v n => { n with timezoneLocation := v },
      .required "fee_distributor_initialised" feeDistributorInitialised
        fun v n => { n with feeDistributorInitialised := v },
      .required "fee_distributor_address" feeDistributorAddress
        fun v n => { n with feeDistributorAddress := v },
      .required "reward_network" rewardNetwork fun v n => { n with rewardNetwork := v },
      .required "rpl_stake" rplStake fun v n => { n with rplStake := v },
      .required "effective_rpl_stake" effectiveRplStake
        fun v n => { n with effectiveRplStake := v },
      .required "minimum_rpl_stake" minimumRplStake fun v n => { n with minimumRplStake := v },
      .required "maximum_rpl_stake" maximumRplStake fun v n => { n with maximumRplStake := v },
      .required "eth_matched" ethMatched fun v n => { n with ethMatched := v },
      .required "eth_matched_limit" ethMatchedLimit fun v n => { n with ethMatchedLimit := v },
      .required "minipool_count" minipoolCount fun v n => { n with minipoolCount := v },
      .required "balance_eth" balanceEth fun v n => { n with balanceEth := v },
      .required "balance_reth" balanceReth fun v n => { n with balanceReth := v },
      .required "balance_rpl" balanceRpl fun v n => { n with balanceRpl := v },
      .required "balance_old_rpl" balanceOldRpl fun v n => { n with balanceOldRpl := v },
      .required "deposit_credit_balance" depositCreditBalance
        fun v n => { n with depositCreditBalance := v },
      .required "withdrawal_address" withdrawalAddress
        fun v n => { n with withdrawalAddress := v },
      .required "pending_withdrawal_address" pendingWithdrawalAddress
        fun v n => { n with pendingWithdrawalAddress := v },
      .required "smoothing_pool_registration_state" smoothingPoolRegistrationState
        fun v n => { n with smoothingPoolRegistrationState := v },
      .required "smoothing_pool_registration_changed" smoothingPoolRegistrationChanged
        fun v n => { n with smoothingPoolRegistrationChanged := v },
      .required "node_address" address fun v n => { n with address := v },
      .required "collateralisation_ratio" collateralisationRatio
        fun v n => { n with collateralisationRatio := v },
      .required "distributor_balance" distributorBalance
        fun v n => { n with distributorBalance := v },
      .required "average_node_fee" averageNodeFee fun v n => { n with averageNodeFee := v },
      .required "distributor_balance_user_eth" distributorBalanceUserEth
        fun v n => { n with distributorBalanceUserEth := v },
      .required "distributor_balance_node_eth" distributorBalanceNodeEth
        fun v n => { n with distributorBalanceNodeEth := v }]

/-- An effective stake below the minimum counts as none. -/
def fixEffectiveStake (n : Node) : Node :=
  if n.effectiveRplStake < n.minimumRplStake then { n with effectiveRplStake := 0 } else n

/-! ## The smoothing pool -/

/-- When the node last joined or left the smoothing pool. -/
def registrationChangedTime (n : Node) : UInt64 :=
  n.smoothingPoolRegistrationChanged.saturate

/-- The part of the interval from `start` to before `stop` in which the node earns a bonus. A node
that left earns one up to the time it left. -/
def bonusEligibility (n : Node) (start stop : UInt64) : BonusEligibility :=
  let changed := n.registrationChangedTime
  if changed = 0 then ⟨false, 0, 0⟩
  else if n.smoothingPoolRegistrationState then
    ⟨changed < stop, max changed start, stop⟩
  else
    ⟨changed < stop, max changed start, min changed stop⟩

/-- Whether the node was in the smoothing pool at a time. -/
def wasOptedInAt (n : Node) (time : UInt64) : Bool :=
  let changed := n.registrationChangedTime
  if n.smoothingPoolRegistrationState then changed < time
  else if changed = 0 then false
  else time < changed

/-! ## Fees and shares -/

/-- The mean fee of the eligible minipools, if there are any. Their sum wraps. -/
def averageFee (minipools : List Minipool) : Option Amount :=
  match minipools.filter Minipool.isFeeEligible with
  | [] => none
  | eligible =>
    let total := eligible.foldl (fun sum m => sum + m.nodeFee) (0 : Amount)
    some (total / BitVec.ofNat 256 eligible.length)

/-- The shares of the node's distributor balance, given the node's minipools. -/
def shares (n : Node) (minipools : List Minipool) : Except Error Shares :=
  (Shares.split n.distributorBalance n.collateralisationRatio (averageFee minipools)).mapError
    (Error.context s!"node {n.address.checksum}")

/-- The record with the mean fee of the node's minipools, unless none is eligible. -/
def recordAverageFee (n : Node) (minipools : List Minipool) : Node :=
  match averageFee minipools with
  | some fee => { n with averageNodeFee := fee }
  | none => n

/-- The record with its derived fields, given the node's minipools, and whether the balance could
be split. The mean fee is recorded before the balance is split, and stays when that fails. -/
def settle (n : Node) (minipools : List Minipool) : Node × Except Error Unit :=
  let n := n.recordAverageFee minipools
  match n.shares minipools with
  | .ok s =>
    ({ n with distributorBalanceNodeEth := s.node, distributorBalanceUserEth := s.user }, .ok ())
  | .error e => (n, .error e)

/-- The record with its derived fields, if the balance could be split. -/
def settled (n : Node) (minipools : List Minipool) : Except Error Node :=
  match n.settle minipools with
  | (n, .ok ()) => .ok n
  | (_, .error e) => .error e

end Node

end StakeSnapshot
