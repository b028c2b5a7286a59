import StakeSnapshot.Error

/-!
# Minipools

A minipool is a validator contract that belongs to a node. Its status and deposit type are stored
as numbers from zero to four.
-/

namespace StakeSnapshot

inductive MinipoolStatus where
  | initialised
  | prelaunch
  | staking
  | withdrawable
  | dissolved
deriving DecidableEq

namespace MinipoolStatus

def all : List MinipoolStatus := [.initialised, .prelaunch, .staking, .withdrawable, .dissolved]

def name : MinipoolStatus → String
  | .initialised => "Initialised"
  | .prelaunch => "Prelaunch"
  | .staking => "Staking"
  | .withdrawable => "Withdrawable"
  | .dissolved => "Dissolved"

instance : JsonForm MinipoolStatus := JsonForm.ofNames all name

/-- The number in the contract. -/
def number : MinipoolStatus → UInt8
  | .initialised => 0
  | .prelaunch => 1
  | .staking => 2
  | .withdrawable => 3
  | .dissolved => 4

/-- The status with the given number. -/
def ofNumber (n : UInt8) : Except Error MinipoolStatus :=
  match n with
  | 0 => .ok .initialised
  | 1 => .ok .prelaunch
  | 2 => .ok .staking
  | 3 => .ok .withdrawable
  | 4 => .ok .dissolved
  | n => fail .decodeMismatch s!"minipool status {n}"

end MinipoolStatus

/-- What a minipool was created with. -/
inductive DepositType where
  | none
  | full
  | half
  | empty
  | variableBond
deriving DecidableEq

namespace DepositType

def all : List DepositType := [.none, .full, .half, .empty, .variableBond]

def name : DepositType → String
  | .none => "None"
  | .full => "Full"
  | .half => "Half"
  | .empty => "Empty"
  | .variableBond => "Variable"

instance : JsonForm DepositType := JsonForm.ofNames all name

/-- The number in the contract. -/
def number : DepositType → UInt8
  | .none => 0
  | .full => 1
  | .half => 2
  | .empty => 3
  | .variableBond => 4

/-- The deposit type with the given number. -/
def ofNumber (n : UInt8) : Except Error DepositType :=
  match n with
  | 0 => .ok .none
  | 1 => .ok .full
  | 2 => .ok .half
  | 3 => .ok .empty
  | 4 => .ok .variableBond
  | n => fail .decodeMismatch s!"deposit type {n}"

end DepositType

/-- The state of one minipool. -/
structure Minipool where
  /-- The address of the minipool's own contract. -/
  address : Address
  /-- The node that owns it. -/
  nodeAddress : Address
  status : MinipoolStatus
  /-- Whether the owner has finalised it after the withdrawal. -/
  finalised : Bool
  /-- The commission on the users' part of the rewards, in fixed point. -/
  nodeFee : Amount
  depositType : DepositType
deriving DecidableEq

namespace Minipool

/-- A record of which only the address is known. -/
def new (address : Address) : Minipool :=
  ⟨address, .zero, .initialised, false, 0, .none⟩

/-- Whether the minipool counts towards the average fee of its node. -/
def isFeeEligible (m : Minipool) : Bool :=
  m.status = .staking && !m.finalised

instance : RecordForm Minipool where
  blank := new .zero
  fields :=
    [.required "minipool_address" address fun v m => { m with address := v },
      .required "node_address" nodeAddress fun v m => { m with nodeAddress := v },
      .required "status" status fun v m => { m with status := v },
      .required "finalised" finalised fun v m => { m with finalised := v },
      .required "node_fee" nodeFee fun v m => { m with nodeFee := v },
      .required "deposit_type" depositType fun v m => { m with depositType := v }]

end Minipool

end StakeSnapshot
