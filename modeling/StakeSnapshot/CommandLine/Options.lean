import StakeSnapshot.Http.Remote
import StakeSnapshot.Request

/-!
# Options

Every option has a long name and a variable of the environment that stands in for it. The options
come in groups: for the execution chain, for the beacon chain, for how requests are carried out, and
for what is printed. A draft collects what has been given.
-/

namespace StakeSnapshot.CommandLine

/-- Where the execution chain is reached, and which contracts are asked. -/
structure ExecutionOptions where
  url : Http.Url
  storage : Address
  multicall : Address
  balanceBatcher : Address
deriving DecidableEq

/-- Where the beacon chain is reached, and after how many seconds a request to it is given up. -/
structure BeaconOptions where
  url : Http.Url
  timeoutSecs : UInt64
deriving DecidableEq

/-- What has been given. A field that has no usual value may be missing. -/
structure Draft where
  executionUrl : Option Http.Url
  storage : Option Address
  multicall : Address
  balanceBatcher : Option Address
  beaconUrl : Option Http.Url
  beaconTimeoutSecs : UInt64
  settings : Settings
  printMetrics : Bool

namespace Draft

/-- Where the contract that makes many calls in one is found on most chains. -/
def usualMulticall : Address := .ofNat 0xcA11bde05977b3631167028862bE2a173976CA11

/-- The usual values. -/
def usual : Draft := ⟨none, none, usualMulticall, none, none, 10, .default, false⟩

def execution? (d : Draft) : Option ExecutionOptions := do
  some ⟨← d.executionUrl, ← d.storage, d.multicall, ← d.balanceBatcher⟩

def beacon? (d : Draft) : Option BeaconOptions := do
  some ⟨← d.beaconUrl, d.beaconTimeoutSecs⟩

end Draft

/-- An option of the command line. -/
structure OptionSpec where
  /-- The name, without the dashes. -/
  name : String
  /-- The variable that is read if the option is not given. -/
  variableName : String
  /-- Whether the option is followed by a value. -/
  takesValue : Bool
  /-- Whether the option has to be given. -/
  isRequired : Bool
  /-- Puts the value of a text into a draft. -/
  store : String → Draft → Option Draft

namespace OptionSpec

/-- An option with a value. -/
def valued {α : Type} (name variableName : String) (isRequired : Bool) (read? : String → Option α)
    (set : α → Draft → Draft) : OptionSpec where
  name := name
  variableName := "STAKING_STATE_" ++ variableName
  takesValue := true
  isRequired := isRequired
  store text d := (read? text).map (set · d)

/-- The text of a truth value. -/
def bool? : String → Option Bool
  | "true" => some true
  | "false" => some false
  | _ => none

/-- An option that is given or not. -/
def flag (name variableName : String) (set : Bool → Draft → Draft) : OptionSpec :=
  { valued name variableName false bool? set with takesValue := false }

def executionGroup : List OptionSpec :=
  [valued "el-url" "EL_URL" true Http.Url.ofText? fun v d => { d with executionUrl := some v },
    valued "storage-address" "STORAGE_ADDRESS" true Address.ofText?
      fun v d => { d with storage := some v },
    valued "multicall-address" "MULTICALL_ADDRESS" false Address.ofText?
      fun v d => { d with multicall := v },
    valued "balance-batcher-address" "BALANCE_BATCHER_ADDRESS" true Address.ofText?
      fun v d => { d with balanceBatcher := some v }]

def beaconGroup : List OptionSpec :=
  [valued "beacon-url" "BEACON_URL" true Http.Url.ofText?
      fun v d => { d with beaconUrl := some v },
    valued "beacon-timeout-secs" "BEACON_TIMEOUT_SECS" false countOfText?
      fun v d => { d with beaconTimeoutSecs := v }]

def settingsGroup : List OptionSpec :=
  [valued "concurrency" "CONCURRENCY" false countOfText?
      fun v d => { d with settings := { d.settings with concurrency := v } },
    valued "max-slot-lookback" "MAX_SLOT_LOOKBACK" false countOfText?
      fun v d => { d with settings := { d.settings with maxSlotLookback := v } },
    valued "request-timeout-secs" "REQUEST_TIMEOUT_SECS" false countOfText?
      fun v d => { d with settings := { d.settings with requestTimeoutSecs := v } }]

def outputGroup : List OptionSpec :=
  [flag "print-metrics" "PRINT_METRICS" fun v d => { d with printMetrics := v }]

def all : List OptionSpec := executionGroup ++ beaconGroup ++ settingsGroup ++ outputGroup

end OptionSpec

end StakeSnapshot.CommandLine
