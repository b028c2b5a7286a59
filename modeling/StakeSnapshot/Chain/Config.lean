import StakeSnapshot.Count
import StakeSnapshot.Error

/-!
# The timing of the beacon chain

Slots follow each other from the genesis time on, and a fixed number of them makes an epoch. Both
functions below are in 64 bit arithmetic and end in a fault when a step of it does.
-/

namespace StakeSnapshot

structure BeaconConfig where
  /-- The time of slot 0. -/
  genesisTime : UInt64
  secondsPerSlot : UInt64
  slotsPerEpoch : UInt64
deriving DecidableEq

namespace BeaconConfig

instance : RecordForm BeaconConfig where
  blank := ⟨0, 0, 0⟩
  fields :=
    [.required "genesis_time" genesisTime fun v c => { c with genesisTime := v },
      .required "seconds_per_slot" secondsPerSlot fun v c => { c with secondsPerSlot := v },
      .required "slots_per_epoch" slotsPerEpoch fun v c => { c with slotsPerEpoch := v }]

/-- The configuration as messages show it. -/
def text (config : BeaconConfig) : String :=
  "BeaconConfig \x7b genesis_time: " ++ toString config.genesisTime ++ ", seconds_per_slot: "
    ++ toString config.secondsPerSlot ++ ", slots_per_epoch: " ++ toString config.slotsPerEpoch
    ++ " \x7d"

/-- The slot that contains a time. Times before genesis belong to slot 0. -/
def slotAt (config : BeaconConfig) (time : UInt64) : Except Fault UInt64 :=
  if config.secondsPerSlot = 0 then .error .divideByZero
  else .ok (Count.monus time config.genesisTime / config.secondsPerSlot)

/-- The last slot of an epoch: the product of the epoch with the slots of an epoch, and then all
slots of that epoch but one. -/
def lastSlotOfEpoch (config : BeaconConfig) (epoch : UInt64) : Except Fault UInt64 :=
  match Count.mul? epoch config.slotsPerEpoch with
  | none => .error .multiplyOverflow
  | some first =>
    match Count.sub? config.slotsPerEpoch 1 with
    | none => .error .subtractOverflow
    | some rest =>
      match Count.add? first rest with
      | none => .error .addOverflow
      | some slot => .ok slot

end BeaconConfig

end StakeSnapshot
