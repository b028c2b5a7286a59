import StakeSnapshot.Request
import StakeSnapshot.Session
import StakeSnapshot.Simulation.Beacon
import StakeSnapshot.Simulation.Faults
import StakeSnapshot.Task.Schedule

/-!
# Worlds

Both chains in memory with a session, and how tasks are run on them: in order when nothing takes
time, and otherwise in time.
-/

namespace StakeSnapshot.Simulation

abbrev World := Surroundings FaultyProtocol BeaconChain

namespace World

def new (storage : Address) (config : BeaconConfig) (withMetrics : Bool) : World :=
  ⟨.new storage, .new config, .new withMetrics⟩

def service : Service Query World :=
  .ofChains FaultyProtocol.service BeaconChain.service

/-- How often a task is looked at before it is given up as stuck. -/
def patience : Nat := 1000000

/-- Runs a task on a number of permits. -/
def perform {α : Type} (permits : Nat) (t : Task Query α) (w : World) : Outcome α × World :=
  if w.execution.protocol.chain.batchDelay = 0 then t.run service w
  else (t.schedule service permits patience w).getD (t.run service w)

/-- Changes the deployment and its faults. -/
def updateFaults (f : FaultyProtocol → FaultyProtocol) (w : World) : World :=
  { w with execution := f w.execution }

/-- Changes the deployment. -/
def update (f : Protocol → Protocol) (w : World) : World :=
  w.updateFaults fun e => { e with protocol := f e.protocol }

/-- Changes what the chain in memory was told. -/
def updateChain (f : ExecutionChain → ExecutionChain) (w : World) : World :=
  w.update fun p => { p with chain := f p.chain }

/-- Changes the beacon chain. -/
def updateBeacon (f : BeaconChain → BeaconChain) (w : World) : World :=
  { w with beacon := f w.beacon }

/-- Withdraws the permits. -/
def closePermits (w : World) : World :=
  { w with session := { w.session with closed := true } }

/-- The contracts of the deployment. -/
def registry (w : World) : Registry := w.execution.protocol.registry

/-- The metrics that are kept, or those of a session that has done nothing. -/
def metrics (w : World) : Metrics := w.session.metrics.getD .zero

/-- The requests since the last time, as sorted lines. -/
def takeLog (w : World) : List String × World :=
  ((w.execution.log.map Request.text).mergeSort (· ≤ ·),
    { w with execution := { w.execution with log := [] } })

end World

end StakeSnapshot.Simulation
