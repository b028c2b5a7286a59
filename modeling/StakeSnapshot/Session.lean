import StakeSnapshot.Metrics
import StakeSnapshot.Query

/-!
# Sessions

What stays from one request to the next: the beacon configuration once it has been read, the
metrics, and whether permits are still given out.
-/

namespace StakeSnapshot

structure Session where
  config : Option BeaconConfig
  /-- The metrics, if any are kept. -/
  metrics : Option Metrics
  /-- Whether the shared permits have been withdrawn. -/
  closed : Bool

namespace Session

/-- A new session, with or without metrics. -/
def new (withMetrics : Bool) : Session :=
  ⟨none, if withMetrics then some .zero else none, false⟩

def countBatch (s : Session) : Session :=
  { s with metrics := s.metrics.map (·.countBatches 1) }

def recordSnapshot (s : Session) (snapshot : Snapshot) : Session :=
  { s with metrics := s.metrics.map (·.recordSnapshot snapshot) }

/-- The answer to a question, and the session after it. -/
def answer : {α : Type} → SessionQuery α → Session → α × Session
  | _, .knownConfig, s => (s.config, s)
  | _, .rememberConfig config, s => ((), { s with config := some config })
  | _, .countBatch, s => ((), s.countBatch)
  | _, .recordSnapshot snapshot, s => ((), s.recordSnapshot snapshot)

/-- What a task that wants a permit is told. -/
def permit (s : Session) : Outcome Unit :=
  if s.closed then .error (.error (.of .sourceUnavailable "request permits closed")) else .ok ()

end Session

/-- The two chains and the session, each with its own state. -/
structure Surroundings (ε β : Type) where
  execution : ε
  beacon : β
  session : Session

/-- The service that puts each question where it belongs. -/
def Service.ofChains {ε β : Type} (execution : Service ExecutionQuery ε)
    (beacon : Service BeaconQuery β) : Service Query (Surroundings ε β) where
  accept
    | .execution q, s =>
      let (state, delay) := execution.accept q s.execution
      ({ s with execution := state }, delay)
    | .beacon q, s =>
      let (state, delay) := beacon.accept q s.beacon
      ({ s with beacon := state }, delay)
    | .session _, s => (s, 0)
  answer
    | .execution q, s =>
      let (r, state) := execution.answer q s.execution
      (r, { s with execution := state })
    | .beacon q, s =>
      let (r, state) := beacon.answer q s.beacon
      (r, { s with beacon := state })
    | .session q, s =>
      let (a, session) := s.session.answer q
      (.ok a, { s with session })
  permit s := s.session.permit

end StakeSnapshot
