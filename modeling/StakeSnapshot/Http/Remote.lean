import StakeSnapshot.Http.BeaconApi
import StakeSnapshot.Http.ExecutionApi

/-!
# Both chains over the web

A task over the two chains becomes a task over requests to their servers. What it asks at once, what
needs a permit and what has a time limit stay as they are.
-/

namespace StakeSnapshot.Http

/-- Where the two chains are reached. -/
structure Endpoints where
  execution : Url
  beacon : Url
  helpers : HelperContracts
deriving DecidableEq

namespace Endpoints

/-- A question, put to the server that has the answer. -/
def ask (e : Endpoints) : {α : Type} → Query α → Task Exchange α
  | _, .execution q => ExecutionApi.ask e.execution e.helpers q
  | _, .beacon q => BeaconApi.ask e.beacon q
  | _, .session q => .ask (.session q)

/-- A task, put to the servers. -/
def overWeb {α : Type} (e : Endpoints) (t : Task Query α) : Task Exchange α := t.substitute e.ask

end Endpoints

end StakeSnapshot.Http
