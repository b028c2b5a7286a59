import StakeSnapshot.Proofs.Questions
import StakeSnapshot.Proofs.Task.Steady
import StakeSnapshot.Session

/-!
# Chains that keep to their answers

What both chains and the session answer, when the answers depend on the question alone (`Answers`),
and what it means for such answers that many questions at once are answered as the single ones are.
-/

namespace StakeSnapshot

/-- The answers of the two chains, and the beacon configuration that the session knows. -/
structure Answers where
  execution : {α : Type} → ExecutionQuery α → Outcome α
  beacon : {α : Type} → BeaconQuery α → Outcome α
  known : Option BeaconConfig

/-- A batch of calls is answered by the answers to the calls, in order, and fails if a call does. -/
def ExecutionQuery.BatchesCalls (answers : {α : Type} → ExecutionQuery α → Outcome α) : Prop :=
  ∀ calls block replies, answers (.batchCall calls block) = .ok replies ↔
    List.Forall₂ (fun call data => answers (.call call block) = .ok data) calls replies

/-- A question for many balances is answered by the balances, in order, and fails if one does. -/
def ExecutionQuery.BatchesBalances (answers : {α : Type} → ExecutionQuery α → Outcome α) : Prop :=
  ∀ accounts block amounts, answers (.bulkBalances accounts block) = .ok amounts ↔
    List.Forall₂ (fun account amount => answers (.balance account block) = .ok amount) accounts
      amounts

/-- What a beacon chain answers that cannot be reached. -/
def BeaconQuery.unreachable {α : Type} (_ : BeaconQuery α) : Outcome α :=
  .error (.error (.bare .sourceUnavailable))

/-- What a beacon chain says on which only slot 7 has a block. -/
def BeaconQuery.sample : {α : Type} → BeaconQuery α → Outcome α
  | _, .config => .ok ⟨0, 12, 32⟩
  | _, .head => .ok ⟨0⟩
  | _, .block slot => .ok (if slot = 7 then some ⟨7, 0, some 7⟩ else none)

namespace Answers

variable (a : Answers)

/-- The answer to a question. What the session is told, it takes without comment. -/
def query : {α : Type} → Query α → Outcome α
  | _, .execution q => a.execution q
  | _, .beacon q => a.beacon q
  | _, .session .knownConfig => .ok a.known
  | _, .session (.rememberConfig _) => .ok ()
  | _, .session .countBatch => .ok ()
  | _, .session (.recordSnapshot _) => .ok ()

@[simp] theorem query_execution {α : Type} (q : ExecutionQuery α) :
    a.query (.execution q) = a.execution q := rfl

@[simp] theorem query_countBatch : a.query (.session .countBatch) = .ok () := rfl

end Answers

end StakeSnapshot
