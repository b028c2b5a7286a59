import StakeSnapshot.Proofs.Fetch.Records
import StakeSnapshot.Simulation.Beacon
import StakeSnapshot.Simulation.Chain

/-!
# The chains in memory keep to their answers

What a chain in memory answers depends on nothing that a question changes: only the counts of
questions move. On the execution chain a batch is answered by the replies to its calls, and a read
of many balances by the balances, so everything that is known of such chains applies to it.
-/

namespace StakeSnapshot.Simulation

namespace ExecutionChain

variable (chain : ExecutionChain)

def answers {α : Type} (q : ExecutionQuery α) : Outcome α := (answer q chain).1

/-- The chain, but for what has been counted. -/
def Recounts (other : ExecutionChain) : Prop := ∃ counts, other = { chain with counts }

theorem recounts_self : chain.Recounts chain := ⟨chain.counts, rfl⟩

theorem service_steady : service.Steady chain.answers (fun _ => True) chain.Recounts where
  accept q _ _ := by
    rintro ⟨counts, rfl⟩
    cases q with
    | latestBlock => exact ⟨counts, rfl⟩
    | call | balance => exact ⟨counts.single, rfl⟩
    | batchCall => exact ⟨counts.batchStarted, rfl⟩
    | bulkBalances => exact ⟨counts.bulk, rfl⟩
  outcome q _ _ := by
    rintro ⟨counts, rfl⟩
    cases q with
    | latestBlock =>
        dsimp only [service, answers, answer]
        cases chain.latest <;> rfl
    | call | batchCall | balance | bulkBalances => rfl
  answer q _ _ := by
    rintro ⟨counts, rfl⟩
    cases q with
    | latestBlock =>
        refine ⟨counts, ?_⟩
        dsimp only [service, answer]
        cases chain.latest <;> rfl
    | batchCall => exact ⟨counts.batchEnded, rfl⟩
    | call | balance | bulkBalances => exact ⟨counts, rfl⟩

/-! ## Many questions at once -/

theorem answers_call (call : ContractCall) (block : UInt64) (data : Bytes) :
    chain.answers (.call call block) = .ok data ↔ chain.respond call = .ok data :=
  mapError_eq_ok _ _ _

theorem batchesCalls : ExecutionQuery.BatchesCalls chain.answers := by
  intro calls block replies
  simp only [answers_call]
  exact (mapError_eq_ok _ _ _).trans (mapM_eq_ok chain.respond calls replies)

theorem batchesBalances : ExecutionQuery.BatchesBalances chain.answers := by
  intro accounts block amounts
  simp only [answers, answer, Except.ok.injEq]
  rw [← List.forall₂_map_left_iff (R := (· = ·)), List.forall₂_eq_eq_eq]

/-! ## Single questions -/

variable {chain}

theorem respond_of_failing {call : ContractCall} (h : call ∈ chain.failing) :
    chain.respond call =
      fail .sourceUnavailable s!"simulated failure calling {call.target.checksum}" :=
  if_pos (Std.HashSet.contains_iff_mem.mpr h)

theorem respond_of_reply {call : ContractCall} {data : Bytes} (hfailing : call ∉ chain.failing)
    (h : chain.replies[call]? = some data) : chain.respond call = .ok data := by
  rw [respond, if_neg (Std.HashSet.contains_iff_mem.not.mpr hfailing), h]

/-- How a call is answered depends on its reply and on whether it fails. -/
theorem respond_congr {other : ExecutionChain} {call : ContractCall}
    (hfailing : call ∈ other.failing ↔ call ∈ chain.failing)
    (h : other.replies[call]? = chain.replies[call]?) :
    other.respond call = chain.respond call := by
  have contains : other.failing.contains call = chain.failing.contains call := by
    rwa [Bool.eq_iff_iff, Std.HashSet.contains_iff_mem, Std.HashSet.contains_iff_mem]
  rw [respond, respond, contains, h]

/-- A call that is not answered is unavailable, for whatever reason. -/
theorem kind_of_respond {call : ContractCall} {e : Error} (h : chain.respond call = .error e) :
    e.kind = .sourceUnavailable := by
  unfold respond at h
  split at h
  · cases h
    rfl
  · split at h <;> cases h
    rfl

end ExecutionChain

namespace BeaconChain

variable (chain : BeaconChain)

def answers {α : Type} (q : BeaconQuery α) : Outcome α := (answer q chain).1

/-- The chain, but for what it has been asked. -/
def Recounts (other : BeaconChain) : Prop :=
  ∃ configRequests queried, other = { chain with configRequests, queried }

theorem service_steady : service.Steady chain.answers (fun _ => True) chain.Recounts where
  accept _ _ _ h := h
  outcome q _ _ := by
    rintro ⟨n, slots, rfl⟩
    cases q <;> rfl
  answer q _ _ := by
    rintro ⟨n, slots, rfl⟩
    cases q with
    | config => exact ⟨n + 1, slots, rfl⟩
    | head => exact ⟨n, slots, rfl⟩
    | block slot => exact ⟨n, slot :: slots, rfl⟩

end BeaconChain

end StakeSnapshot.Simulation
