import StakeSnapshot.Proofs.Fetch.Selectors
import StakeSnapshot.Proofs.Session.Meters
import StakeSnapshot.Proofs.SingleNode
import StakeSnapshot.Proofs.Task.Change

/-!
# A contract call that fails

A request for a snapshot makes many calls, some of them in the batches of a fetch. If a single one
of them fails, exactly the requests that make it fail: with a partial fetch failure if the call is
made in a batch of a fetch, and else with the kind of the error that the call has failed with. The
message of that error stays a part of the message in the end (`SnapshotRequest.failing_call`).
-/

namespace StakeSnapshot

open StakeSnapshot.Task

/-! ## The calls of a request -/

/-- Calls that are made with one question. -/
structure CallsMade where
  calls : List ContractCall
  block : UInt64
  /-- Whether they are a batch of a fetch. -/
  fetched : Bool

namespace CallsMade

/-- The call at a block is one of these. -/
def Include (made : CallsMade) (call : ContractCall) (block : UInt64) : Prop :=
  call ∈ made.calls ∧ made.block = block

instance (made : CallsMade) (call : ContractCall) (block : UInt64) :
    Decidable (made.Include call block) :=
  inferInstanceAs (Decidable (_ ∧ _))

/-- The calls are made in the way in which the plan says. -/
def Keeps (plan : CallPlan) (made : CallsMade) : Prop :=
  ∀ call ∈ made.calls, call.selector ∈ if made.fetched then plan.batched else plan.single

/-- A call is made in one way only. -/
theorem Keeps.fetched_eq {plan : CallPlan} {made made' : CallsMade} (h : made.Keeps plan)
    (h' : made'.Keeps plan) {call : ContractCall} (hcall : call ∈ made.calls)
    (hcall' : call ∈ made'.calls) : made.fetched = made'.fetched := by
  have hmade := h call hcall
  have hmade' := h' call hcall'
  have disjoint := plan.disjoint call.selector
  cases hfetched : made.fetched <;> cases hfetched' : made'.fetched <;> simp_all

end CallsMade

/-- The calls that a question makes. A batch of calls is one of a fetch, unless it is the lookup of
the contract addresses. -/
def Query.callsMade? : {α : Type} → Query α → Option CallsMade
  | _, .execution (.call call block) => some ⟨[call], block, false⟩
  | _, .execution (.batchCall calls block) =>
    some ⟨calls, block, !(ExecutionQuery.batchCall calls block).isLookup⟩
  | _, _ => none

/-! ## A client that fails a call -/

namespace ExecutionQuery

/-- A batch of calls is answered by the answers to the calls, in order, or by the first failure. -/
def BatchesInOrder (answers : {α : Type} → ExecutionQuery α → Outcome α) : Prop :=
  ∀ calls block,
    answers (.batchCall calls block) = calls.mapM fun call => answers (.call call block)

/-- The answers when one call at one block fails, alone or in a batch. -/
def failing (answers : {α : Type} → ExecutionQuery α → Outcome α) (call : ContractCall)
    (block : UInt64) (e : Error) : {α : Type} → ExecutionQuery α → Outcome α
  | _, .call c b => if c = call ∧ b = block then .error (.error e) else answers (.call c b)
  | _, .batchCall calls b =>
    calls.mapM fun c =>
      if c = call ∧ b = block then .error (.error e) else answers (.call c b)
  | _, q => answers q

end ExecutionQuery

/-- An error of the given kind, in whose message the message of `e` can be found. -/
def Failure.Reports (kind : ErrorKind) (e : Error) (failure : Failure) : Prop :=
  ∃ f : Error, failure = .error f ∧ f.kind = kind ∧
    ∃ before after, f.message = before ++ e.message ++ after

namespace Failure.Reports

variable {kind : ErrorKind} {e : Error} {failure : Failure}

theorem of_error (e : Error) : (Failure.error e).Reports e.kind e :=
  ⟨e, rfl, rfl, "", "", by rw [String.empty_append, String.append_empty]⟩

theorem context (h : failure.Reports kind e) (c : String) :
    (failure.mapError (Error.context c)).Reports kind e := by
  obtain ⟨f, rfl, hkind, before, after, hmessage⟩ := h
  refine ⟨f.context c, rfl, hkind, c ++ ": " ++ before, after, ?_⟩
  rw [Error.context, hmessage]
  simp only [String.append_assoc]

theorem partialFailure (h : failure.Reports kind e) :
    (failure.mapError Fetch.partialFailure).Reports .partialFetchFailure e := by
  obtain ⟨f, rfl, -, before, after, hmessage⟩ := h
  refine ⟨Fetch.partialFailure f, rfl, rfl, f.kind.text ++ ": " ++ before,
    after ++ ": " ++ ErrorKind.partialFetchFailure.message, ?_⟩
  rw [Fetch.partialFailure, Error.because, Error.context, Error.display, hmessage, Error.bare]
  simp only [String.append_assoc]

end Failure.Reports

namespace Answers

variable (a : Answers) (closed : Bool) (call : ContractCall) (block : UInt64) (e : Error)

/-- The same answers when one call fails. -/
def failing : Answers := { a with execution := ExecutionQuery.failing a.execution call block e }

/-- The change of the answers when one call fails, in the records of the calls that are made. -/
def failure : Change Query CallsMade where
  before := a.replies closed
  after := (a.failing call block e).replies closed
  note := Query.callsMade?
  affects made := made.Include call block
  permits hopen _ hclosed := Bool.noConfusion (hopen.symm.trans hclosed)

theorem replies_execution {α : Type} {q : ExecutionQuery α} {o : Outcome α} :
    (a.replies closed).answer (.execution q) o ↔ o = a.execution q :=
  or_self_iff

end Answers

theorem Answers.failing_query (a : Answers) {failed : ContractCall} {height : UInt64} {e : Error}
    {α : Type} {q : Query α} (hq : q.callsMade? = none) :
    (a.failing failed height e).query q = a.query q := by
  cases q with
  | execution q =>
      cases q with
      | call | batchCall => cases hq
      | _ => rfl
  | beacon q => rfl
  | session q => cases q <;> rfl

/-- If one of these calls fails with the error `e`, the failure that comes of it reports that error,
as one of the fetch or with its own kind. -/
def CallsMade.Causes (e : Error) (made : CallsMade) (failure : Failure) : Prop :=
  failure.Reports (if made.fetched then .partialFetchFailure else e.kind) e

/-! ## What feels the failure of a call -/

/-- The task makes its calls as the plan says, and feels it when one of them fails. -/
abbrev Task.FeelsCall (a : Answers) (closed : Bool) (failed : ContractCall) (height : UInt64)
    (e : Error) (plan : CallPlan) {α : Type} (t : Task Query α) : Prop :=
  t.Feels (a.failure closed failed height e) (CallsMade.Keeps plan) (CallsMade.Causes e)

section Feels

variable {a : Answers} {closed : Bool} {failed : ContractCall} {height : UInt64} {e : Error}
  {plan : CallPlan} {known : CallsMade → Prop} {cause : CallsMade → Failure → Prop}

theorem feels_call {call : ContractCall} {block : UInt64} (hknown : known ⟨[call], block, false⟩)
    (hcause : cause ⟨[call], block, false⟩ (.error e)) :
    (Task.ask (.execution (.call call block))).Feels (a.failure closed failed height e) known
      cause := by
  refine .ask (n := ⟨[call], block, false⟩) rfl hknown (fun hother v o hv ho => ?_)
    fun ⟨hcall, hblock⟩ v o hv ho => ?_
  · rw [Answers.failure, Answers.replies_execution] at hv ho
    rw [ho, hv]
    exact if_neg fun h => hother ⟨List.mem_singleton.mpr h.1.symm, h.2⟩
  · rw [Answers.failure, Answers.replies_execution] at ho
    exact ⟨.error e, ho.trans (if_pos ⟨(List.mem_singleton.mp hcall).symm, hblock⟩), hcause⟩

theorem feels_batchCall (hbatches : ExecutionQuery.BatchesInOrder a.execution)
    {calls : List ContractCall} {block : UInt64} {made : CallsMade}
    (hmade : Query.callsMade? (.execution (.batchCall calls block)) = some made)
    (hknown : known made) (hcause : cause made (.error e)) :
    (Task.ask (.execution (.batchCall calls block))).Feels (a.failure closed failed height e) known
      cause := by
  obtain rfl : made = ⟨calls, block, _⟩ := (Option.some.inj hmade).symm
  have changed {o : Outcome (List Bytes)} {v : List Bytes}
      (hv : (a.replies closed).answer (.execution (.batchCall calls block)) (.ok v))
      (ho : ((a.failing failed height e).replies closed).answer
        (.execution (.batchCall calls block)) o) :
      o = if failed ∈ calls ∧ block = height then .error (.error e) else .ok v := by
    rw [Answers.replies_execution] at hv ho
    have hv := hv.trans (hbatches calls block)
    rw [ho]
    by_cases hblock : block = height
    · simp only [hblock, and_true]
      rw [hblock] at hv
      refine mapM_failing (fun c => ?_) hv.symm
      simp only [and_true]
    · rw [if_neg fun h => hblock h.2, hv]
      exact congrArg (List.mapM · calls) (funext fun c => if_neg fun h => hblock h.2)
  refine .ask hmade hknown (fun hother v o hv ho => ?_) fun haffected v o hv ho => ?_
  · exact (changed hv ho).trans (if_neg hother)
  · exact ⟨.error e, (changed hv ho).trans (if_pos haffected), hcause⟩

/-- A question that makes no calls, and does not concern the configuration. -/
theorem feels_other {α : Type} {q : Query α} (hcalls : q.callsMade? = none)
    (hconfig : q.LeavesConfig) :
    (Task.ask q).Feels (a.failure closed failed height e) known cause := by
  refine .unrecorded hcalls fun v o hv ho => ?_
  have before : a.query q = .ok v :=
    hv.elim Eq.symm fun h => (Answers.learned_query hconfig).symm.trans h.symm
  have after : o = (a.failing failed height e).query q :=
    ho.elim id fun h => h.trans (Answers.learned_query hconfig)
  rw [after, a.failing_query hcalls, before]

theorem feels_read {inputs : List Abi.Ty} {output : Abi.Ty} (m : Abi.Method inputs output)
    (target : Address) (args : Abi.Values inputs) (block : UInt64) (hm : m.selector ∈ plan.single) :
    (read m target args block).FeelsCall a closed failed height e plan := by
  have answered : (Task.ask (.execution (.call (m.call target args) block))).FeelsCall a closed
      failed height e plan := by
    refine feels_call (fun c hc => ?_) (.of_error e)
    rw [List.mem_singleton.mp hc, m.selector_call]
    exact hm
  exact .bind (answered.mapError fun _ _ h => h.context _) fun _ => .done _

section Fetch

variable {κ ρ : Type} (registry : Registry) (block : UInt64)

theorem feels_fetch (hbatches : ExecutionQuery.BatchesInOrder a.execution) (init : κ → ρ)
    (hlookup : Contract.Storage.getAddress.selector ∈ plan.single) {fields : List (FieldSpec κ ρ)}
    (hfields : ∀ f ∈ fields, ∀ registry key, (f.call registry key).selector ∈ plan.batched)
    (batchSize : Nat) (keys : List κ) :
    (Fetch.fetch init fields registry block batchSize keys).FeelsCall a closed failed height e
      plan := by
  -- Inside the fetch, the failure of a call is not yet one of the fetch.
  let inside (made : CallsMade) (failure : Failure) : Prop :=
    made.fetched = true ∧ failure.Reports e.kind e
  have batch (offset : Nat) (keys : List κ) :
      (Fetch.fetchBatch init fields registry block offset keys).Feels
        (a.failure closed failed height e) (CallsMade.Keeps plan) inside := by
    have made : Query.callsMade?
        (.execution (.batchCall (Fetch.callsFor fields registry keys) block)) =
          some ⟨Fetch.callsFor fields registry keys, block, true⟩ := by
      have noLookup :
          (ExecutionQuery.batchCall (Fetch.callsFor fields registry keys) block).isLookup = false :=
        isLookup_callsFor (fun f hf => plan.neverLooksUp hlookup (hfields f hf)) registry keys block
      rw [Query.callsMade?, noLookup]
      rfl
    have keeps : CallsMade.Keeps plan ⟨Fetch.callsFor fields registry keys, block, true⟩ := by
      intro c hc
      obtain ⟨key, -, hc⟩ := List.mem_flatMap.mp hc
      obtain ⟨f, hf, rfl⟩ := List.mem_map.mp hc
      exact hfields f hf registry key
    have answered :
        (Task.ask (.execution (.batchCall (Fetch.callsFor fields registry keys) block))).Feels
          (a.failure closed failed height e) (CallsMade.Keeps plan) inside :=
      feels_batchCall hbatches made keeps ⟨rfl, .of_error e⟩
    refine .permitted (.bind (feels_other rfl trivial) fun _ => ?_)
    refine .bind (answered.mapError fun _ _ h => ⟨h.1, h.2.context _⟩) fun _ => ?_
    split <;> exact .done _
  have together {ts : List (Task Query (List ρ))} (hts : ∀ t ∈ ts, t.Feels
      (a.failure closed failed height e) (CallsMade.Keeps plan) inside) :
      (List.flatten <$> (Task.all ts).mapError Fetch.partialFailure).FeelsCall a closed failed
        height e plan := by
    refine ((Feels.all hts).mapError fun made failure h => ?_).map _
    rw [CallsMade.Causes, if_pos h.1]
    exact h.2.partialFailure
  unfold Fetch.fetch
  split
  · exact .done _
  · refine together fun t ht => ?_
    obtain ⟨⟨keys, i⟩, -, rfl⟩ := List.mem_map.mp ht
    exact batch _ keys

theorem feels_fetchDirect {fields : List (FieldSpec κ ρ)} {key : κ}
    (hfields : ∀ f ∈ fields, (f.call registry key).selector ∈ plan.single) (r : ρ) :
    (Fetch.fetchDirect fields registry block key r).FeelsCall a closed failed height e plan := by
  refine .bind (.all fun t ht => ?_) fun _ => .done _
  obtain ⟨f, hf, rfl⟩ := List.mem_map.mp ht
  have answered : (Task.ask (.execution (.call (f.call registry key) block))).FeelsCall a closed
      failed height e plan := by
    refine feels_call (fun c hc => ?_) (.of_error e)
    rw [List.mem_singleton.mp hc]
    exact hfields f hf
  exact answered.mapError fun _ _ h => h.context _

theorem feels_balances (accounts : List Address) :
    (Fetch.balances block accounts).FeelsCall a closed failed height e plan := by
  have batches : (Task.all ((Fetch.chunks Fetch.addressBatch accounts).map
      (Fetch.balanceBatch block))).Feels (a.failure closed failed height e) (CallsMade.Keeps plan)
        fun _ _ => False := .all fun t ht => by
    obtain ⟨batch, -, rfl⟩ := List.mem_map.mp ht
    refine .permitted (.bind (feels_other rfl trivial) fun _ => ?_)
    refine .bind (feels_other rfl trivial) fun balances => ?_
    split <;> exact .done _
  exact (batches.mapError fun _ _ h => h.elim).map _

theorem feels_balance (account : Address) :
    (Fetch.balance block account).FeelsCall a closed failed height e plan :=
  feels_other rfl trivial

theorem feels_load (hbatches : ExecutionQuery.BatchesInOrder a.execution)
    (hlookup : Contract.Storage.getAddress.selector ∈ plan.single) (storage : Address) :
    (Registry.load storage block).FeelsCall a closed failed height e plan := by
  let calls := ContractName.all.map (Registry.lookup storage)
  have made : Query.callsMade? (.execution (.batchCall calls block)) =
      some ⟨calls, block, false⟩ := by
    have lookup : (ExecutionQuery.batchCall calls block).isLookup = true := decide_eq_true rfl
    rw [Query.callsMade?, lookup]
    rfl
  have keeps : CallsMade.Keeps plan ⟨calls, block, false⟩ := by
    intro c hc
    obtain ⟨name, -, rfl⟩ := List.mem_map.mp hc
    rw [Registry.lookup, Abi.Method.selector_call]
    exact hlookup
  have answered : (Task.ask (.execution (.batchCall calls block))).FeelsCall a closed failed height
      e plan := feels_batchCall hbatches made keeps (.of_error e)
  exact .bind (answered.mapError fun _ _ h => h.context _) fun _ => .done _

end Fetch

end Feels

/-! ## The requests -/

section Requests

variable {a : Answers} {closed : Bool} {failed : ContractCall} {height : UInt64} {e : Error}

section Parts

variable (hbatches : ExecutionQuery.BatchesInOrder a.execution) (registry : Registry)
  (block : UInt64)

include hbatches

theorem feels_listing {κ : Type} {plan : CallPlan}
    (hlookup : Contract.Storage.getAddress.selector ∈ plan.single) {inputs : List Abi.Ty}
    {output : Abi.Ty} {method : String} {m : Abi.Method inputs output}
    {target : Registry → κ → Address} {args : κ → Abi.Values inputs}
    {set : output.Value → Address → Address} (hm : m.selector ∈ plan.batched) (keys : List κ) :
    (Fetch.fetch (fun _ => Address.zero) [.ofMethod method m target args set] registry block
      Fetch.addressBatch keys).FeelsCall a closed failed height e plan := by
  refine feels_fetch registry block hbatches _ hlookup (List.forall_mem_singleton.mpr ?_) _ _
  exact fun _ _ => by rwa [FieldSpec.selector_ofMethod]

theorem feels_minipools {plan : CallPlan}
    (hlookup : Contract.Storage.getAddress.selector ∈ plan.single)
    (hplan : FieldSpec.selectors MinipoolField.table ⊆ plan.batched) (addresses : List Address) :
    (Fetch.minipools registry block addresses).FeelsCall a closed failed height e plan :=
  feels_fetch registry block hbatches _ hlookup
    (fun _ hf _ _ => hplan (MinipoolField.selector_mem hf _ _)) _ _

theorem feels_allNodes :
    (Fetch.allNodes registry block).FeelsCall a closed failed height e .forAll := by
  have addresses : (Fetch.nodeAddresses registry block).FeelsCall a closed failed height e
      .forAll := by
    refine .bind (feels_read _ _ _ _ (by simp)) fun count => ?_
    refine .bind (.done _) fun indices => ?_
    exact feels_listing hbatches registry block (by simp) (by simp) _
  refine addresses.bind fun addresses => .bind ?_ fun nodes => ?_
  · refine feels_fetch registry block hbatches _ (by simp) (fun f hf registry node => ?_) _ _
    simp [NodeField.selector_mem hf registry node]
  · exact .bind (.both (feels_balances ..) (feels_balances ..)) fun _ => .done _

theorem feels_allMinipools :
    (Fetch.allMinipools registry block).FeelsCall a closed failed height e .forAll := by
  have addresses : (Fetch.minipoolAddresses registry block).FeelsCall a closed failed height e
      .forAll := by
    refine .bind (feels_read _ _ _ _ (by simp)) fun count => ?_
    refine .bind (.done _) fun indices => ?_
    exact feels_listing hbatches registry block (by simp) (by simp) _
  exact addresses.bind fun addresses => feels_minipools hbatches registry block (by simp)
    (fun _ hs => by simp [hs]) addresses

theorem feels_nodeMinipools (node : Address) :
    (Fetch.nodeMinipools registry block node).FeelsCall a closed failed height e .forOne := by
  refine .bind (feels_read _ _ _ _ (by simp)) fun count => ?_
  refine .bind (.done _) fun indices => .bind ?_ fun addresses => ?_
  · exact feels_listing hbatches registry block (by simp) (by simp) _
  · exact feels_minipools hbatches registry block (by simp) (fun _ hs => by simp [hs]) _

omit hbatches in
theorem feels_node (address : Address) :
    (Fetch.node registry block address).FeelsCall a closed failed height e .forOne := by
  refine .bind (feels_fetchDirect registry block (fun f hf => ?_) _) fun n => ?_
  · simp [NodeField.selector_mem hf registry address]
  · exact .bind (.both (feels_balance ..) (feels_balance ..)) fun _ => .done _

end Parts

/-- A part of a request that finds out where to look makes no calls. -/
theorem feels_finding {α : Type} {t : Task Query α} (hstrict : t.Strict)
    (hsequential : t.Sequential) (hasks : ∀ replies, t.Asks replies fun q => q.callsMade? = none)
    (hlearns : ∀ a : Answers, a.Learns false t) {known : CallsMade → Prop}
    {cause : CallsMade → Failure → Prop} :
    t.Feels (a.failure closed failed height e) known cause := by
  -- Nothing here waits for a permit, so it makes no difference whether they have been withdrawn.
  have learned (a : Answers) {o : Outcome α} (ho : t.MayEnd (a.replies closed) o) :
      t.MayEnd (.fixed a.learned.query) o := by
    refine (hlearns a).mayEnd o rfl (hsequential.permitless.mayEnd ?_ ho)
    exact fun _ _ h => h
  have same {o : Outcome α} (ho : t.MayEnd (.fixed (a.failing failed height e).learned.query) o) :
      t.MayEnd (.fixed a.learned.query) o := by
    refine .of_asks ?_ ?_ ?_ (hasks _) ho
    · exact fun q hq o ho => ho.trans (a.learned.failing_query hq)
    · exact fun _ h => h
    · exact fun h => h
  exact .unrecorded (hasks _) fun v o hv ho => hstrict.eq_ok (learned a hv) (same (learned _ ho))

theorem asks_beaconConfig_noCalls (replies : Replies Query) :
    Request.beaconConfig.Asks replies fun q => q.callsMade? = none := by
  refine Asks.bind rfl fun known => ?_
  cases known with
  | some config => trivial
  | none => exact Asks.bind rfl fun _ => Asks.bind rfl fun _ => trivial

theorem feels_latestProposedBlock (slot lookback : UInt64) {known : CallsMade → Prop}
    {cause : CallsMade → Failure → Prop} :
    (Clock.latestProposedBlock slot lookback).Feels (a.failure closed failed height e) known
      cause := by
  have strict : (Clock.latestProposedBlock slot lookback).Strict :=
    (strict_findBlock _ slot).bind fun found => by cases found <;> trivial
  refine feels_finding strict (PoolRequest.sequential_latestProposedBlock slot lookback)
    (fun _ => asks_latestProposedBlock (fun _ => rfl) slot lookback) fun a => ?_
  exact Answers.learns_of_asks (asks_latestProposedBlock (fun _ => trivial) slot lookback)

theorem feels_headBlock (settings : Settings) {known : CallsMade → Prop}
    {cause : CallsMade → Failure → Prop} :
    (Request.headBlock settings).Feels (a.failure closed failed height e) known cause :=
  feels_finding (strict_headBlock settings)
    (PoolRequest.sequential_beaconBlock settings .headState)
    (fun _ => asks_headBlock (asks_beaconConfig_noCalls _) rfl (fun _ => rfl) settings)
    fun _ => Answers.learns_headBlock settings

theorem feels_executionBlock (block : BeaconBlock) {known : CallsMade → Prop}
    {cause : CallsMade → Failure → Prop} :
    (Request.executionBlock block).Feels (a.failure closed failed height e) known cause := by
  refine feels_finding (strict_executionBlock block) ?_ (fun _ => ?_)
    fun _ => Answers.learns_executionBlock block
  · refine PoolRequest.sequential_beaconConfig.bind fun config => ?_
    split <;> trivial
  · refine Asks.bind (asks_beaconConfig_noCalls _) fun config => ?_
    split <;> trivial

theorem feels_snapshotAt (hbatches : ExecutionQuery.BatchesInOrder a.execution) (storage : Address)
    (block : BeaconBlock) :
    (Request.snapshotAt storage block).FeelsCall a closed failed height e .forAll := by
  refine (feels_executionBlock block).bind fun (config, number) => ?_
  refine (feels_load number hbatches (by simp) storage).bind fun registry => ?_
  have pool : (Request.assembleAll registry number).FeelsCall a closed failed height e .forAll :=
    .bind (.both (feels_allNodes hbatches registry number)
      (feels_allMinipools hbatches registry number)) fun _ => .bind (.done _) fun _ => .done _
  have stake : (Request.totalEffectiveRplStake registry number).FeelsCall a closed failed height e
      .forAll := feels_read _ _ _ _ (by simp)
  exact .bind (.both pool stake) fun _ => .bind (feels_other rfl trivial) fun _ => .done _

theorem feels_nodeStateAt (hbatches : ExecutionQuery.BatchesInOrder a.execution)
    (storage address : Address) (block : BeaconBlock) :
    (Request.nodeStateAt storage address block).FeelsCall a closed failed height e .forOne := by
  refine (feels_executionBlock block).bind fun (config, number) => ?_
  refine (feels_load number hbatches (by simp) storage).bind fun registry => ?_
  have one : (Request.assembleOne registry number address).FeelsCall a closed failed height e
      .forOne :=
    .bind (.both (feels_node registry number address)
      (feels_nodeMinipools hbatches registry number address)) fun _ =>
        .bind (.done _) fun _ => .done _
  have stake : (Request.totalEffectiveRplStake registry number).FeelsCall a closed failed height e
      .forOne := feels_read _ _ _ _ (by simp)
  exact .bind (.both one stake) fun _ => .done _

end Requests

/-- The requests for a snapshot. -/
inductive SnapshotRequest where
  | headState
  | stateForSlot (slot : UInt64)
  | headStateForNode (address : Address)

namespace SnapshotRequest

variable (settings : Settings) (storage : Address)

def task : SnapshotRequest → Task Query Snapshot
  | .headState => Request.headState settings storage
  | .stateForSlot slot => Request.stateForSlot settings storage slot
  | .headStateForNode address => Request.headStateForNode settings storage address

/-- The error of a request that was given up. -/
def late : SnapshotRequest → Error
  | .headState => Request.late settings "head state"
  | .stateForSlot _ => Request.late settings "state for slot"
  | .headStateForNode _ => Request.late settings "node state"

def plan : SnapshotRequest → CallPlan
  | .headStateForNode _ => .forOne
  | _ => .forAll

/-- The request without its limit of time. -/
def body : SnapshotRequest → Task Query Snapshot
  | .headState => Request.headBlock settings >>= Request.snapshotAt storage
  | .stateForSlot slot =>
    Clock.latestProposedBlock slot settings.maxSlotLookback >>= Request.snapshotAt storage
  | .headStateForNode address => Request.headBlock settings >>= Request.nodeStateAt storage address

theorem task_eq (request : SnapshotRequest) :
    request.task settings storage =
      .within settings.requestTimeoutSecs.toNat (request.late settings)
        (request.body settings storage) := by
  cases request <;> rfl

theorem learns_body (request : SnapshotRequest) (a : Answers) (closed : Bool) :
    a.Learns closed (request.body settings storage) := by
  cases request with
  | headState => exact (Answers.learns_headBlock settings).bind (Answers.learns_snapshotAt storage)
  | stateForSlot slot =>
      exact (Answers.learns_of_asks (asks_latestProposedBlock (fun _ => trivial) slot _)).bind
        (Answers.learns_snapshotAt storage)
  | headStateForNode address =>
      exact (Answers.learns_headBlock settings).bind (Answers.learns_nodeStateAt storage address)

theorem feels_body (request : SnapshotRequest) (a : Answers)
    (hbatches : ExecutionQuery.BatchesInOrder a.execution) (closed : Bool) (failed : ContractCall)
    (height : UInt64) (e : Error) :
    (request.body settings storage).FeelsCall a closed failed height e request.plan := by
  cases request with
  | headState => exact (feels_headBlock settings).bind (feels_snapshotAt hbatches storage)
  | stateForSlot slot =>
      exact (feels_latestProposedBlock slot _).bind (feels_snapshotAt hbatches storage)
  | headStateForNode address =>
      exact (feels_headBlock settings).bind (feels_nodeStateAt hbatches storage address)

section FailingCall

variable {ε ε' β : Type} {client : Service ExecutionQuery ε} {changed : Service ExecutionQuery ε'}
  {beacon : Service BeaconQuery β} {answers : {α : Type} → ExecutionQuery α → Outcome α}
  {beaconAnswers : {α : Type} → BeaconQuery α → Outcome α} {I : ε → Prop} {I' : ε' → Prop}
  {J : β → Prop}

/-- A request that has returned a snapshot has left a record of its calls that its tree allows. -/
theorem leaves_body (hclient : client.Steady answers (fun _ => True) I)
    (hbeacon : beacon.Steady beaconAnswers (fun _ => True) J) (request : SnapshotRequest)
    {s s' : Surroundings ε β} (hexecution : I s.execution) (hbeaconState : J s.beacon)
    {snapshot : Snapshot} {made : List CallsMade}
    (hlast : (request.task settings storage).EndsIn
      ((Service.ofChains client beacon).noting Query.callsMade?) (s, [])
      (.ok snapshot, s', made)) :
    (request.body settings storage).Leaves
      ((⟨answers, beaconAnswers, s.session.config⟩ : Answers).replies s.session.closed)
      Query.callsMade? (fun _ _ => none) (some (.ok snapshot)) made := by
  let a : Answers := ⟨answers, beaconAnswers, s.session.config⟩
  have learning : (Service.ofChains client beacon).Matches (.ofChains client beacon)
      (a.replies s.session.closed) a.Remembers _ :=
    Answers.matches_learning hclient hbeacon (fun _ h => h) s.session.closed
  have start : a.LearnIn I J s.session.closed s := ⟨hexecution, hbeaconState, .inl rfl, rfl⟩
  rw [Service.noting_eq_recording, task_eq] at hlast
  obtain ⟨l, hl, hleaves⟩ := hlast.leaves (learning.records Query.callsMade? fun _ _ => none)
    ((asks_within _ _ _).mpr (request.learns_body settings storage a _).asks) start
  obtain rfl : made = l := hl
  exact hleaves.resolve_right fun h => by cases h.1

theorem comesTo_of_mayEnd (hclient : client.Steady answers (fun _ => True) I)
    (hbeacon : beacon.Steady beaconAnswers (fun _ => True) J) (request : SnapshotRequest)
    {s : Surroundings ε β} (hexecution : I s.execution) (hbeaconState : J s.beacon)
    {P : Outcome Snapshot → Prop}
    (hP : ∀ o, (request.body settings storage).MayEnd
      ((⟨answers, beaconAnswers, s.session.config⟩ : Answers).replies s.session.closed) o → P o) :
    Request.ComesTo (.ofChains client beacon) s (request.late settings)
      (request.task settings storage) P := by
  let a : Answers := ⟨answers, beaconAnswers, s.session.config⟩
  have learning : (Service.ofChains client beacon).Matches (.ofChains client beacon)
      (a.replies s.session.closed) a.Remembers _ :=
    Answers.matches_learning hclient hbeacon (fun _ h => h) s.session.closed
  have start : a.LearnIn I J s.session.closed s := ⟨hexecution, hbeaconState, .inl rfl, rfl⟩
  have asks := (request.learns_body settings storage a s.session.closed).asks
  rw [task_eq]
  refine ⟨?_, fun last hlast => ?_⟩
  · rw [run_within]
    exact hP _ (learning.mayEnd asks start (.inl rfl)).1
  · exact (learning.mayEnd ((asks_within _ _ _).mpr asks) start hlast).1.imp_left (hP _)

/-- The calls that a request makes which returns a snapshot are made as its plan says. If the
execution client is changed to fail one call at the snapshot's block, the request returns the same
snapshot as before if it has not made this call. If it has made the call in a batch of a fetch, it
ends in a partial fetch failure, and if it has made the call otherwise, in an error of the kind that
the call has failed with, and the message of that error is a part of the message. All this holds in
order, and in time unless the request is given up. -/
theorem failing_call (hclient : client.Steady answers (fun _ => True) I)
    (hbatches : ExecutionQuery.BatchesInOrder answers)
    (hbeacon : beacon.Steady beaconAnswers (fun _ => True) J) (request : SnapshotRequest)
    {s s' : Surroundings ε β} (hexecution : I s.execution) (hbeaconState : J s.beacon)
    {snapshot : Snapshot} {made : List CallsMade}
    (hbase : (request.task settings storage).EndsIn
      ((Service.ofChains client beacon).noting Query.callsMade?) (s, [])
      (.ok snapshot, s', made))
    (call : ContractCall) (e : Error)
    (hchanged : changed.Steady (ExecutionQuery.failing answers call snapshot.executionBlock e)
      (fun _ => True) I')
    (execution : ε') (hexecution' : I' execution) :
    let comesTo := Request.ComesTo (.ofChains changed beacon) ⟨execution, s.beacon, s.session⟩
      (request.late settings) (request.task settings storage)
    (∀ calls ∈ made, calls.Keeps request.plan) ∧
    ((∀ calls ∈ made, ¬ calls.Include call snapshot.executionBlock) → comesTo (· = .ok snapshot)) ∧
    ∀ calls ∈ made, calls.Include call snapshot.executionBlock →
      (calls.fetched = true → comesTo fun o =>
        ∃ failure : Failure, o = .error failure ∧ failure.Reports .partialFetchFailure e) ∧
      (calls.fetched = false → comesTo fun o =>
        ∃ failure : Failure, o = .error failure ∧ failure.Reports e.kind e) := by
  intro comesTo
  let a : Answers := ⟨answers, beaconAnswers, s.session.config⟩
  have feels := request.feels_body settings storage a hbatches s.session.closed call
    snapshot.executionBlock e
  have had : (a.failure s.session.closed call snapshot.executionBlock e).Had
      (request.body settings storage) snapshot made :=
    request.leaves_body settings storage hclient hbeacon hexecution hbeaconState hbase
  have comes {P : Outcome Snapshot → Prop} (hP : ∀ o, (request.body settings storage).MayEnd
      ((a.failing call snapshot.executionBlock e).replies s.session.closed) o → P o) :
      comesTo P :=
    request.comesTo_of_mayEnd settings storage (s := ⟨execution, s.beacon, s.session⟩) hchanged
      hbeacon hexecution' hbeaconState hP
  refine ⟨feels.noted had, fun hspared => comes fun o => feels.spared had hspared, ?_⟩
  intro calls hcalls hinclude
  have fails {o : Outcome Snapshot} (ho : (request.body settings storage).MayEnd
      ((a.failing call snapshot.executionBlock e).replies s.session.closed) o) :
      ∃ failure, o = .error failure ∧ CallsMade.Causes e calls failure := by
    obtain ⟨failure, rfl, calls', hcalls', hinclude', hreport⟩ :=
      feels.fails had ⟨calls, hcalls, hinclude⟩ ho
    -- The call that is the cause was made in the same way as this one.
    have same := (feels.noted had calls' hcalls').fetched_eq (feels.noted had calls hcalls)
      hinclude'.1 hinclude.1
    refine ⟨failure, rfl, ?_⟩
    rwa [CallsMade.Causes, same] at hreport
  refine ⟨fun hfetched => comes fun o ho => ?_, fun hfetched => comes fun o ho => ?_⟩
  · simpa [CallsMade.Causes, hfetched] using fails ho
  · simpa [CallsMade.Causes, hfetched] using fails ho

end FailingCall

end SnapshotRequest

namespace SmallPool

theorem batchesInOrder : ExecutionQuery.BatchesInOrder answers := fun calls block =>
  ((mapM_eq_ok _ _ _).mpr ((batchesCalls calls block _).mp rfl)).symm

/-- The call that reads the fee of a minipool. -/
def readFee (minipool : Nat) : ContractCall :=
  Contract.MinipoolDelegate.getNodeFee.call (.ofNat minipool) ()

/-- The call that counts the nodes. -/
def countNodes : ContractCall := Contract.NodeManager.getNodeCount.call (.ofNat 2) ()

/-- The full snapshot of the small pool, and the calls that it makes. -/
def recorded : Outcome Snapshot × Surroundings Unit Unit × List CallsMade :=
  (Request.headState .default (.ofNat 1)).run
    ((Service.ofChains (.fixed answers) (.fixed BeaconQuery.sample)).noting Query.callsMade?)
      (⟨(), (), .new false⟩, [])

theorem recorded_calls :
    recorded.1.toOption.map Snapshot.executionBlock = some 7 ∧
      (∃ calls ∈ recorded.2.2, calls.Include (readFee 200) 7 ∧ calls.fetched = true) ∧
      (∃ calls ∈ recorded.2.2, calls.Include countNodes 7 ∧ calls.fetched = false) ∧
      ∀ calls ∈ recorded.2.2, ¬ calls.Include (readFee 203) 7 := by
  decide +kernel

end SmallPool

/-- In the small pool, reading the fee of minipool 200 is a part of a fetch, counting the nodes is
not, and there is no minipool 203. -/
theorem SnapshotRequest.failing_call_smallPool :
    let e : Error := .of .outOfRange "no such block"
    let outcome (call : ContractCall) : Outcome Snapshot :=
      ((Request.headState .default (.ofNat 1)).run
        (.ofChains (.fixed (ExecutionQuery.failing SmallPool.answers call 7 e))
          (.fixed BeaconQuery.sample)) ⟨(), (), .new false⟩).1
    (∃ failure : Failure, outcome (SmallPool.readFee 200) = .error failure ∧
      failure.Reports .partialFetchFailure e) ∧
    (∃ failure : Failure, outcome SmallPool.countNodes = .error failure ∧
      failure.Reports .outOfRange e) ∧
    ∃ snapshot, outcome (SmallPool.readFee 203) = .ok snapshot := by
  intro e outcome
  obtain ⟨hblock, ⟨fees, hfees, hfee, hfetched⟩, ⟨counts, hcounts, hcount, hsingle⟩, hother⟩ :=
    SmallPool.recorded_calls
  generalize hbase : SmallPool.recorded = last at hblock hfees hcounts hother
  obtain ⟨_ | snapshot, s', made⟩ := last
  · cases hblock
  have failing (call : ContractCall) := failing_call .default (.ofNat 1)
    (Service.fixed_steady SmallPool.answers fun _ => True) SmallPool.batchesInOrder
    (Service.fixed_steady BeaconQuery.sample fun _ => True) .headState trivial trivial
    (.inl hbase.symm) call e (Service.fixed_steady _ fun _ => True) () trivial
  obtain hblock : snapshot.executionBlock = 7 := Option.some.inj hblock
  rw [hblock] at failing
  refine ⟨?_, ?_, snapshot, ?_⟩
  · exact (((failing (SmallPool.readFee 200)).2.2 fees hfees hfee).1 hfetched).run
  · exact (((failing SmallPool.countNodes).2.2 counts hcounts hcount).2 hsingle).run
  · exact ((failing (SmallPool.readFee 203)).2.1 hother).run

end StakeSnapshot
