import StakeSnapshot.Proofs.FailingCall
import StakeSnapshot.Proofs.Simulation.Chain
import StakeSnapshot.Proofs.Simulation.Slots

/-!
# What a chain in memory answers

A chain in memory keeps bytes for the bytes of calls. That it answers a call by the value that was
set for it, and no other call, rests on calls being told apart by their bytes
(`TypedCall.eq_of_call`) and on values being read back from theirs (`SetAs.decodes`). Both hold for
all functions but those of the helper contracts. A call that was ever marked as failing fails, alone
and in batches, whatever is set for it (`ExecutionChain.answers_set`).
-/

namespace StakeSnapshot

/-! ## Results that can be set -/

namespace Abi

/-- The values of the type are words or texts. -/
def Ty.isScalar : Ty → Bool
  | .string => true
  | t => t.isWord

/-- Memory can hold the value. -/
def Ty.InMemory : (t : Ty) → t.Value → Prop
  | .string, text => (Bytes.ofString text).length ≤ Memory.limit
  | _, _ => True

/-- The bytes by which a value is set as the result of a function of a type: its own layout, and
for a number of one byte that of the same number as a word. -/
inductive SetAs : (t : Ty) → t.Value → Bytes → Prop where
  | itself {t : Ty} (value : t.Value) : SetAs t value (encode [t] (value, ()))
  | word (w : Word) (h : w.toNat < 256) :
      SetAs .uint8 (UInt8.ofNat w.toNat) (encode [.uint256] (w, ()))

theorem encode_uint8 {w : Word} (h : w.toNat < 256) :
    encode [.uint256] (w, ()) = encode [.uint8] (UInt8.ofNat w.toNat, ()) := by
  have number : (UInt8.ofNat w.toNat).toNat = w.toNat := UInt8.toNat_ofNat_of_lt h
  simp only [encode, valueParts, Ty.part, number]
  rfl

theorem SetAs.decodes {inputs : List Ty} {t : Ty} {value : t.Value} {data : Bytes}
    (h : SetAs t value data) (ht : t.isScalar = true) (hmemory : t.InMemory value)
    (m : Method inputs t) : m.decodeResult data = .ok value := by
  cases h with
  | itself =>
      cases t with
      | string => exact m.decodeResult_string hmemory
      | _ => exact m.decodeResult_encodeResult ht value
  | word w h =>
      rw [encode_uint8 h]
      exact m.decodeResult_encodeResult rfl _

end Abi

/-! ## Calls of known functions -/

namespace Contract

/-- The functions of the pool and of the tokens: all but those of the helper contracts. -/
def protocolFunctions : List Entry :=
  catalogue.filter fun e => e.owner ≠ "IMulticall3" && e.owner ≠ "BalanceBatcher"

theorem scalar_of_mem : ∀ e ∈ protocolFunctions, (∀ t ∈ e.inputs, t.isWord = true) ∧
    32 * e.inputs.length < UInt64.size ∧ e.output.isScalar = true := by
  decide +kernel

end Contract

/-- A call of a known function, with its arguments. -/
structure TypedCall where
  function : Contract.Entry
  known : function ∈ Contract.catalogue
  target : Address
  args : Abi.Values function.inputs

namespace TypedCall

def call (c : TypedCall) : ContractCall := c.function.method.call c.target c.args

/-- Reads the result of the call. -/
def read (c : TypedCall) (block : UInt64) : Task Query c.function.output.Value :=
  StakeSnapshot.read c.function.method c.target c.args block

/-- A call of a function of the protocol is told by its bytes, from all calls of known functions. -/
theorem eq_of_call {c c' : TypedCall} (hc : c.function ∈ Contract.protocolFunctions)
    (h : c'.call = c.call) : c' = c := by
  obtain ⟨f, hf, target, args⟩ := c
  obtain ⟨f', hf', target', args'⟩ := c'
  obtain ⟨htarget, hselector, -⟩ := Abi.Method.call_eq_iff.mp h
  obtain rfl : f' = f := Contract.entry_eq_of_selector hf' hf hselector
  obtain rfl : target' = target := htarget
  obtain ⟨hwords, hlength, -⟩ := Contract.scalar_of_mem _ hc
  obtain rfl : args' = args := Abi.Method.args_eq h hwords hlength
  rfl

end TypedCall

/-- The calls in a question. -/
def ExecutionQuery.calls : {α : Type} → ExecutionQuery α → List ContractCall
  | _, .call c _ => [c]
  | _, .batchCall calls _ => calls
  | _, _ => []

/-! ## What a read comes to -/

section Read

variable {inputs : List Abi.Ty} {output : Abi.Ty} (m : Abi.Method inputs output) (target : Address)

/-- What reading a function comes to, by the answer to the call. -/
def readOf : Outcome Bytes → Outcome output.Value
  | .ok data => .ofExcept ((m.decodeResult data).mapError fun e =>
      e.toError.context s!"decoding {m.signature}")
  | .error f => .error (f.mapError (.context s!"calling {m.signature} on {target.checksum}"))

theorem mayEnd_read {a : Answers} {args : Abi.Values inputs} {block : UInt64}
    {o : Outcome output.Value} (h : (read m target args block).MayEnd (.fixed a.query) o) :
    o = readOf m target (a.execution (.call (m.call target args) block)) := by
  obtain ⟨r, ⟨answer, hanswer, hr⟩, ho⟩ := h
  have hanswer : answer = a.execution (.call (m.call target args) block) := hanswer
  rw [← hanswer]
  cases hr
  cases answer with
  | ok data => exact ho
  | error f => exact ho

end Read

namespace Simulation.ExecutionChain

/-! ## Histories -/

/-- What can happen to a chain in memory: something is set, a call is marked as failing, and
questions are taken in and answered. Whatever the type of a value that is set for a call, what is
kept of it is a reply. -/
inductive Step : Type 1 where
  | reply (call : ContractCall) (data : Bytes)
  | failCall (call : ContractCall)
  | balance (account : Address) (balance : Amount)
  | latest (header : BlockHeader)
  | delay (milliseconds : Nat)
  | accepted {α : Type} (question : ExecutionQuery α)
  | answered {α : Type} (question : ExecutionQuery α)

def apply (chain : ExecutionChain) : Step → ExecutionChain
  | .reply call data => chain.setReply call data
  | .failCall call => chain.failCall call
  | .balance account balance => chain.setBalance account balance
  | .latest header => chain.setLatest header
  | .delay milliseconds => chain.setDelay milliseconds
  | .accepted q => (service.accept q chain).1
  | .answered q => (service.answer q chain).2

/-- The chain after a history of steps. -/
def after (steps : List Step) : ExecutionChain := steps.foldl apply empty

variable {chain : ExecutionChain} {call : ContractCall}

theorem replies_apply {step : Step} (h : ∀ data, step ≠ .reply call data) :
    (chain.apply step).replies[call]? = chain.replies[call]? := by
  cases step with
  | reply other data =>
      have hne : other ≠ call := fun hcall => h data (hcall ▸ rfl)
      exact (Std.HashMap.getElem?_insert).trans (if_neg (beq_iff_eq.not.mpr hne))
  | accepted q =>
      obtain ⟨_, hchain⟩ := chain.service_steady.accept q trivial chain.recounts_self
      rw [apply, hchain]
  | answered q =>
      obtain ⟨_, hchain⟩ := chain.service_steady.answer q trivial chain.recounts_self
      rw [apply, hchain]
  | _ => rfl

theorem fails_apply {step : Step} :
    call ∈ (chain.apply step).failing ↔ call ∈ chain.failing ∨ step = .failCall call := by
  cases step with
  | failCall other =>
      rw [apply, failCall, Std.HashSet.mem_insert, beq_iff_eq, Step.failCall.injEq, or_comm]
  | accepted q =>
      obtain ⟨_, hchain⟩ := chain.service_steady.accept q trivial chain.recounts_self
      rw [apply, hchain]
      simp
  | answered q =>
      obtain ⟨_, hchain⟩ := chain.service_steady.answer q trivial chain.recounts_self
      rw [apply, hchain]
      simp
  | _ => simp [apply, setReply, setBalance, setLatest, setDelay]

theorem replies_foldl {steps : List Step} (h : ∀ data, Step.reply call data ∉ steps) :
    (steps.foldl apply chain).replies[call]? = chain.replies[call]? := by
  induction steps generalizing chain with
  | nil => rfl
  | cons step steps ih =>
      rw [List.foldl_cons, ih fun data hdata => h data (List.mem_cons_of_mem _ hdata)]
      exact replies_apply fun data hstep => h data (hstep ▸ List.mem_cons_self)

theorem fails_foldl {steps : List Step} :
    call ∈ (steps.foldl apply chain).failing ↔
      call ∈ chain.failing ∨ Step.failCall call ∈ steps := by
  induction steps generalizing chain with
  | nil => simp
  | cons step steps ih => rw [List.foldl_cons, ih, fails_apply, List.mem_cons, or_assoc, eq_comm]

/-! ## Answers -/

/-- A batch is answered call by call. -/
theorem batchesInOrder (chain : ExecutionChain) : ExecutionQuery.BatchesInOrder chain.answers := by
  intro calls block
  change Outcome.ofExcept (calls.mapM chain.respond) =
    calls.mapM fun call => Outcome.ofExcept (chain.respond call)
  induction calls with
  | nil => rfl
  | cons call calls ih =>
      rw [List.mapM_cons, List.mapM_cons, ← ih]
      cases chain.respond call with
      | error e => rfl
      | ok data => cases calls.mapM chain.respond <;> rfl

/-- Every read ends as the answer to its call says. -/
theorem ends_read {β : Type} {beacon : Service BeaconQuery β} {c : TypedCall} {block : UInt64}
    {s : Surroundings ExecutionChain β}
    {last : Outcome c.function.output.Value × Surroundings ExecutionChain β}
    (hlast : (c.read block).EndsIn (.ofChains service beacon) s last) :
    last.1 = readOf c.function.method c.target (s.execution.answers (.call c.call block)) := by
  have steady := Fetch.steady_reads beacon s.execution.service_steady
  exact mayEnd_read _ _ (steady.mayEnd_of_asks (permitless_read _ _ _ _)
    (fun _ => (Fetch.reading_reads block).asks_read _ _ _) s.execution.recounts_self hlast)

/-! ## Setting a result -/

/-- The chain answers a call by a value, read alone, and by the bytes of the value, in batches. -/
structure AnswersBy (chain : ExecutionChain) (c : TypedCall) (value : c.function.output.Value)
    (data : Bytes) : Prop where
  read {β : Type} (beacon : Service BeaconQuery β) (block : UInt64)
    {s : Surroundings ExecutionChain β}
    {last : Outcome c.function.output.Value × Surroundings ExecutionChain β}
    (hs : s.execution = chain) (hlast : (c.read block).EndsIn (.ofChains service beacon) s last) :
    last.1 = .ok value
  call (block : UInt64) : chain.answers (.call c.call block) = .ok data
  batch (calls : List ContractCall) (block : UInt64) {replies : List Bytes}
    (h : chain.answers (.batchCall calls block) = .ok replies) {reply : Bytes}
    (hreply : (c.call, reply) ∈ calls.zip replies) : reply = data

/-- The chain answers no question that contains a call. -/
structure Refuses (chain : ExecutionChain) (c : TypedCall) : Prop where
  read {β : Type} (beacon : Service BeaconQuery β) (block : UInt64)
    {s : Surroundings ExecutionChain β}
    {last : Outcome c.function.output.Value × Surroundings ExecutionChain β}
    (hs : s.execution = chain) (hlast : (c.read block).EndsIn (.ofChains service beacon) s last) :
    ∃ e, last.1 = .error (.error e) ∧ e.kind = .sourceUnavailable
  answer {α : Type} (q : ExecutionQuery α) (hq : c.call ∈ q.calls) :
    ∃ e, chain.answers q = .error (.error e) ∧ e.kind = .sourceUnavailable

/-- The chain answers as another one does, but for one call. -/
structure SameBut (chain earlier : ExecutionChain) (c : TypedCall) : Prop where
  /-- All other calls of known functions are other calls. -/
  apart {other : TypedCall} (h : other ≠ c) : other.call ≠ c.call
  read {β : Type} (beacon : Service BeaconQuery β) {other : TypedCall} (h : other ≠ c)
    (block : UInt64) {s s' : Surroundings ExecutionChain β}
    {last last' : Outcome other.function.output.Value × Surroundings ExecutionChain β}
    (hs : s.execution = chain) (hs' : s'.execution = earlier)
    (hlast : (other.read block).EndsIn (.ofChains service beacon) s last)
    (hlast' : (other.read block).EndsIn (.ofChains service beacon) s' last') :
    last.1 = last'.1
  answer {α : Type} (q : ExecutionQuery α) (hq : c.call ∉ q.calls) :
    chain.answers q = earlier.answers q
  /-- In a batch, only the call itself is answered differently. -/
  batch (calls : List ContractCall) (block : UInt64) :
    chain.answers (.batchCall calls block) = calls.mapM fun call =>
      if call = c.call then chain.answers (.call call block)
      else earlier.answers (.call call block)

theorem answersBy_of_reply {c : TypedCall} {value : c.function.output.Value} {data : Bytes}
    (hfailing : c.call ∉ chain.failing) (hreply : chain.replies[c.call]? = some data)
    (hdata : c.function.method.decodeResult data = .ok value) : chain.AnswersBy c value data := by
  have call (block : UInt64) : chain.answers (.call c.call block) = .ok data :=
    (chain.answers_call _ _ _).mpr (respond_of_reply hfailing hreply)
  constructor
  case read =>
    rintro β beacon block s last rfl hlast
    rw [ends_read hlast, call, readOf, hdata]
    rfl
  case call => exact call
  case batch =>
    intro calls block replies h reply hreply
    have answered : chain.answers (.call c.call block) = .ok reply :=
      List.forall₂_zip ((chain.batchesCalls calls block replies).mp h) hreply
    exact Except.ok.inj (answered.symm.trans (call block))

theorem refuses_of_failing {c : TypedCall} (h : c.call ∈ chain.failing) : chain.Refuses c := by
  have call (block : UInt64) : ∃ e, chain.answers (.call c.call block) = .error (.error e) ∧
      e.kind = .sourceUnavailable :=
    ⟨_, congrArg Outcome.ofExcept (respond_of_failing h), rfl⟩
  constructor
  case read =>
    rintro β beacon block s last rfl hlast
    obtain ⟨e, he, hkind⟩ := call block
    rw [ends_read hlast, he]
    exact ⟨_, rfl, hkind⟩
  case answer =>
    intro α q hq
    cases q with
    | latestBlock | balance | bulkBalances => exact (List.not_mem_nil hq).elim
    | call other block =>
        rw [← List.mem_singleton.mp hq]
        exact call block
    | batchCall calls block =>
        cases hreplies : calls.mapM chain.respond with
        | error e =>
            obtain ⟨other, -, he⟩ := mapM_eq_error hreplies
            exact ⟨e, congrArg Outcome.ofExcept hreplies, kind_of_respond he⟩
        | ok replies =>
            have answered := ((mapM_eq_ok chain.respond calls replies).mp hreplies).imp
              fun other data hdata => And.intro (Exists.intro data hdata) hdata
            obtain ⟨data, hdata⟩ := ((List.forall₂_and_left _ _).mp answered).1 c.call hq
            cases (respond_of_failing h).symm.trans hdata

theorem sameBut_setReply (chain : ExecutionChain) {c : TypedCall}
    (hc : c.function ∈ Contract.protocolFunctions) (data : Bytes) :
    (chain.setReply c.call data).SameBut chain c := by
  have respond {call : ContractCall} (h : call ≠ c.call) :
      (chain.setReply c.call data).respond call = chain.respond call := by
    have kept : (chain.apply (.reply c.call data)).replies[call]? = chain.replies[call]? :=
      replies_apply fun _ hstep => h (Step.reply.inj hstep).1.symm
    exact respond_congr .rfl kept
  have answer {α : Type} (q : ExecutionQuery α) (hq : c.call ∉ q.calls) :
      (chain.setReply c.call data).answers q = chain.answers q := by
    cases q with
    | latestBlock =>
        simp only [answers, ExecutionChain.answer, setReply]
        cases chain.latest <;> rfl
    | balance | bulkBalances => rfl
    | call other block =>
        exact congrArg Outcome.ofExcept (respond (List.ne_of_not_mem_cons hq).symm)
    | batchCall calls block =>
        refine congrArg Outcome.ofExcept (mapM_congr fun other hother => respond ?_)
        exact fun hcall => hq (hcall ▸ hother)
  have apart {other : TypedCall} (h : other ≠ c) : other.call ≠ c.call :=
    fun hcall => h (TypedCall.eq_of_call hc hcall)
  constructor
  case apart => exact apart
  case answer => exact answer
  case read =>
    intro β beacon other h block s s' last last' hs hs' hlast hlast'
    have unasked : c.call ∉ (ExecutionQuery.call other.call block).calls :=
      List.mem_singleton.not.mpr (apart h).symm
    rw [ends_read hlast, ends_read hlast', hs, hs', answer _ unasked]
  case batch =>
    intro calls block
    refine (batchesInOrder _ calls block).trans (congrArg calls.mapM (funext fun call => ?_))
    by_cases hcall : call = c.call
    · rw [if_pos hcall]
    · rw [if_neg hcall]
      exact answer (.call call block) (List.mem_singleton.not.mpr (Ne.symm hcall))

/-- After a value has been set for a call, and as long as no other reply is set for it, the call is
answered by the value, unless it is marked as failing, before or after. It fails then, alone and in
batches. To set the value changes the answer to no other call, alone or in a batch. -/
theorem answers_set (before later : List Step) {c : TypedCall}
    (hc : c.function ∈ Contract.protocolFunctions) {value : c.function.output.Value} {data : Bytes}
    (hdata : Abi.SetAs c.function.output value data) (hmemory : c.function.output.InMemory value)
    (hlater : ∀ other, Step.reply c.call other ∉ later) :
    (.failCall c.call ∉ before ++ later →
      (after (before ++ .reply c.call data :: later)).AnswersBy c value data) ∧
    (.failCall c.call ∈ before ++ later →
      (after (before ++ .reply c.call data :: later)).Refuses c) ∧
    (after (before ++ [.reply c.call data])).SameBut (after before) c := by
  have failing : c.call ∈ (after (before ++ .reply c.call data :: later)).failing ↔
      .failCall c.call ∈ before ++ later := by
    rw [after, fails_foldl]
    simp [empty]
  have reply : (after (before ++ .reply c.call data :: later)).replies[c.call]? = some data := by
    rw [after, List.foldl_append, List.foldl_cons, replies_foldl hlater]
    exact Std.HashMap.getElem?_insert_self
  refine ⟨fun unmarked => ?_, fun marked => ?_, ?_⟩
  · have decoded := hdata.decodes (Contract.scalar_of_mem _ hc).2.2 hmemory c.function.method
    exact answersBy_of_reply (failing.not.mpr unmarked) reply decoded
  · exact refuses_of_failing (failing.mpr marked)
  · rw [after, List.foldl_concat]
    exact sameBut_setReply _ hc data

/-- The call for where a node says that it is. -/
def sampleCall : TypedCall where
  function := .of "RocketNodeManager" Contract.NodeManager.getNodeTimezoneLocation
  known := by simp [Contract.catalogue]
  target := .ofNat 2
  args := (.ofNat 5, ())

/-- The result of a call is set again, and not marked, though another call is. Then the call itself
is marked. -/
theorem answers_sampleSet :
    let data := Contract.NodeManager.getNodeTimezoneLocation.encodeResult "Europe/Zürich"
    let before := [Step.reply sampleCall.call [], .failCall ⟨.ofNat 3, []⟩, .delay 250]
    let later := [Step.accepted .latestBlock, .reply ⟨.ofNat 4, []⟩ data]
    (after (before ++ .reply sampleCall.call data :: later)).AnswersBy sampleCall "Europe/Zürich"
      data ∧
    (after (before ++ .reply sampleCall.call data :: .failCall sampleCall.call :: later)).Refuses
      sampleCall := by
  intro data before later
  have known : sampleCall.function ∈ Contract.protocolFunctions :=
    List.mem_filter.mpr ⟨sampleCall.known, by decide⟩
  have setAs : Abi.SetAs .string "Europe/Zürich" data := .itself _
  have memory : (Bytes.ofString "Europe/Zürich").length ≤ Memory.limit := by decide +kernel
  have elsewhere (target : Address) (h : target ≠ .ofNat 2) : sampleCall.call ≠ ⟨target, []⟩ :=
    fun hcall => h (congrArg ContractCall.target hcall).symm
  have unset : ∀ other, Step.reply sampleCall.call other ∉ later := by
    simp [later, elsewhere (.ofNat 4) (by decide)]
  have unmarked : .failCall sampleCall.call ∉ before ++ later := by
    simp [before, later, elsewhere (.ofNat 3) (by decide)]
  have unset' : ∀ other, Step.reply sampleCall.call other ∉ .failCall sampleCall.call :: later := by
    simpa using unset
  exact ⟨(answers_set before later known setAs memory unset).1 unmarked,
    (answers_set before _ known setAs memory unset').2.1 (by simp)⟩

end Simulation.ExecutionChain

end StakeSnapshot
