import Mathlib.Data.List.Forall2
import StakeSnapshot.Proofs.Abi.Nested
import StakeSnapshot.Proofs.Http.Endpoint

/-!
# Many calls in one

Calls that are put together are answered by a contract, which makes each of them, and so are
questions for many balances. If these contracts do what they are for, a client learns from them
what it would have learned from one call after the other, and no more
(`multicall_answers_as_single_calls`). If they do not, a client takes no result for another's.
-/

namespace StakeSnapshot

open Http Contract Simulation

namespace Http.ExecutionApi

/-! ## What a batch is read as -/

/-- The reply to a call that succeeded. -/
def succeeded (data : Bytes) : Bool × Bytes × Unit := (true, data, ())

theorem succeeded_injective : Function.Injective succeeded := by
  intro data data' h
  exact congrArg (·.2.1) h

theorem unpackReplies_cons (data : Bytes) (answers : List (Bool × Bytes × Unit)) (c : ContractCall)
    (calls : List ContractCall) :
    unpackReplies (succeeded data :: answers) (c :: calls) =
      (unpackReplies answers calls).map (data :: ·) := by
  rw [succeeded, unpackReplies, if_pos rfl]
  cases unpackReplies answers calls <;> rfl

theorem unpackReplies_eq_ok_iff {answers : List (Bool × Bytes × Unit)} {calls : List ContractCall}
    (hlength : answers.length = calls.length) {datas : List Bytes} :
    unpackReplies answers calls = .ok datas ↔ answers = datas.map succeeded := by
  induction answers generalizing calls datas with
  | nil => cases datas <;> simp [unpackReplies]
  | cons answer answers ih =>
      obtain ⟨success, data, ⟨⟩⟩ := answer
      cases calls with
      | nil => cases hlength
      | cons c calls =>
          have ih (rest : List Bytes) := @ih calls (Nat.succ.inj hlength) rest
          cases success with
          | false => cases datas <;> simp [unpackReplies, fail, succeeded]
          | true =>
              have hcons := unpackReplies_cons data answers c calls
              rw [succeeded] at hcons
              rw [hcons]
              constructor
              · intro h
                cases hrest : unpackReplies answers calls with
                | error e =>
                    rw [hrest] at h
                    cases h
                | ok rest =>
                    rw [hrest] at h
                    cases h
                    exact congrArg (List.cons _) ((ih rest).mp hrest)
              · intro h
                cases datas with
                | nil => cases h
                | cons first rest =>
                    obtain ⟨hfirst, hrest⟩ := List.cons.inj h
                    cases hfirst
                    rw [(ih rest).mpr hrest]
                    rfl

/-- A call that failed ends the batch. -/
theorem unpackReplies_of_failed {answers : List (Bool × Bytes × Unit)} {calls : List ContractCall}
    (hlength : answers.length = calls.length) (h : ∃ answer ∈ answers, answer.1 = false) :
    ∃ e, unpackReplies answers calls = .error e ∧ e.kind = .sourceUnavailable := by
  induction answers generalizing calls with
  | nil => simp at h
  | cons answer answers ih =>
      obtain ⟨success, data, ⟨⟩⟩ := answer
      cases calls with
      | nil => cases hlength
      | cons c calls =>
          cases success with
          | false => exact ⟨_, rfl, rfl⟩
          | true =>
              obtain ⟨e, he, hkind⟩ := ih (Nat.succ.inj hlength) (by simpa using h)
              refine ⟨e, ?_, hkind⟩
              have hcons := unpackReplies_cons data answers c calls
              rw [he] at hcons
              exact hcons

theorem readBatch_eq_ok_iff {calls : List ContractCall} {answers : List (Bool × Bytes × Unit)}
    {datas : List Bytes} :
    readBatch calls answers = .ok datas ↔
      answers.length = calls.length ∧ answers = datas.map succeeded := by
  rw [readBatch]
  split
  · next hlength => simp [unpackReplies_eq_ok_iff hlength, hlength]
  · next hlength => simp [fail, hlength]

theorem readBalances_eq_ok_iff {accounts : List Address} {balances amounts : List Amount} :
    readBalances accounts balances = .ok amounts ↔
      balances.length = accounts.length ∧ balances = amounts := by
  rw [readBalances]
  split
  · next hlength => simp [hlength]
  · next hlength => simp [fail, hlength]

theorem readResult_eq_ok_iff {inputs : List Abi.Ty} {output : Abi.Ty}
    {m : Abi.Method inputs output} {data : Bytes} {value : output.Value} :
    readResult m data = .ok value ↔ m.decodeResult data = .ok value := by
  rw [readResult]
  cases m.decodeResult data with
  | ok v => simp
  | error e =>
      dsimp only
      split <;> simp [fail]

end Http.ExecutionApi

open ExecutionApi

/-! ## What the contracts are for -/

namespace ContractHost

variable (host : ContractHost)

/-- What becomes of one call of many: it is made as it would be by itself, and it has to succeed
unless it may fail. -/
def attempt (block : UInt64) :
    Address × Bool × Bytes × Unit → Except Refusal (Bool × Bytes × Unit)
  | (target, mayFail, calldata, ()) =>
    match host.call ⟨target, calldata⟩ block with
    | .ok data => .ok (succeeded data)
    | .error r => if mayFail then .ok (false, r.data, ()) else .error r

/-- The contract that a call goes to makes all calls that the calldata names, and returns their
results or fails. -/
def Aggregates (c : ContractCall) (block : UInt64) : Prop :=
  ∀ calls, Multicall.aggregate3.arguments? c.calldata = some (calls, ()) →
    (host.call c block).toOption =
      ((calls.mapM (host.attempt block)).map Multicall.aggregate3.encodeResult).toOption

/-- The contract that a call goes to returns what each of the users holds of each of the tokens
that the calldata names. -/
def ReadsBalances (c : ContractCall) (block : UInt64) : Prop :=
  ∀ users tokens, BalanceBatcher.balances.arguments? c.calldata = some (users, tokens, ()) →
    (host.call c block).toOption =
      (((users.flatMap fun user => tokens.map fun token => (token, user)).mapM
        fun (token, user) => host.holding token user block).map
          BalanceBatcher.balances.encodeResult).toOption

/-- Memory can hold the call and what it returns. -/
structure Fits (c : ContractCall) (block : UInt64) : Prop where
  calldata : c.calldata.length ≤ Memory.limit
  result : ∀ data, host.call c block = .ok data → data.length ≤ Memory.limit

/-- The call that makes a batch of calls. -/
def batchCall (helpers : HelperContracts) (calls : List ContractCall) : ContractCall :=
  Multicall.aggregate3.call helpers.multicall (batchArguments calls)

/-- The call that asks for what accounts hold. -/
def balancesCall (helpers : HelperContracts) (accounts : List Address) : ContractCall :=
  BalanceBatcher.balances.call helpers.balanceBatcher (accounts, [.zero], ())

/-! ## What a client learns -/

section Client

variable {host} {url : Url} (hurl : url.isWeb = true) (helpers : HelperContracts) {block : UInt64}

/-- A question that a contract function answers has the value that is made of its result. -/
theorem bind_readResult_eq_ok_iff {inputs : List Abi.Ty} {output : Abi.Ty} {α : Type}
    {m : Abi.Method inputs output} {r : Except Refusal Bytes} {f : output.Value → Except Error α}
    {a : α} :
    ((r.mapError (·.failure url)).bind fun data =>
        Outcome.ofExcept ((readResult m data).bind f)) = .ok a ↔
      ∃ data value, r = .ok data ∧ m.decodeResult data = .ok value ∧ f value = .ok a := by
  cases r with
  | error r => simp [Except.mapError, Except.bind]
  | ok data =>
      change Outcome.ofExcept ((readResult m data).bind f) = .ok a ↔ _
      rw [Outcome.ofExcept, mapError_eq_ok]
      constructor
      · intro h
        cases hread : readResult m data with
        | error e =>
            rw [hread] at h
            cases h
        | ok value =>
            rw [hread] at h
            exact ⟨data, value, rfl, readResult_eq_ok_iff.mp hread, h⟩
      · rintro ⟨_, value, hdata, hvalue, hf⟩
        cases hdata
        rw [readResult_eq_ok_iff.mpr hvalue]
        exact hf

theorem map_eq_ok_iff {ε α β : Type} {r : Except ε α} {f : α → β} {b : β} :
    r.map f = .ok b ↔ ∃ a, r = .ok a ∧ f a = b := by
  cases r <;> simp [Except.map]

theorem toOption_eq_iff {ε α : Type} {r r' : Except ε α} (h : r.toOption = r'.toOption) (a : α) :
    r = .ok a ↔ r' = .ok a := by
  cases r <;> cases r' <;> simp_all [Except.toOption]

include hurl

theorem outcome_call_eq_ok_iff (c : ContractCall) (data : Bytes) :
    host.outcome url helpers (.call c block) = .ok data ↔ host.call c block = .ok data := by
  rw [outcome_call host hurl]
  exact mapError_eq_ok _ _ _

theorem outcome_balance_eq_ok_iff (account : Address) (amount : Amount) :
    host.outcome url helpers (.balance account block) = .ok amount ↔
      host.holding .zero account block = .ok amount := by
  rw [outcome_balance host hurl]
  exact mapError_eq_ok _ _ _

omit hurl in
theorem attempt_eq_ok_iff (c : ContractCall) (answer : Bool × Bytes × Unit) :
    host.attempt block (c.target, false, c.calldata, ()) = .ok answer ↔
      ∃ data, host.call c block = .ok data ∧ answer = succeeded data := by
  rw [attempt]
  cases host.call ⟨c.target, c.calldata⟩ block <;> simp [eq_comm]

omit hurl in
/-- All calls of a batch succeed if each of them does. -/
theorem mapM_attempt_eq_ok_iff (calls : List ContractCall) (answers : List (Bool × Bytes × Unit)) :
    (calls.map fun c => (c.target, false, c.calldata, ())).mapM (host.attempt block) = .ok answers ↔
      ∃ datas, answers = datas.map succeeded ∧
        List.Forall₂ (fun c data => host.call c block = .ok data) calls datas := by
  rw [mapM_eq_ok, List.forall₂_map_left_iff]
  simp only [attempt_eq_ok_iff]
  constructor
  · intro h
    induction h with
    | nil => exact ⟨[], rfl, .nil⟩
    | cons hanswer _ ih =>
        obtain ⟨data, hdata, rfl⟩ := hanswer
        obtain ⟨datas, rfl, hdatas⟩ := ih
        exact ⟨data :: datas, rfl, .cons hdata hdatas⟩
  · rintro ⟨datas, rfl, h⟩
    rw [List.forall₂_map_right_iff]
    exact h.imp fun c data hdata => ⟨data, hdata, rfl⟩

theorem outcome_batchCall_eq_ok_iff {calls : List ContractCall}
    (hfits : host.Fits (batchCall helpers calls) block)
    (haggregates : host.Aggregates (batchCall helpers calls) block) (datas : List Bytes) :
    host.outcome url helpers (.batchCall calls block) = .ok datas ↔
      List.Forall₂ (fun c data => host.outcome url helpers (.call c block) = .ok data) calls
        datas := by
  have hlimit : Memory.limit < UInt64.size := by decide
  have hargs : Multicall.aggregate3.arguments? (batchCall helpers calls).calldata =
      some (batchArguments calls) :=
    Multicall.aggregate3.arguments?_calldata (by decide) (Nat.lt_of_le_of_lt hfits.calldata hlimit)
  have hreturned := toOption_eq_iff (haggregates _ hargs)
  rw [outcome_batchCall host hurl, bind_readResult_eq_ok_iff]
  simp only [outcome_call_eq_ok_iff hurl]
  constructor
  · rintro ⟨data, answers, hdata, hdecode, hread⟩
    obtain ⟨returned, hmade, rfl⟩ := map_eq_ok_iff.mp ((hreturned data).mp hdata)
    obtain ⟨made, rfl, hcalls⟩ := (mapM_attempt_eq_ok_iff calls _).mp hmade
    have hsize := Nat.lt_of_le_of_lt (hfits.result _ hdata) hlimit
    rw [Multicall.aggregate3.decodeResult_value (by decide) hsize] at hdecode
    cases hdecode
    obtain ⟨-, hsame⟩ := readBatch_eq_ok_iff.mp hread
    rwa [← succeeded_injective.list_map hsame]
  · intro hcalls
    have hmade := (mapM_attempt_eq_ok_iff calls _).mpr ⟨datas, rfl, hcalls⟩
    have hdata := (hreturned _).mpr (map_eq_ok_iff.mpr ⟨_, hmade, rfl⟩)
    have hsize := Nat.lt_of_le_of_lt (hfits.result _ hdata) hlimit
    have hlength : (datas.map succeeded).length = calls.length := by
      rw [List.length_map, hcalls.length_eq]
    exact ⟨_, _, hdata, Multicall.aggregate3.decodeResult_value (by decide) hsize,
      readBatch_eq_ok_iff.mpr ⟨hlength, rfl⟩⟩

theorem outcome_bulkBalances_eq_ok_iff {accounts : List Address}
    (hfits : host.Fits (balancesCall helpers accounts) block)
    (hreads : host.ReadsBalances (balancesCall helpers accounts) block) (amounts : List Amount) :
    host.outcome url helpers (.bulkBalances accounts block) = .ok amounts ↔
      List.Forall₂ (fun account amount =>
        host.outcome url helpers (.balance account block) = .ok amount) accounts amounts := by
  have hlimit : Memory.limit < UInt64.size := by decide
  have hargs : BalanceBatcher.balances.arguments? (balancesCall helpers accounts).calldata =
      some (accounts, [.zero], ()) :=
    BalanceBatcher.balances.arguments?_calldata (by decide)
      (Nat.lt_of_le_of_lt hfits.calldata hlimit)
  have hreturned := toOption_eq_iff (hreads _ _ hargs)
  have hether : (accounts.flatMap fun user => [Address.zero].map fun token => (token, user)) =
      accounts.map fun user => (Address.zero, user) := by
    rw [List.map_eq_flatMap]
    rfl
  have hheld (amounts : List Amount) :
      ((accounts.map fun user => (Address.zero, user)).mapM
          fun (token, user) => host.holding token user block) = .ok amounts ↔
        List.Forall₂ (fun account amount => host.holding .zero account block = .ok amount)
          accounts amounts := by
    rw [mapM_eq_ok, List.forall₂_map_left_iff]
  rw [hether] at hreturned
  rw [outcome_bulkBalances host hurl, bind_readResult_eq_ok_iff]
  simp only [outcome_balance_eq_ok_iff hurl, ← hheld]
  constructor
  · rintro ⟨data, balances, hdata, hdecode, hread⟩
    obtain ⟨held, hmade, rfl⟩ := map_eq_ok_iff.mp ((hreturned data).mp hdata)
    have hsize := Nat.lt_of_le_of_lt (hfits.result _ hdata) hlimit
    rw [BalanceBatcher.balances.decodeResult_value (by decide) hsize] at hdecode
    cases hdecode
    obtain ⟨-, rfl⟩ := readBalances_eq_ok_iff.mp hread
    exact hmade
  · intro hmade
    have hdata := (hreturned _).mpr (map_eq_ok_iff.mpr ⟨_, hmade, rfl⟩)
    have hsize := Nat.lt_of_le_of_lt (hfits.result _ hdata) hlimit
    have hlength := ((hheld amounts).mp hmade).length_eq.symm
    exact ⟨_, _, hdata, BalanceBatcher.balances.decodeResult_value (by decide) hsize,
      readBalances_eq_ok_iff.mpr ⟨hlength, rfl⟩⟩

/-- What a client makes of any results that a batch returns. -/
theorem outcome_batchCall_of_results {calls : List ContractCall}
    {data : Bytes} {results : List (Bool × Bytes × Unit)}
    (hdata : host.call (batchCall helpers calls) block = .ok data)
    (hresults : Multicall.aggregate3.decodeResult data = .ok results) :
    host.outcome url helpers (.batchCall calls block) =
      Outcome.ofExcept (readBatch calls results) := by
  rw [outcome_batchCall host hurl]
  change ((host.call (batchCall helpers calls) block).mapError _).bind _ = _
  rw [hdata]
  simp only [Except.mapError, Except.bind, readResult_eq_ok_iff.mpr hresults]

end Client

/-! ## A host with both contracts -/

/-- The host on which all calls return what they are given. -/
def echo : ContractHost where
  call c _ := .ok c.calldata
  holding _ account _ := .ok (BitVec.ofNat 256 account.toNat)

/-- The refusal of calldata that a contract does not know. -/
def unknownFunction : Refusal := ⟨3, "execution reverted", [], by decide⟩

def sampleHelpers : HelperContracts := ⟨.ofNat 1, .ofNat 2⟩

/-- The host that echoes, with the two contracts that answer many questions in one call. -/
def sample : ContractHost where
  call c block :=
    if c.target = sampleHelpers.multicall then
      match Multicall.aggregate3.arguments? c.calldata with
      | some (calls, ()) => (calls.mapM (echo.attempt block)).map Multicall.aggregate3.encodeResult
      | none => .error unknownFunction
    else if c.target = sampleHelpers.balanceBatcher then
      match BalanceBatcher.balances.arguments? c.calldata with
      | some (users, tokens, ()) =>
        ((users.flatMap fun user => tokens.map fun token => (token, user)).mapM
          fun (token, user) => echo.holding token user block).map
            BalanceBatcher.balances.encodeResult
      | none => .error unknownFunction
    else echo.call c block
  holding := echo.holding

def sampleCalls : List ContractCall := [⟨.ofNat 3, []⟩, ⟨.ofNat 4, [7]⟩]

end ContractHost

open ContractHost

/-- A batch is answered as its calls are by themselves, and many balances as single ones, if the two
contracts do what they are for. If the first does not, only a list of as many successes is taken. -/
theorem multicall_answers_as_single_calls (host : ContractHost) {url : Url}
    (hurl : url.isWeb = true) (helpers : HelperContracts) (block : UInt64) :
    (∀ calls, host.Fits (batchCall helpers calls) block →
      host.Aggregates (batchCall helpers calls) block → ∀ datas,
        (host.outcome url helpers (.batchCall calls block) = .ok datas ↔
          List.Forall₂ (fun c data => host.outcome url helpers (.call c block) = .ok data) calls
            datas)) ∧
    (∀ accounts, host.Fits (balancesCall helpers accounts) block →
      host.ReadsBalances (balancesCall helpers accounts) block → ∀ amounts,
        (host.outcome url helpers (.bulkBalances accounts block) = .ok amounts ↔
          List.Forall₂ (fun account amount =>
            host.outcome url helpers (.balance account block) = .ok amount) accounts amounts)) ∧
    ∀ calls data results, host.call (batchCall helpers calls) block = .ok data →
      Multicall.aggregate3.decodeResult data = .ok results →
        (∀ datas, host.outcome url helpers (.batchCall calls block) = .ok datas ↔
          results.length = calls.length ∧ results = datas.map succeeded) ∧
        (results.length ≠ calls.length → ∃ e,
          host.outcome url helpers (.batchCall calls block) = .error (.error e) ∧
            e.kind = .decodeMismatch) ∧
        (results.length = calls.length → (∃ result ∈ results, result.1 = false) → ∃ e,
          host.outcome url helpers (.batchCall calls block) = .error (.error e) ∧
            e.kind = .sourceUnavailable) := by
  refine ⟨fun calls hfits haggregates datas =>
      outcome_batchCall_eq_ok_iff hurl helpers hfits haggregates datas,
    fun accounts hfits hreads amounts =>
      outcome_bulkBalances_eq_ok_iff hurl helpers hfits hreads amounts,
    fun calls data results hdata hresults => ?_⟩
  rw [outcome_batchCall_of_results hurl helpers hdata hresults]
  refine ⟨fun datas => ?_, fun hcount => ?_, fun hcount hfailed => ?_⟩
  · rw [Outcome.ofExcept, mapError_eq_ok, readBatch_eq_ok_iff]
  · rw [readBatch, if_neg hcount]
    exact ⟨_, rfl, rfl⟩
  · obtain ⟨e, he, hkind⟩ := unpackReplies_of_failed hcount hfailed
    rw [readBatch, if_pos hcount, he]
    exact ⟨e, rfl, hkind⟩

/-- On a host with both contracts, calls without and with calldata are answered as by themselves. -/
theorem multicall_answers_two_calls :
    sample.Fits (batchCall sampleHelpers sampleCalls) 9 ∧
      sample.Aggregates (batchCall sampleHelpers sampleCalls) 9 ∧
        sample.outcome (Gateway.baseUrl (Gateway.localServer 8545)) sampleHelpers
          (.batchCall sampleCalls 9) = .ok [[], [7]] := by
  have hencode : (Abi.encode _ (batchArguments sampleCalls)).length = 416 := by decide +kernel
  have hcalldata : (batchCall sampleHelpers sampleCalls).calldata.length = 420 := by
    change (Multicall.aggregate3.selector ++ _).length = 420
    rw [List.length_append, Multicall.aggregate3.length_selector, hencode]
  have hargs : Multicall.aggregate3.arguments? (batchCall sampleHelpers sampleCalls).calldata =
      some (batchArguments sampleCalls) :=
    Multicall.aggregate3.arguments?_calldata (by decide) (by
      change (batchCall sampleHelpers sampleCalls).calldata.length < _
      rw [hcalldata]
      decide)
  have hcall : sample.call (batchCall sampleHelpers sampleCalls) 9 =
      .ok (Multicall.aggregate3.encodeResult [succeeded [], succeeded [7]]) := by
    simp only [sample, hargs]
    rfl
  have hfits : sample.Fits (batchCall sampleHelpers sampleCalls) 9 := by
    refine ⟨by rw [hcalldata]; decide, fun data hdata => ?_⟩
    rw [hcall] at hdata
    cases hdata
    decide +kernel
  have haggregates : sample.Aggregates (batchCall sampleHelpers sampleCalls) 9 := by
    intro calls hcalls
    rw [hargs] at hcalls
    cases hcalls
    rw [hcall]
    rfl
  have hweb : (Gateway.baseUrl (Gateway.localServer 8545)).isWeb = true := rfl
  refine ⟨hfits, haggregates, ?_⟩
  refine ((multicall_answers_as_single_calls sample hweb sampleHelpers 9).1 sampleCalls hfits
    haggregates [[], [7]]).mpr ?_
  simp only [outcome_call_eq_ok_iff hweb]
  exact .cons rfl (.cons rfl .nil)

end StakeSnapshot
