import StakeSnapshot.Proofs.Http.RemoteCall
import StakeSnapshot.Proofs.Task.Steady
import StakeSnapshot.Simulation.Gateway

/-!
# An endpoint that runs contracts

A host knows what each call of a contract returns at each block, or that it fails, and what each
account holds. Behind an endpoint it takes remote calls apart and writes its answers, and what a
client gets is what the host knows (`ContractHost.outcome_call`, `ContractHost.outcome_balance`).
-/

namespace StakeSnapshot

open Json Http Simulation

/-- Why a host has no answer, and what the contract returned that failed. -/
structure Refusal where
  code : Nat
  message : String
  data : Bytes
  code_le : (code : Int) ≤ RemoteError.largestCode

structure ContractHost where
  call : ContractCall → UInt64 → Except Refusal Bytes
  /-- What an account holds of a token. The token zero is ether. -/
  holding : (token account : Address) → UInt64 → Except Refusal Amount

/-- The failure that a client makes of a refusal. -/
def Refusal.failure (url : Url) (r : Refusal) : Failure :=
  .error (CallObstacle.toError url (.rejected ⟨r.code, r.message, none⟩))

namespace ContractHost

variable (host : ContractHost)

/-- The reply with an answer, in the form of its type. -/
def replyWith {α : Type} (form : α → Json) : Except Refusal α → Reply
  | .ok a => .ofJson 200 (RemoteAnswer.ofResult (form a))
  | .error r => .ofJson 200 (RemoteAnswer.ofError r.code r.message)

/-- The reply to a remote call. -/
def reply (c : RemoteCall) : Reply :=
  match c.method, c.params with
  | "eth_call", [params, block] =>
    match Gateway.callOfParams? params, ExecutionApi.quantity? block with
    | some call, some block => replyWith Gateway.bytesJson (host.call call block)
    | _, _ => Gateway.reverted
  | "eth_getBalance", [account, block] =>
    match JsonForm.ofJson? account, ExecutionApi.quantity? block with
    | some account, some block =>
      replyWith (toJson (α := Amount)) (host.holding .zero account block)
    | _, _ => Gateway.reverted
  | _, _ => Gateway.reverted

/-- What a client is answered. The endpoint takes what is posted, and knows of no session. -/
def answer : {α : Type} → Exchange α → Outcome α
  | _, .web (.send (.post _ body)) => .ok ((RemoteCall.ofJson? body).map host.reply)
  | _, .web (.send (.get _)) => .ok none
  | _, .session .knownConfig => .ok none
  | _, .session (.rememberConfig _) => .ok ()
  | _, .session .countBatch => .ok ()
  | _, .session (.recordSnapshot _) => .ok ()

/-- What becomes of a question that is put to the endpoint. -/
def outcome {α : Type} (url : Url) (helpers : HelperContracts) (q : ExecutionQuery α) :
    Outcome α :=
  ((ExecutionApi.ask url helpers q).run (.fixed host.answer) ()).1

/-! ## What a client gets -/

section Client

variable {url : Url} (hurl : url.isWeb = true)

include hurl

theorem run_perform {α : Type} (c : RemoteCall) (read : Reader α) :
    (c.perform url read).run (.fixed host.answer) () =
      (.ofExcept ((RemoteCall.readResult read (some (host.reply c))).mapError (·.toError url)),
        ()) := by
  rw [RemoteCall.perform, if_pos hurl, Task.run_bind]
  have hsend : Task.run (.fixed host.answer) (send (.post url c.toJson)) () =
      (.ok (some (host.reply c)), ()) := by
    rw [send, Task.run_ask]
    simp only [Service.fixed, answer, RemoteCall.ofJson?_toJson, Option.map_some]
  rw [hsend]
  rfl

/-- What a client reads of a reply is what the host knows. -/
theorem run_perform_of_reply {α : Type} {c : RemoteCall} {read : Reader α} {form : α → Json}
    {known : Except Refusal α} (hreply : host.reply c = replyWith form known)
    (hopens : ∀ a literal, form a ≠ .number literal)
    (hvalue : ∀ a, ∃ value, Reads readValue (render .compact (form a)) value)
    (hread : ∀ a, Reads read (render .compact (form a)) a) :
    (c.perform url read).run (.fixed host.answer) () = (known.mapError (·.failure url), ()) := by
  rw [run_perform host hurl, hreply]
  cases known with
  | ok a =>
      obtain ⟨value, hvalue⟩ := hvalue a
      rw [replyWith, RemoteCall.readResult_ofResult (hopens a) hvalue (hread a)]
      rfl
  | error r =>
      rw [replyWith, RemoteCall.readResult_ofError read r.code_le]
      rfl

theorem run_contractCall (c : ContractCall) (block : UInt64) :
    ((ExecutionApi.contractCall c block).perform url (.via ExecutionApi.bytes?)).run
        (.fixed host.answer) () = ((host.call c block).mapError (·.failure url), ()) := by
  have hparams : Gateway.callOfParams?
      (.object [("to", toJson c.target), ("input", .string c.calldata.toText)]) = some c := by
    simp [Gateway.callOfParams?, Json.member?, ExecutionApi.bytes?, Bytes.ofHex?_toText]
  have hreply : host.reply (ExecutionApi.contractCall c block) =
      replyWith Gateway.bytesJson (host.call c block) := by
    simp [reply, ExecutionApi.contractCall, hparams, ExecutionApi.quantity?_quantity]
  exact host.run_perform_of_reply hurl hreply (fun _ _ => Json.noConfusion)
    (fun bytes => ⟨_, reads_string bytes.toText⟩) ExecutionApi.reads_bytes

variable (helpers : HelperContracts)

theorem outcome_call (c : ContractCall) (block : UInt64) :
    host.outcome url helpers (.call c block) = (host.call c block).mapError (·.failure url) :=
  congrArg Prod.fst (host.run_contractCall hurl c block)

theorem outcome_balance (account : Address) (block : UInt64) :
    host.outcome url helpers (.balance account block) =
      (host.holding .zero account block).mapError (·.failure url) := by
  have hreply : host.reply (ExecutionApi.balanceCall account block) =
      replyWith (toJson (α := Amount)) (host.holding .zero account block) := by
    simp [reply, ExecutionApi.balanceCall, ExecutionApi.quantity?_quantity]
  exact congrArg Prod.fst (host.run_perform_of_reply hurl hreply LawfulJsonForm.toJson_ne_number
    (fun amount => ⟨_, reads_string amount.toText⟩)
    fun amount => LawfulJsonForm.reads_toJson amount .compact)

/-- What a client reads of the result of a contract function. -/
theorem run_invoke {inputs : List Abi.Ty} {output : Abi.Ty} (m : Abi.Method inputs output)
    (target : Address) (args : Abi.Values inputs) (block : UInt64) :
    (ExecutionApi.invoke url m target args block).run (.fixed host.answer) () =
      (((host.call (m.call target args) block).mapError (·.failure url)).bind fun data =>
        Outcome.ofExcept (ExecutionApi.readResult m data), ()) := by
  rw [ExecutionApi.invoke, Task.run_bind, run_contractCall host hurl]
  cases host.call (m.call target args) block <;> rfl

theorem outcome_batchCall (calls : List ContractCall) (block : UInt64) :
    host.outcome url helpers (.batchCall calls block) =
      ((host.call (Contract.Multicall.aggregate3.call helpers.multicall
        (ExecutionApi.batchArguments calls)) block).mapError (·.failure url)).bind fun data =>
          Outcome.ofExcept ((ExecutionApi.readResult Contract.Multicall.aggregate3 data).bind
            (ExecutionApi.readBatch calls)) := by
  rw [outcome, ExecutionApi.ask, Task.run_bind, run_invoke host hurl]
  cases host.call _ block with
  | error r => rfl
  | ok data =>
      simp only [Except.mapError, Except.bind]
      cases ExecutionApi.readResult Contract.Multicall.aggregate3 data <;> rfl

theorem outcome_bulkBalances (accounts : List Address) (block : UInt64) :
    host.outcome url helpers (.bulkBalances accounts block) =
      ((host.call (Contract.BalanceBatcher.balances.call helpers.balanceBatcher
        (accounts, [.zero], ())) block).mapError (·.failure url)).bind fun data =>
          Outcome.ofExcept ((ExecutionApi.readResult Contract.BalanceBatcher.balances data).bind
            (ExecutionApi.readBalances accounts)) := by
  rw [outcome, ExecutionApi.ask, Task.run_bind, run_invoke host hurl]
  cases host.call _ block with
  | error r => rfl
  | ok data =>
      simp only [Except.mapError, Except.bind]
      cases ExecutionApi.readResult Contract.BalanceBatcher.balances data <;> rfl

end Client

end ContractHost

end StakeSnapshot
