import StakeSnapshot.Contract.Registry
import StakeSnapshot.Query

/-!
# Fetching records in batches

A table of fields says which call reads each field of a record and how the reply is stored. `fetch`
looks up all fields for many keys: the keys are cut into batches, each batch is one request that
holds a permit, and the records come back in the order of the keys or not at all. `fetchDirect`
looks up one key with a call for each field.
-/

namespace StakeSnapshot

variable {κ ρ : Type}

/-- A field of the records `ρ`, looked up by a key `κ`. -/
structure FieldSpec (κ ρ : Type) where
  /-- The name of the function in messages. -/
  method : String
  /-- The call that reads the field. -/
  call : Registry → κ → ContractCall
  /-- Puts the reply into a record. -/
  store : Bytes → ρ → Except Error ρ

namespace FieldSpec

/-- A field that holds the result of a function as it is. -/
def ofMethod {inputs : List Abi.Ty} {output : Abi.Ty} (method : String)
    (m : Abi.Method inputs output) (target : Registry → κ → Address) (args : κ → Abi.Values inputs)
    (set : output.Value → ρ → ρ) : FieldSpec κ ρ where
  method := method
  call registry key := m.call (target registry key) (args key)
  store data r :=
    match m.decodeResult data with
    | .ok value => .ok (set value r)
    | .error e => .error e.toError

/-- The description in debugging output. -/
def text (f : FieldSpec κ ρ) : String :=
  "FieldSpec \x7b method: \"" ++ f.method ++ "\" \x7d"

/-- Stores a reply, naming the function if that fails. -/
def storeNamed (f : FieldSpec κ ρ) (data : Bytes) (r : ρ) : Except Error ρ :=
  (f.store data r).mapError (Error.context s!"decoding {f.method}")

end FieldSpec

namespace Fetch

/-- How many keys go into a batch when many fields are read for each. -/
def nodeBatch : Nat := 100
def minipoolBatch : Nat := 100

/-- How many keys go into a batch when one small answer is read for each. -/
def addressBatch : Nat := 1000

/-- Cuts a list into pieces of the given size, or of one item if the size is zero. The last piece
may be shorter. -/
def chunks {α : Type} (size : Nat) (items : List α) : List (List α) :=
  match items with
  | [] => []
  | a :: rest =>
    (a :: rest).take (max size 1) :: chunks size ((a :: rest).drop (max size 1))
termination_by items.length
decreasing_by simp only [List.length_drop, List.length_cons]; omega

/-- Stores a reply for each field, in the order of the table. -/
def storeAll : List (FieldSpec κ ρ) → List Bytes → ρ → Except Error ρ
  | f :: fields, data :: replies, r =>
    match f.storeNamed data r with
    | .ok r => storeAll fields replies r
    | .error e => .error e
  | _, _, r => .ok r

/-- The records of some keys, out of the replies for all fields of the first key, then of the
second, and so on. -/
def storeRecords (init : κ → ρ) (fields : List (FieldSpec κ ρ)) :
    List κ → List Bytes → Except Error (List ρ)
  | [], _ => .ok []
  | key :: keys, replies => do
    let r ← storeAll fields (replies.take fields.length) (init key)
    let rs ← storeRecords init fields keys (replies.drop fields.length)
    .ok (r :: rs)

/-- The calls for some keys, in the order in which `storeRecords` takes the replies. -/
def callsFor (fields : List (FieldSpec κ ρ)) (registry : Registry) (keys : List κ) :
    List ContractCall :=
  keys.flatMap fun key => fields.map fun f => f.call registry key

/-- The error of a fetch of which a part failed. -/
def partialFailure (e : Error) : Error := (Error.bare .partialFetchFailure).because e

/-- The records of one batch, whose first key is at some offset among all keys. -/
def fetchBatch (init : κ → ρ) (fields : List (FieldSpec κ ρ)) (registry : Registry)
    (block : UInt64) (offset : Nat) (keys : List κ) : Task Query (List ρ) :=
  .permitted do
    Task.ask (.session .countBatch)
    let calls := callsFor fields registry keys
    let replies ← (Task.ask (.execution (.batchCall calls block))).context
      s!"batch at offset {offset}"
    if replies.length = calls.length then
      .ofExcept (storeRecords init fields keys replies)
    else
      .failWith (.of .decodeMismatch
        s!"batch at offset {offset} returned {replies.length} results for {calls.length} calls")

/-- Looks up the fields for every key. A record starts as `init key`. -/
def fetch (init : κ → ρ) (fields : List (FieldSpec κ ρ)) (registry : Registry) (block : UInt64)
    (batchSize : Nat) (keys : List κ) : Task Query (List ρ) :=
  if fields.isEmpty || keys.isEmpty then pure (keys.map init)
  else
    let batches := (chunks batchSize keys).zipIdx.map fun (keys, i) =>
      fetchBatch init fields registry block (i * max batchSize 1) keys
    List.flatten <$> (Task.all batches).mapError partialFailure

/-- The balances of one batch of accounts. -/
def balanceBatch (block : UInt64) (accounts : List Address) : Task Query (List Amount) :=
  .permitted do
    Task.ask (.session .countBatch)
    let balances ← Task.ask (.execution (.bulkBalances accounts block))
    if balances.length = accounts.length then pure balances
    else
      .failWith (.of .decodeMismatch
        s!"got {balances.length} balances for {accounts.length} addresses")

/-- The balances of many accounts, in order. -/
def balances (block : UInt64) (accounts : List Address) : Task Query (List Amount) :=
  List.flatten <$>
    (Task.all ((chunks addressBatch accounts).map (balanceBatch block))).mapError partialFailure

/-- Looks up the fields for one key, with a call for each. Nothing is stored before all calls have
been answered. -/
def fetchDirect (fields : List (FieldSpec κ ρ)) (registry : Registry) (block : UInt64) (key : κ)
    (r : ρ) : Task Query ρ := do
  let replies ← Task.all (fields.map fun f =>
    let call := f.call registry key
    (Task.ask (.execution (.call call block))).context
      s!"calling {f.method} on {call.target.checksum}")
  .ofExcept (storeAll fields replies r)

end Fetch

end StakeSnapshot
