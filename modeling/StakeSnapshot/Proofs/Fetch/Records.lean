import StakeSnapshot.Amount.Lemmas
import StakeSnapshot.Proofs.Fetch.Batching
import StakeSnapshot.Proofs.Fetch.Fields
import StakeSnapshot.Proofs.Pool.Settling

/-!
# The records of nodes and minipools

What the fetches for a snapshot come to on chains that keep to their answers: a record of the full
snapshot is the record that is looked up for its address alone, and the minipools of a node are
those at the addresses which the registry keeps for the node.
-/

namespace StakeSnapshot

/-- The chain answers the call of a function by bytes that are read as a value. -/
def ExecutionQuery.Returns (answers : {α : Type} → ExecutionQuery α → Outcome α)
    {inputs : List Abi.Ty} {output : Abi.Ty} (m : Abi.Method inputs output) (target : Address)
    (args : Abi.Values inputs) (block : UInt64) (value : output.Value) : Prop :=
  ∃ data, answers (.call (m.call target args) block) = .ok data ∧ m.decodeResult data = .ok value

section Read

variable {inputs : List Abi.Ty} {output : Abi.Ty} (m : Abi.Method inputs output) (target : Address)
  (args : Abi.Values inputs) (block : UInt64)

theorem mayEnd_read_ok {a : Answers} (value : output.Value) :
    (read m target args block).MayEnd (.fixed a.query) (.ok value) ↔
      ExecutionQuery.Returns a.execution m target args block value := by
  rw [read, Task.mayEnd_bind_ok]
  refine exists_congr fun data => and_congr ?_ ?_
  · rw [Task.mayEnd_context_ok, Task.mayEnd_ask, Answers.query_execution]
  · rw [Task.mayEnd_ofExcept_ok, mapError_eq_ok]

theorem strict_read : (read m target args block).Strict :=
  ((Task.strict_ask _).context _).bind fun _ => trivial

theorem permitless_read : (read m target args block).Permitless :=
  Task.Permitless.bind ⟨trivial, fun _ => trivial⟩ fun _ => trivial

end Read

namespace Fetch

open StakeSnapshot.Task

/-! ## What storing leaves alone -/

section Store

variable {κ ρ γ : Type} {part : ρ → γ}

theorem storeAll_preserves {fields : List (FieldSpec κ ρ)}
    (hfields : ∀ f ∈ fields, ∀ data r r', f.store data r = .ok r' → part r' = part r)
    (replies : List Bytes) {start r : ρ} (h : storeAll fields replies start = .ok r) :
    part r = part start := by
  induction fields generalizing replies start with
  | nil =>
      cases replies <;> (cases h; rfl)
  | cons f fields ih =>
      cases replies with
      | nil =>
          cases h
          rfl
      | cons data replies =>
          obtain ⟨next, hstore, hrest⟩ := storeAll_cons_eq_ok.mp h
          have hrest := ih (fun f hf => hfields f (List.mem_cons_of_mem _ hf)) replies hrest
          rw [hrest, hfields f (List.mem_cons_self ..) data start next hstore]

theorem Direct.preserves {answers : {α : Type} → ExecutionQuery α → Outcome α}
    {fields : List (FieldSpec κ ρ)} {registry : Registry} {block : UInt64} {key : κ} {start r : ρ}
    (h : Direct answers fields registry block key start r)
    (hfields : ∀ f ∈ fields, ∀ data r r', f.store data r = .ok r' → part r' = part r) :
    part r = part start := by
  obtain ⟨replies, -, hstore⟩ := h
  exact storeAll_preserves hfields replies hstore

theorem ofMethod_preserves {inputs : List Abi.Ty} {output : Abi.Ty} (method : String)
    (m : Abi.Method inputs output) (target : Registry → κ → Address) (args : κ → Abi.Values inputs)
    {set : output.Value → ρ → ρ} (hset : ∀ value r, part (set value r) = part r) (data : Bytes)
    (r r' : ρ) (h : (FieldSpec.ofMethod method m target args set).store data r = .ok r') :
    part r' = part r := by
  dsimp only [FieldSpec.ofMethod] at h
  split at h
  · cases h
    exact hset _ r
  · cases h

theorem numberRow_preserves {γ δ : Type} {part : Minipool → γ} (m : Abi.Method [] .uint8)
    (ofNumber : UInt8 → Except Error δ) {set : δ → Minipool → Minipool}
    (hset : ∀ value r, part (set value r) = part r) (data : Bytes) (r r' : Minipool)
    (h : (MinipoolField.numberRow m ofNumber set).store data r = .ok r') : part r' = part r := by
  dsimp only [MinipoolField.numberRow] at h
  split at h
  · cases h
  · next n _ =>
      cases hnumber : ofNumber n with
      | error e =>
          rw [hnumber] at h
          cases h
      | ok value =>
          rw [hnumber] at h
          cases h
          exact hset value r

theorem table_address_node : ∀ f ∈ NodeField.table, ∀ data r r', f.store data r = .ok r' →
    r'.address = r.address := by
  unfold NodeField.table
  repeat refine List.forall_mem_cons.mpr ⟨ofMethod_preserves _ _ _ _ fun _ _ => rfl, ?_⟩
  exact fun f hf => by cases hf

theorem table_address_minipool : ∀ f ∈ MinipoolField.table, ∀ data r r', f.store data r = .ok r' →
    r'.address = r.address := by
  unfold MinipoolField.table
  repeat
    first
    | refine List.forall_mem_cons.mpr ⟨ofMethod_preserves _ _ _ _ fun _ _ => rfl, ?_⟩
    | refine List.forall_mem_cons.mpr ⟨numberRow_preserves _ _ fun _ _ => rfl, ?_⟩
  exact fun f hf => by cases hf

end Store

section Records

variable {a : Answers} (registry : Registry) (block : UInt64)

/-! ## Nodes -/

/-- The record that is looked up for a node alone. -/
theorem mayEnd_node_ok (address : Address) (n : Node) :
    MayEnd (.fixed a.query) (node registry block address) (.ok n) ↔
      ∃ r own distributor,
        Direct a.execution NodeField.table registry block address (.new address) r ∧
        a.execution (.balance address block) = .ok own ∧
        a.execution (.balance r.feeDistributorAddress block) = .ok distributor ∧
        n = r.withBalances own distributor := by
  rw [node, mayEnd_bind_ok]
  simp only [mayEnd_fetchDirect_ok, mayEnd_bind_ok]
  constructor
  · rintro ⟨r, hr, ⟨own, distributor⟩, ⟨hown, hdistributor⟩, hn⟩
    cases hn
    exact ⟨r, own, distributor, hr, (mayEnd_ask a.query _ _).mp hown,
      (mayEnd_ask a.query _ _).mp hdistributor, rfl⟩
  · rintro ⟨r, own, distributor, hr, hown, hdistributor, rfl⟩
    exact ⟨r, hr, (own, distributor), ⟨(mayEnd_ask a.query _ _).mpr hown,
      (mayEnd_ask a.query _ _).mpr hdistributor⟩, rfl⟩

theorem strict_node (address : Address) : (node registry block address).Strict :=
  (strict_fetchDirect _ registry block address _).bind fun _ =>
    Strict.bind ⟨strict_ask _, strict_ask _⟩ fun _ => trivial

theorem strict_allNodes : (allNodes registry block).Strict := by
  have addresses : (nodeAddresses registry block).Strict :=
    (strict_read _ _ _ _).bind fun _ => Strict.bind trivial fun _ => strict_fetch _ _ _ _ _ _
  refine addresses.bind fun _ => (strict_fetch _ _ _ _ _ _).bind fun _ => ?_
  exact Strict.bind ⟨strict_balances _ _, strict_balances _ _⟩ fun _ => trivial

theorem address_of_mayEnd_node {address : Address} {n : Node}
    (h : MayEnd (.fixed a.query) (node registry block address) (.ok n)) : n.address = address := by
  obtain ⟨r, own, distributor, hr, -, -, rfl⟩ := (mayEnd_node_ok registry block address n).mp h
  rw [Node.withBalances_address]
  exact hr.preserves table_address_node

/-- The records of a full snapshot are those that are looked up for the nodes one by one. -/
theorem forall₂_node {addresses : List Address} {records : List Node}
    {owns distributors : List Amount}
    (hrecords : List.Forall₂ (fun address r =>
      Direct a.execution NodeField.table registry block address (.new address) r) addresses records)
    (howns : List.Forall₂ (fun address own => a.execution (.balance address block) = .ok own)
      addresses owns)
    (hdistributors : List.Forall₂ (fun r distributor =>
      a.execution (.balance (Node.feeDistributorAddress r) block) = .ok distributor) records
      distributors) :
    List.Forall₂ (fun address n => MayEnd (.fixed a.query) (node registry block address) (.ok n))
      addresses (withBalances records owns distributors) := by
  induction hrecords generalizing owns distributors with
  | nil => exact .nil
  | cons hr _ ih =>
      cases howns with
      | cons hown howns =>
          cases hdistributors with
          | cons hdistributor hdistributors =>
              refine .cons ?_ (ih howns hdistributors)
              exact (mayEnd_node_ok registry block _ _).mpr
                ⟨_, _, _, hr, hown, hdistributor, rfl⟩

theorem node_of_mem_allNodes (hcalls : ExecutionQuery.BatchesCalls a.execution)
    (hbalances : ExecutionQuery.BatchesBalances a.execution) {nodes : List Node}
    (h : MayEnd (.fixed a.query) (allNodes registry block) (.ok nodes)) {n : Node}
    (hn : n ∈ nodes) : MayEnd (.fixed a.query) (node registry block n.address) (.ok n) := by
  obtain ⟨addresses, -, h⟩ := (mayEnd_bind_ok _ _ _).mp h
  obtain ⟨records, hrecords, h⟩ := (mayEnd_bind_ok _ _ _).mp h
  obtain ⟨⟨owns, distributors⟩, ⟨howns, hdistributors⟩, h⟩ := (mayEnd_bind_ok _ _ _).mp h
  cases h
  rw [mayEnd_fetch_ok _ _ _ _ hcalls] at hrecords
  rw [mayEnd_balances_ok _ hbalances] at howns hdistributors
  have hnodes := forall₂_node registry block hrecords howns
    (List.forall₂_map_left_iff.mp hdistributors)
  obtain ⟨address, -, hnode⟩ := forall₂_mem_right hnodes hn
  rwa [address_of_mayEnd_node registry block hnode]

/-- No node is fetched without a permit. -/
theorem grants_of_allNodes {replies : Replies Query} {nodes : List Node} {n : Node}
    (h : MayEnd replies (allNodes registry block) (.ok nodes)) (hn : n ∈ nodes) :
    replies.grants := by
  obtain ⟨addresses, -, h⟩ := (mayEnd_bind_ok _ _ _).mp h
  obtain ⟨records, hrecords, h⟩ := (mayEnd_bind_ok _ _ _).mp h
  obtain ⟨balances, -, h⟩ := (mayEnd_bind_ok _ _ _).mp h
  cases h
  cases records with
  | nil => cases hn
  | cons r records => exact grants_of_fetch rfl hrecords

/-! ## Minipools -/

/-- The record that is fetched for the minipool at an address. -/
def MinipoolAt (a : Answers) (registry : Registry) (block : UInt64) (address : Address)
    (m : Minipool) : Prop :=
  Direct a.execution MinipoolField.table registry block address (.new address) m

theorem mayEnd_minipools_ok (hcalls : ExecutionQuery.BatchesCalls a.execution)
    (addresses : List Address) (ms : List Minipool) :
    MayEnd (.fixed a.query) (minipools registry block addresses) (.ok ms) ↔
      List.Forall₂ (MinipoolAt a registry block) addresses ms :=
  mayEnd_fetch_ok _ _ registry block hcalls minipoolBatch addresses ms

theorem minipoolAt_of_mem_allMinipools (hcalls : ExecutionQuery.BatchesCalls a.execution)
    {ms : List Minipool}
    (h : MayEnd (.fixed a.query) (allMinipools registry block) (.ok ms)) {m : Minipool}
    (hm : m ∈ ms) : MinipoolAt a registry block m.address m := by
  obtain ⟨addresses, -, h⟩ := (mayEnd_bind_ok _ _ _).mp h
  rw [mayEnd_minipools_ok registry block hcalls] at h
  obtain ⟨address, -, hrecord⟩ := forall₂_mem_right h hm
  have haddress : m.address = address := hrecord.preserves table_address_minipool
  rwa [haddress]

/-- The registry keeps a list of addresses for a node: it returns the length of the list, and the
address at each index below it. -/
structure Lists (answers : {α : Type} → ExecutionQuery α → Outcome α) (registry : Registry)
    (block : UInt64) (node : Address) (addresses : List Address) : Prop where
  count : ExecutionQuery.Returns answers Contract.MinipoolManager.getNodeMinipoolCount
    registry.minipoolManager (node, ()) block (Amount.ofCount (UInt64.ofNat addresses.length))
  item (i : Nat) (h : i < addresses.length) :
    ExecutionQuery.Returns answers Contract.MinipoolManager.getNodeMinipoolAt
      registry.minipoolManager (node, Amount.ofCount (UInt64.ofNat i), ()) block addresses[i]

theorem indicesBelow_ofCount {keySize n : Nat} (hsize : keySize * n ≤ Memory.limit)
    (hn : n < UInt64.size) :
    indicesBelow keySize (Amount.ofCount (UInt64.ofNat n)) =
      .ok ((List.range n).map UInt64.ofNat) := by
  rw [indicesBelow, Amount.saturate_ofCount, UInt64.toNat_ofNat_of_lt' hn, Memory.reserve,
    if_neg (Nat.not_lt.mpr hsize)]
  rfl

/-- A field whose reply is the whole record. -/
theorem direct_nodeMinipoolAt {key : Address × UInt64} {start address : Address}
    (h : ExecutionQuery.Returns a.execution Contract.MinipoolManager.getNodeMinipoolAt
      registry.minipoolManager (key.1, Amount.ofCount key.2, ()) block address) :
    Direct a.execution [nodeMinipoolAt] registry block key start address := by
  obtain ⟨data, hdata, hdecode⟩ := h
  refine ⟨[data], .cons hdata .nil, ?_⟩
  have hstore : nodeMinipoolAt.storeNamed data start = .ok address :=
    (mapError_eq_ok _ _ _).mpr (by
      dsimp only [nodeMinipoolAt, FieldSpec.ofMethod]
      rw [hdecode])
  rw [storeAll, hstore]
  rfl

/-- The minipools of a node are those at the addresses that the registry keeps for it. -/
theorem mayEnd_nodeMinipools (hcalls : ExecutionQuery.BatchesCalls a.execution) {owner : Address}
    {addresses : List Address} (hlists : Lists a.execution registry block owner addresses)
    (hmemory : 32 * addresses.length ≤ Memory.limit) {ms : List Minipool}
    (hms : List.Forall₂ (MinipoolAt a registry block) addresses ms) :
    MayEnd (.fixed a.query) (nodeMinipools registry block owner) (.ok ms) := by
  have hlength : addresses.length < UInt64.size := by
    have hlimit : Memory.limit < UInt64.size := by decide
    omega
  refine (mayEnd_bind_ok _ _ _).mpr ⟨_, (mayEnd_read_ok _ _ _ _ _).mpr hlists.count, ?_⟩
  refine (mayEnd_bind_ok _ _ _).mpr
    ⟨_, (mayEnd_ofFaulty_ok _ _).mpr (indicesBelow_ofCount hmemory hlength), ?_⟩
  -- One key for each index below the count, and one address for each key.
  refine (mayEnd_bind_ok _ _ _).mpr ⟨addresses, ?_, ?_⟩
  · rw [mayEnd_fetch_ok _ _ _ _ hcalls]
    rw [List.forall₂_map_left_iff, List.forall₂_map_left_iff]
    refine List.forall₂_of_length_eq_of_get List.length_range fun i hi hi' => ?_
    refine direct_nodeMinipoolAt registry block ?_
    rw [List.get_eq_getElem, List.getElem_range]
    exact hlists.item i hi'
  · exact (mayEnd_minipools_ok registry block hcalls _ _).mpr hms

theorem strict_allMinipools : (allMinipools registry block).Strict := by
  have addresses : (minipoolAddresses registry block).Strict :=
    (strict_read _ _ _ _).bind fun _ => Strict.bind trivial fun _ => strict_fetch _ _ _ _ _ _
  exact addresses.bind fun _ => strict_fetch _ _ _ _ _ _

theorem strict_nodeMinipools (owner : Address) : (nodeMinipools registry block owner).Strict :=
  (strict_read _ _ _ _).bind fun _ => Strict.bind trivial fun _ =>
    (strict_fetch _ _ _ _ _ _).bind fun _ => strict_fetch _ _ _ _ _ _

end Records

end Fetch

end StakeSnapshot
