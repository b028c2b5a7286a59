import StakeSnapshot.Proofs.Fetch.Completion
import StakeSnapshot.Proofs.Fetch.Records
import StakeSnapshot.Proofs.Pool.Splitting

/-!
# What a registry lists

The addresses of all nodes, and those of all minipools, are as many as a count that is read first,
and each is read from the reply to the call for its index (`Fetch.Enumerates`). This needs no
agreement between the replies: each is taken as it comes. The records of nodes and minipools keep
the addresses that they are fetched for, and come with a corrected stake.
-/

namespace StakeSnapshot

open StakeSnapshot.Task

section Replies

variable {a : Answers} {closed : Bool} {α : Type}

/-- Learning the configuration changes no answer of the execution chain. -/
theorem Answers.mayEnd_execution (q : ExecutionQuery α) (o : Outcome α) :
    MayEnd (a.replies closed) (.ask (.execution q)) o ↔ a.execution q = o :=
  (or_self_iff (a := o = a.execution q)).trans eq_comm

theorem Answers.mayEnd_beacon (q : BeaconQuery α) (o : Outcome α) :
    MayEnd (a.replies closed) (.ask (.beacon q)) o ↔ a.beacon q = o :=
  (or_self_iff (a := o = a.beacon q)).trans eq_comm

theorem Answers.returns_of_mayEnd_read {inputs : List Abi.Ty} {output : Abi.Ty}
    {m : Abi.Method inputs output} {target : Address} {args : Abi.Values inputs} {block : UInt64}
    {value : output.Value} (h : MayEnd (a.replies closed) (read m target args block) (.ok value)) :
    ExecutionQuery.Returns a.execution m target args block value := by
  obtain ⟨data, hdata, h⟩ := (mayEnd_bind_ok _ _ _).mp h
  refine ⟨data, (mayEnd_execution _ _).mp ((mayEnd_context_ok _ _ _).mp hdata), ?_⟩
  exact (mapError_eq_ok _ _ _).mp ((mayEnd_ofExcept_ok _ _).mp h)

end Replies

namespace Fetch

/-- The calls for the items with the indices in a batch, out of all indices below a count. -/
def itemCalls (item : Abi.Method [.uint256] .address) (target : Address) (count batch : Nat) :
    List ContractCall :=
  (batchAt addressBatch ((List.range count).map UInt64.ofNat) batch).map fun index =>
    item.call target (Amount.ofCount index, ())

/-- The addresses are as many as a first call returns, and the address at each index is read from
the reply to the call for this index. -/
structure Enumerates (answers : {α : Type} → ExecutionQuery α → Outcome α)
    (count : Abi.Method [] .uint256) (item : Abi.Method [.uint256] .address) (target : Address)
    (block : UInt64) (addresses : List Address) : Prop where
  count : ∃ n : Amount, ExecutionQuery.Returns answers count target () block n ∧
    addresses.length = min n.toNat (2 ^ 64 - 1)
  item (i : Nat) (address : Address) : addresses[i]? = some address → ∃ calls replies data,
    calls = itemCalls item target addresses.length (i / addressBatch) ∧
    calls[i % addressBatch]? = some (item.call target (Amount.ofCount (UInt64.ofNat i), ())) ∧
    answers (.batchCall calls block) = .ok replies ∧ replies[i % addressBatch]? = some data ∧
    item.decodeResult data = .ok address

theorem toNat_saturate (n : Amount) : n.saturate.toNat = min n.toNat (2 ^ 64 - 1) := by
  have hsize : UInt64.size = 2 ^ 64 := rfl
  unfold Amount.saturate
  split
  · rw [UInt64.toNat_ofNat_of_lt' (by assumption)]
    omega
  · rw [UInt64.toNat_ofNat_of_lt' (by omega)]
    omega

theorem length_indicesBelow {keySize : Nat} {count : Amount} {indices : List UInt64}
    (h : indicesBelow keySize count = .ok indices) :
    indices = (List.range count.saturate.toNat).map UInt64.ofNat := by
  unfold indicesBelow at h
  dsimp only at h
  cases hreserve : Memory.reserve keySize count.saturate.toNat with
  | error e =>
      rw [hreserve] at h
      cases h
  | ok _ =>
      rw [hreserve] at h
      cases h
      rfl

section Ends

variable {a : Answers} {closed : Bool} {κ ρ γ : Type} {init : κ → ρ}
  {fields : List (FieldSpec κ ρ)} {registry : Registry} {block : UInt64}

/-- The records keep what none of the stores changes. -/
theorem map_of_mayEnd_fetch {replies : Replies Query} {part : ρ → γ} (hfields : fields ≠ [])
    (hpart : ∀ f ∈ fields, ∀ data r r', f.store data r = .ok r' → part r' = part r)
    {batchSize : Nat} {keys : List κ} {rs : List ρ}
    (h : MayEnd replies (fetch init fields registry block batchSize keys) (.ok rs)) :
    rs.map part = keys.map fun key => part (init key) := by
  obtain ⟨hlength, -⟩ := mayEnd_fetch_batches hfields h
  apply List.ext_getElem?
  intro i
  rw [List.getElem?_map, List.getElem?_map]
  cases hkey : keys[i]? with
  | none =>
      rw [List.getElem?_eq_none_iff] at hkey
      rw [List.getElem?_eq_none (by omega)]
      rfl
  | some key =>
      obtain ⟨data, r, -, -, hr, hstore⟩ := mayEnd_fetch_record hfields h hkey
      rw [hr, Option.map_some, Option.map_some, storeAll_preserves hpart _ hstore]

/-- Balances come back one for each account. -/
theorem length_of_mayEnd_balances {replies : Replies Query} {accounts : List Address}
    {amounts : List Amount} (h : MayEnd replies (balances block accounts) (.ok amounts)) :
    amounts.length = accounts.length := by
  obtain ⟨parts, hparts, rfl⟩ := (mayEnd_map_ok _ _ _).mp h
  rw [mayEnd_mapError_ok, mayEnd_all_ok, List.forall₂_map_left_iff] at hparts
  refine length_flatten_chunks (hparts.imp fun piece part hpart => ?_)
  obtain ⟨-, hpart⟩ := (mayEnd_permitted_ok _ _).mp hpart
  obtain ⟨_, -, hpart⟩ := (mayEnd_bind_ok _ _ _).mp hpart
  obtain ⟨found, -, hpart⟩ := (mayEnd_bind_ok _ _ _).mp hpart
  split at hpart
  case isTrue hlength =>
      cases hpart
      exact hlength
  case isFalse => cases hpart

/-- The field that holds the address of an item. -/
def itemField (name : String) (item : Abi.Method [.uint256] .address)
    (target : Registry → Address) : FieldSpec UInt64 Address :=
  .ofMethod name item (fun registry _ => target registry) (fun index => (Amount.ofCount index, ()))
    fun address _ => address

theorem storeAll_itemField {name : String} {item : Abi.Method [.uint256] .address}
    {target : Registry → Address} {data : Bytes} {start address : Address}
    (h : storeAll [itemField name item target] [data] start = .ok address) :
    item.decodeResult data = .ok address := by
  rw [storeAll, FieldSpec.storeNamed, itemField, FieldSpec.ofMethod] at h
  dsimp only at h
  cases hdata : item.decodeResult data with
  | error e =>
      rw [hdata] at h
      cases h
  | ok found =>
      rw [hdata] at h
      cases h
      rfl

theorem enumerates_of_mayEnd (name : String) {count : Abi.Method [] .uint256}
    {item : Abi.Method [.uint256] .address} (target : Registry → Address) {addresses : List Address}
    (h : MayEnd (a.replies closed) (do
        let count ← read count (target registry) () block
        let indices ← Task.ofFaulty (indicesBelow 8 count)
        fetch (fun _ => Address.zero) [itemField name item target] registry block addressBatch
          indices)
      (.ok addresses)) :
    Enumerates a.execution count item (target registry) block addresses := by
  obtain ⟨n, hcount, h⟩ := (mayEnd_bind_ok _ _ _).mp h
  obtain ⟨indices, hindices, h⟩ := (mayEnd_bind_ok _ _ _).mp h
  have hindices := length_indicesBelow ((mayEnd_ofFaulty_ok _ _).mp hindices)
  have hfields : [itemField name item target] ≠ [] := List.cons_ne_nil _ _
  obtain ⟨hlength, -⟩ := mayEnd_fetch_batches hfields h
  rw [hindices, List.length_map, List.length_range] at hlength
  rw [← hlength] at hindices
  rw [toNat_saturate] at hlength
  refine ⟨⟨n, Answers.returns_of_mayEnd_read hcount, hlength⟩, fun i address haddress => ?_⟩
  obtain ⟨hi, -⟩ := List.getElem?_eq_some_iff.mp haddress
  have hkey : indices[i]? = some (UInt64.ofNat i) := by
    rw [hindices, List.getElem?_map, List.getElem?_range hi, Option.map_some]
  obtain ⟨replies, r, hreplies, hreplied, hr, hstore⟩ := mayEnd_fetch_record hfields h hkey
  rw [haddress] at hr
  cases hr
  have hsize : 0 < addressBatch := by decide
  have hplace := (getElem?_batchAt hsize indices i).trans hkey
  obtain ⟨hbelow, -⟩ := List.getElem?_eq_some_iff.mp hplace
  rw [List.length_singleton, Nat.mul_one] at hreplied
  have hdata : i % addressBatch < replies.length := hreplied ▸ hbelow
  have hone : repliesAt 1 replies (i % addressBatch) = [replies.get ⟨_, hdata⟩] := by
    rw [repliesAt, Nat.mul_one, List.drop_eq_getElem_cons hdata]
    rfl
  rw [List.length_singleton] at hstore
  change storeAll _ (repliesAt 1 replies (i % addressBatch)) _ = _ at hstore
  rw [hone] at hstore
  refine ⟨_, replies, _, rfl, ?_, ?_, List.getElem?_eq_getElem hdata, storeAll_itemField hstore⟩
  · rw [itemCalls, ← hindices, List.getElem?_map, hplace, Option.map_some]
  · have hcalls : callsFor [itemField name item target] registry
        (batchAt addressBatch indices (i / addressBatch)) =
        itemCalls item (target registry) addresses.length (i / addressBatch) := by
      rw [callsFor, itemCalls, ← hindices]
      exact List.map_eq_flatMap.symm
    rw [← hcalls]
    exact (Answers.mayEnd_execution _ _).mp hreplies

/-! ## Nodes and minipools -/

/-- The stores of the node table leave the address and the derived fields alone. -/
theorem table_kept_node : ∀ f ∈ NodeField.table, ∀ data r r', f.store data r = .ok r' →
    (r'.address, r'.derived) = (r.address, r.derived) := by
  unfold NodeField.table
  repeat refine List.forall_mem_cons.mpr ⟨ofMethod_preserves _ _ _ _ fun _ _ => rfl, ?_⟩
  exact fun f hf => by cases hf

theorem map_address_withBalances {nodes : List Node} {owns distributors : List Amount}
    (howns : owns.length = nodes.length) (hdistributors : distributors.length = nodes.length) :
    (withBalances nodes owns distributors).map Node.address = nodes.map Node.address := by
  induction nodes generalizing owns distributors with
  | nil => rfl
  | cons n nodes ih =>
      cases owns with
      | nil => cases howns
      | cons own owns =>
          cases distributors with
          | nil => cases hdistributors
          | cons distributor distributors =>
              rw [withBalances, List.map_cons, List.map_cons, Node.withBalances_address,
                ih (Nat.succ.inj howns) (Nat.succ.inj hdistributors)]

theorem of_mem_withBalances {nodes : List Node} {owns distributors : List Amount} {m : Node}
    (h : m ∈ withBalances nodes owns distributors) :
    ∃ n ∈ nodes, ∃ own distributor, m = n.withBalances own distributor := by
  induction nodes generalizing owns distributors with
  | nil => cases h
  | cons n nodes ih =>
      cases owns with
      | nil => cases h
      | cons own owns =>
          cases distributors with
          | nil => cases h
          | cons distributor distributors =>
              rw [withBalances, List.mem_cons] at h
              rcases h with rfl | h
              · exact ⟨n, List.mem_cons_self .., own, distributor, rfl⟩
              · obtain ⟨n', hn', hm⟩ := ih h
                exact ⟨n', List.mem_cons_of_mem _ hn', hm⟩

/-- The nodes that are fetched come with a corrected stake and without derived fields. -/
theorem underived_of_mayEnd_allNodes {replies : Replies Query} {nodes : List Node}
    (h : MayEnd replies (allNodes registry block) (.ok nodes)) :
    ∀ n ∈ nodes, n.StakeCorrected ∧ n.derived = (0, ⟨0, 0⟩) := by
  obtain ⟨addresses, -, h⟩ := (mayEnd_bind_ok _ _ _).mp h
  obtain ⟨records, hrecords, h⟩ := (mayEnd_bind_ok _ _ _).mp h
  obtain ⟨⟨owns, distributors⟩, -, h⟩ := (mayEnd_bind_ok _ _ _).mp h
  cases h
  have hkept := map_of_mayEnd_fetch (List.cons_ne_nil _ _) table_kept_node hrecords
  intro m hm
  obtain ⟨n, hn, own, distributor, rfl⟩ := of_mem_withBalances hm
  refine ⟨Node.withBalances_stakeCorrected n own distributor, ?_⟩
  have hmem := List.mem_map_of_mem (f := fun n : Node => (n.address, n.derived)) hn
  rw [hkept] at hmem
  obtain ⟨address, -, hnew⟩ := List.mem_map.mp hmem
  rw [Node.withBalances_derived]
  exact (congrArg Prod.snd hnew).symm

theorem mayEnd_allNodes {nodes : List Node}
    (h : MayEnd (a.replies closed) (allNodes registry block) (.ok nodes)) :
    Enumerates a.execution Contract.NodeManager.getNodeCount Contract.NodeManager.getNodeAt
        registry.nodeManager block (nodes.map Node.address) ∧
      ∀ n ∈ nodes, n.StakeCorrected ∧ n.averageNodeFee = 0 := by
  refine ⟨?_, fun n hn => ?_⟩
  · obtain ⟨addresses, haddresses, h⟩ := (mayEnd_bind_ok _ _ _).mp h
    obtain ⟨records, hrecords, h⟩ := (mayEnd_bind_ok _ _ _).mp h
    obtain ⟨⟨owns, distributors⟩, ⟨howns, hdistributors⟩, h⟩ := (mayEnd_bind_ok _ _ _).mp h
    cases h
    have hkept := map_of_mayEnd_fetch (List.cons_ne_nil _ _) table_kept_node hrecords
    have hmap : records.map Node.address = addresses := by
      have hfirst := congrArg (List.map Prod.fst) hkept
      rwa [List.map_map, List.map_map, List.map_id''] at hfirst
      exact fun _ => rfl
    have hlength : records.length = addresses.length := by rw [← hmap, List.length_map]
    have howns := (length_of_mayEnd_balances howns).trans hlength.symm
    have hdistributors := (length_of_mayEnd_balances hdistributors).trans (List.length_map _)
    rw [map_address_withBalances howns hdistributors, hmap]
    exact enumerates_of_mayEnd "getNodeAt" (·.nodeManager) haddresses
  · obtain ⟨hstake, hderived⟩ := underived_of_mayEnd_allNodes h n hn
    exact ⟨hstake, congrArg Prod.fst hderived⟩

theorem mayEnd_node {address : Address} {n : Node}
    (h : MayEnd (a.replies closed) (node registry block address) (.ok n)) :
    n.address = address ∧ n.StakeCorrected ∧ n.averageNodeFee = 0 := by
  obtain ⟨record, hrecord, h⟩ := (mayEnd_bind_ok _ _ _).mp h
  obtain ⟨⟨own, distributor⟩, -, h⟩ := (mayEnd_bind_ok _ _ _).mp h
  cases h
  obtain ⟨data, -, hstore⟩ := (mayEnd_bind_ok _ _ _).mp hrecord
  have hkept := storeAll_preserves table_kept_node _ ((mayEnd_ofExcept_ok _ _).mp hstore)
  have hderived := (Node.withBalances_derived record own distributor).trans
    (congrArg Prod.snd hkept)
  rw [Node.withBalances_address]
  exact ⟨congrArg Prod.fst hkept, Node.withBalances_stakeCorrected .., congrArg Prod.fst hderived⟩

theorem mayEnd_allMinipools {minipools : List Minipool}
    (h : MayEnd (a.replies closed) (allMinipools registry block) (.ok minipools)) :
    Enumerates a.execution Contract.MinipoolManager.getMinipoolCount
      Contract.MinipoolManager.getMinipoolAt registry.minipoolManager block
      (minipools.map Minipool.address) := by
  obtain ⟨addresses, haddresses, h⟩ := (mayEnd_bind_ok _ _ _).mp h
  have hkept := map_of_mayEnd_fetch (List.cons_ne_nil _ _) table_address_minipool h
  have hmap : minipools.map Minipool.address = addresses := by
    rw [hkept, List.map_id'']
    exact fun _ => rfl
  rw [hmap]
  exact enumerates_of_mayEnd "getMinipoolAt" (·.minipoolManager) haddresses

end Ends

end Fetch

end StakeSnapshot
