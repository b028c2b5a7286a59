import StakeSnapshot.Proofs.Contract.Loading
import StakeSnapshot.Proofs.Fetch.Listing
import StakeSnapshot.Proofs.Simulation.Chain
import StakeSnapshot.Proofs.Simulation.History

/-!
# Reading a deployment

What the reading functions come to on a chain that replies as a ledger says (`Answers.Serve`): the
registry is that of the deployment, the lists of addresses are those of the ledger, and so are the
records at these addresses.
-/

namespace StakeSnapshot

open StakeSnapshot.Task Simulation Contract

/-- The execution chain answers as a ledger of a deployment says. -/
structure Answers.Serve (a : Answers) (storage : Address) (l : Ledger) : Prop where
  calls : ExecutionQuery.BatchesCalls a.execution
  balances : ExecutionQuery.BatchesBalances a.execution
  reply : ∀ s data block, l.due s = some data →
    a.execution (.call (s.call (deployed storage)) block) = .ok data
  balance : ∀ account block, a.execution (.balance account block) = .ok (l.balance account)

theorem Simulation.Protocol.Shows.serve {p : Protocol} {storage : Address} {l : Ledger}
    (h : p.Shows storage l) (beacon : {α : Type} → BeaconQuery α → Outcome α)
    (known : Option BeaconConfig) :
    Answers.Serve ⟨p.chain.answers, beacon, known⟩ storage l where
  calls := p.chain.batchesCalls
  balances := p.chain.batchesBalances
  reply s data block hdue := by
    refine (p.chain.answers_call _ _ _).mpr (ExecutionChain.respond_of_reply ?_ ?_)
    · rw [h.failing]
      exact Std.HashSet.not_mem_empty
    · rw [← h.registry]
      exact h.reply s data hdue
  balance account block := congrArg Except.ok (h.balance account)

/-- A field whose reply is the whole record. -/
theorem Fetch.direct_itemField {a : Answers} {name : String}
    {item : Abi.Method [.uint256] .address} {target : Registry → Address} {registry : Registry}
    {block key : UInt64} {start address : Address}
    (h : ExecutionQuery.Returns a.execution item (target registry) (Amount.ofCount key, ()) block
      address) :
    Direct a.execution [itemField name item target] registry block key start address := by
  obtain ⟨data, hdata, hdecode⟩ := h
  refine ⟨[data], .cons hdata .nil, ?_⟩
  have hstore : (itemField name item target).storeNamed data start = .ok address :=
    (mapError_eq_ok _ _ _).mpr (store_ofMethod hdecode start)
  rw [storeAll, hstore]
  rfl

theorem Fetch.withBalances_map {α : Type} (items : List α) (record : α → Node)
    (own distributor : α → Amount) :
    withBalances (items.map record) (items.map own) (items.map distributor) =
      items.map fun x => (record x).withBalances (own x) (distributor x) := by
  induction items with
  | nil => rfl
  | cons x items ih => rw [List.map_cons, List.map_cons, List.map_cons, withBalances, ih,
      List.map_cons]

/-- Lists and texts that memory can hold. -/
structure Simulation.Ledger.InMemory (l : Ledger) : Prop where
  nodes : 8 * l.nodes.length ≤ Memory.limit
  minipools : 8 * l.minipools.length ≤ Memory.limit
  waiting : ∀ partition, 8 * (l.waiting partition).length ≤ Memory.limit
  texts : ∀ n ∈ l.nodes, (Bytes.ofString n.timezoneLocation).length ≤ Memory.limit

theorem Simulation.Ledger.InMemory.fits {l : Ledger} (h : l.InMemory) : l.Fits := by
  have hlimit : Memory.limit < UInt64.size := by decide
  have hfits : ∀ n, 8 * n ≤ Memory.limit → n < UInt64.size := fun n hn => by omega
  exact ⟨hfits _ h.nodes, hfits _ h.minipools, fun partition => hfits _ (h.waiting partition)⟩

namespace Answers.Serve

variable {a : Answers} {storage : Address} {l : Ledger} (h : a.Serve storage l) (block : UInt64)

include h

theorem returns {inputs : List Abi.Ty} {output : Abi.Ty} {m : Abi.Method inputs output}
    {target : Address} {args : Abi.Values inputs} {value : output.Value} (s : Slot)
    (hcall : s.call (deployed storage) = m.call target args) (hword : output.isWord = true)
    (hdue : l.due s = some (m.encodeResult value)) :
    ExecutionQuery.Returns a.execution m target args block value := by
  refine ⟨_, ?_, Abi.Method.decodeResult_encodeResult m hword value⟩
  rw [← hcall]
  exact h.reply s _ block hdue

/-! ## The registry -/

omit h in
/-- The registry of a deployment is made of the replies that tell where its contracts are. -/
theorem ofReplies_deployed :
    Registry.ofReplies storage block
        (ContractName.all.map fun name => Storage.getAddress.encodeResult (contractOf name)) =
      .ok (deployed storage) := by
  have tells : ∀ name, Registry.Tells (Storage.getAddress.encodeResult (contractOf name))
      (contractOf name) := by
    intro name
    have hzero : contractOf name ≠ .zero := by cases name <;> decide
    exact ⟨Abi.Method.decodeResult_encodeResult _ rfl _, hzero⟩
  refine Registry.ofReplies_eq_ok.mpr ⟨⟨List.length_map _, ?_⟩, contractOf, rfl, fun name => ?_⟩
  · rintro _ hdata
    obtain ⟨name, -, rfl⟩ := List.mem_map.mp hdata
    exact ⟨_, tells name⟩
  · refine ⟨_, ?_, tells name⟩
    rw [List.zip_map']
    exact List.mem_map_of_mem name.mem_all

theorem mayEnd_load :
    MayEnd (.fixed a.query) (Registry.load storage block) (.ok (deployed storage)) := by
  have hreplies : a.execution
      (.batchCall (ContractName.all.map (Registry.lookup storage)) block) =
      .ok (ContractName.all.map fun name => Storage.getAddress.encodeResult (contractOf name)) := by
    rw [h.calls, List.forall₂_map_left_iff, List.forall₂_map_right_iff, List.forall₂_same]
    exact fun name _ => h.reply (.contract name) _ block rfl
  refine (mayEnd_bind_ok _ _ _).mpr ⟨_, (mayEnd_context_ok _ _ _).mpr
    ((mayEnd_ask a.query _ _).mpr hreplies), (mayEnd_ofExcept_ok _ _).mpr ?_⟩
  exact ofReplies_deployed block

/-! ## Lists of addresses -/

omit h in
/-- A list that a contract keeps is read item by item. -/
theorem mayEnd_items (hcalls : ExecutionQuery.BatchesCalls a.execution) (name : String)
    {count : Abi.Method [] .uint256} {item : Abi.Method [.uint256] .address}
    (target : Registry → Address) {registry : Registry} {addresses : List Address}
    (hmemory : 8 * addresses.length ≤ Memory.limit)
    (hcount : ExecutionQuery.Returns a.execution count (target registry) () block
      (Protocol.amountOfNat addresses.length))
    (hitem : ∀ i (hi : i < addresses.length), ExecutionQuery.Returns a.execution item
      (target registry) (Amount.ofCount (UInt64.ofNat i), ()) block addresses[i]) :
    MayEnd (.fixed a.query) (do
        let count ← read count (target registry) () block
        let indices ← Task.ofFaulty (Fetch.indicesBelow 8 count)
        Fetch.fetch (fun _ => Address.zero) [Fetch.itemField name item target] registry block
          Fetch.addressBatch indices)
      (.ok addresses) := by
  have hfits : addresses.length < UInt64.size := by
    have hlimit : Memory.limit < UInt64.size := by decide
    omega
  rw [amountOfNat_eq hfits] at hcount
  refine (mayEnd_bind_ok _ _ _).mpr ⟨_, (mayEnd_read_ok _ _ _ _ _).mpr hcount, ?_⟩
  refine (mayEnd_bind_ok _ _ _).mpr
    ⟨_, (mayEnd_ofFaulty_ok _ _).mpr (Fetch.indicesBelow_ofCount hmemory hfits), ?_⟩
  rw [Fetch.mayEnd_fetch_ok _ _ _ _ hcalls, List.forall₂_map_left_iff]
  refine List.forall₂_of_length_eq_of_get List.length_range fun i hi hi' => ?_
  rw [List.get_eq_getElem, List.getElem_range]
  exact Fetch.direct_itemField (hitem i hi')

omit h in
theorem toNat_index {i : Nat} (hi : i < UInt64.size) :
    (Amount.ofCount (UInt64.ofNat i)).toNat = i := by
  rw [Amount.toNat_ofCount, UInt64.toNat_ofNat_of_lt' hi]

theorem mayEnd_nodeAddresses (hmemory : l.InMemory) :
    MayEnd (.fixed a.query) (Fetch.nodeAddresses (deployed storage) block)
      (.ok (l.nodes.map Node.address)) := by
  refine mayEnd_items block h.calls "getNodeAt" (·.nodeManager) ?_ ?_ fun i hi => ?_
  · rw [List.length_map]
    exact hmemory.nodes
  · rw [List.length_map]
    exact h.returns block .nodeCount rfl rfl rfl
  · rw [List.length_map] at hi
    refine h.returns block (.nodeAt _) rfl rfl ?_
    rw [Ledger.due, toNat_index (hi.trans hmemory.fits.nodes), List.getElem?_eq_getElem hi,
      List.getElem_map]
    rfl

theorem mayEnd_minipoolAddresses (hmemory : l.InMemory) :
    MayEnd (.fixed a.query) (Fetch.minipoolAddresses (deployed storage) block)
      (.ok (l.minipools.map Minipool.address)) := by
  refine mayEnd_items block h.calls "getMinipoolAt" (·.minipoolManager) ?_ ?_ fun i hi => ?_
  · rw [List.length_map]
    exact hmemory.minipools
  · rw [List.length_map]
    exact h.returns block .minipoolCount rfl rfl rfl
  · rw [List.length_map] at hi
    refine h.returns block (.minipoolAt _) rfl rfl ?_
    rw [Ledger.due, toNat_index (hi.trans hmemory.fits.minipools), List.getElem?_eq_getElem hi,
      List.getElem_map]
    rfl

/-! ## Records -/

theorem direct_node {n : Node} (hnode : l.node? n.address = some n)
    (htext : (Bytes.ofString n.timezoneLocation).length ≤ Memory.limit) :
    Fetch.Direct a.execution NodeField.table (deployed storage) block n.address (.new n.address)
      (Fetch.onChain n) := by
  have hstore := Fetch.storeAll_nodeTable htext
  refine ⟨_, ?_, hstore⟩
  rw [NodeGetter.table_eq, List.forall₂_map_left_iff, List.forall₂_map_right_iff, List.forall₂_same]
  intro g _
  refine h.reply (.node g n.address) _ block ?_
  rw [Ledger.due, hnode]
  rfl

theorem direct_minipool {m : Minipool} (hminipool : l.minipool? m.address = some m) :
    Fetch.MinipoolAt a (deployed storage) block m.address m := by
  have hstore := Fetch.storeAll_minipoolTable m
  refine ⟨_, ?_, hstore⟩
  rw [MinipoolGetter.table_eq, List.forall₂_map_left_iff, List.forall₂_map_right_iff,
    List.forall₂_same]
  intro g _
  rw [MinipoolGetter.call_field]
  refine h.reply (.minipool g m.address) _ block ?_
  rw [Ledger.due, hminipool]
  rfl

end Answers.Serve

end StakeSnapshot
