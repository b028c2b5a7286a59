import StakeSnapshot.Proofs.Pool.Splitting
import StakeSnapshot.Proofs.Simulation.Reads

/-!
# Orderly histories

In an orderly history all nodes and all minipools have their own addresses, and a minipool is added
after its node. A deployment with such a history keeps each record as it was added, so that all of
them can be read back (`Answers.Serve.mayEnd_allNodes`, `Answers.Serve.mayEnd_allMinipools`).
-/

namespace StakeSnapshot

namespace Simulation

structure Orderly (steps : List Step) : Prop where
  nodes : ((Ledger.after steps).nodes.map Node.address).Nodup
  minipools : ((Ledger.after steps).minipools.map Minipool.address).Nodup
  owners : ∀ before m later, steps = before ++ .addMinipool m :: later →
    m.nodeAddress ∈ (Ledger.after before).nodes.map Node.address

theorem Ledger.after_concat (steps : List Step) (step : Step) :
    Ledger.after (steps ++ [step]) = (Ledger.after steps).apply step :=
  List.foldl_append

theorem Orderly.of_concat {steps : List Step} {step : Step} (h : Orderly (steps ++ [step])) :
    Orderly steps where
  nodes := by
    have hnodes := h.nodes
    rw [Ledger.after_concat] at hnodes
    cases step with
    | addNode n =>
        change (((Ledger.after steps).nodes ++ [n]).map Node.address).Nodup at hnodes
        rw [List.map_append] at hnodes
        exact hnodes.of_append_left
    | _ => exact hnodes
  minipools := by
    have hminipools := h.minipools
    rw [Ledger.after_concat] at hminipools
    cases step with
    | addMinipool m =>
        change (((Ledger.after steps).minipools ++ [m]).map Minipool.address).Nodup at hminipools
        rw [List.map_append] at hminipools
        exact hminipools.of_append_left
    | _ => exact hminipools
  owners before m later hsteps := h.owners before m (later ++ [step]) (by
    rw [hsteps, List.append_assoc, List.cons_append])

namespace Ledger

variable (l : Ledger)

/-- The minipools that name a node as their owner. -/
def minipoolsOf (a : Address) : List Minipool := l.minipools.filter (·.nodeAddress = a)

/-- A node that was added, with the number of its minipools. -/
def counted (n : Node) : Node :=
  { n with minipoolCount := Amount.ofCount (UInt64.ofNat (l.minipoolsOf n.address).length) }

/-- A node that was added, with what has become of its balances and its minipools, and with an
effective stake that counts. Its fee and its shares are not known yet. -/
def unsplit (n : Node) : Node :=
  { n with
    minipoolCount := BitVec.ofNat 256 (l.minipoolsOf n.address).length
    balanceEth := l.balance n.address
    distributorBalance := l.balance n.feeDistributorAddress
    effectiveRplStake :=
      if n.effectiveRplStake < n.minimumRplStake then 0 else n.effectiveRplStake
    averageNodeFee := 0
    distributorBalanceUserEth := 0
    distributorBalanceNodeEth := 0 }

/-- The record of a node that was added, if its distributor's balance can be split. -/
def record (n : Node) : Except Error Node :=
  let own := l.minipoolsOf n.address
  ((l.unsplit n).shares own).map ((l.unsplit n).withShares own)

theorem minipoolsOf_addMinipool (m : Minipool) (a : Address) :
    (l.apply (.addMinipool m)).minipoolsOf a =
      l.minipoolsOf a ++ if m.nodeAddress = a then [m] else [] := by
  change (l.minipools ++ [m]).filter (·.nodeAddress = a) = _
  rw [List.filter_append, List.filter_singleton]
  by_cases ha : m.nodeAddress = a <;> simp [ha, minipoolsOf]

/-- No minipool names a node that has not been added. -/
theorem minipoolsOf_eq_nil {a : Address}
    (howners : ∀ m ∈ l.minipools, m.nodeAddress ∈ l.nodes.map Node.address)
    (ha : a ∉ l.nodes.map Node.address) : l.minipoolsOf a = [] := by
  rw [minipoolsOf, List.filter_eq_nil_iff]
  intro m hm heq
  exact ha (of_decide_eq_true heq ▸ howners m hm)

end Ledger

/-- Minipools name nodes that were added, and those that are counted for a node are those that name
it. -/
theorem Orderly.owned {steps : List Step} (h : Orderly steps) :
    (∀ m ∈ (Ledger.after steps).minipools,
      m.nodeAddress ∈ (Ledger.after steps).nodes.map Node.address) ∧
    ∀ a, (Ledger.after steps).owned a =
      ((Ledger.after steps).minipoolsOf a).map Minipool.address := by
  induction steps using List.reverseRecOn with
  | nil => exact ⟨nofun, fun _ => rfl⟩
  | append_singleton steps step ih =>
      obtain ⟨howners, howned⟩ := ih h.of_concat
      have hnodes := h.nodes
      rw [Ledger.after_concat] at hnodes ⊢
      generalize hl : Ledger.after steps = l at *
      cases step with
      | addNode n =>
          change ((l.nodes ++ [n]).map Node.address).Nodup at hnodes
          rw [List.map_append, List.map_singleton] at hnodes
          have hnew : n.address ∉ l.nodes.map Node.address := fun hmem =>
            (List.nodup_append.mp hnodes).2.2 _ hmem _ (List.mem_singleton_self _) rfl
          refine ⟨fun m hm => ?_, fun a => ?_⟩
          · change m.nodeAddress ∈ (l.nodes ++ [n]).map Node.address
            rw [List.map_append]
            exact List.mem_append_left _ (howners m hm)
          · change Function.update l.owned n.address [] a = (l.minipoolsOf a).map Minipool.address
            by_cases ha : a = n.address
            · rw [ha, Function.update_self, l.minipoolsOf_eq_nil howners hnew, List.map_nil]
            · rw [Function.update_of_ne ha, howned]
      | addMinipool m =>
          have howner := h.owners steps m [] rfl
          rw [hl] at howner
          refine ⟨fun m' hm' => ?_, fun a => ?_⟩
          · rcases List.mem_append.mp hm' with hm' | hm'
            · exact howners m' hm'
            · rw [List.mem_singleton.mp hm']
              exact howner
          · change Function.update l.owned m.nodeAddress (l.owned m.nodeAddress ++ [m.address]) a =
              _
            rw [l.minipoolsOf_addMinipool, List.map_append, ← howned]
            by_cases ha : m.nodeAddress = a
            · rw [ha, Function.update_self, if_pos rfl, List.map_singleton]
            · rw [Function.update_of_ne (Ne.symm ha), if_neg ha, List.map_nil, List.append_nil]
      | _ => exact ⟨howners, howned⟩

/-- Of items with their own keys, each is found by its key. -/
theorem find?_of_nodup {α β : Type} [DecidableEq β] {key : α → β} {items : List α}
    (hnodup : (items.map key).Nodup) {x : α} (hx : x ∈ items) :
    items.reverse.find? (fun y => key y = key x) = some x := by
  have hsome : (items.reverse.find? (fun y => key y = key x)).isSome := by
    rw [List.find?_isSome]
    exact ⟨x, List.mem_reverse.mpr hx, decide_eq_true rfl⟩
  obtain ⟨y, hy⟩ := Option.isSome_iff_exists.mp hsome
  have hkey : key y = key x := of_decide_eq_true (List.find?_some hy :)
  have hmem := List.mem_reverse.mp (List.mem_of_find?_eq_some hy)
  rw [hy, List.inj_on_of_nodup_map hnodup hmem hx hkey]

theorem Orderly.node? {steps : List Step} (h : Orderly steps) {n : Node}
    (hn : n ∈ (Ledger.after steps).nodes) :
    (Ledger.after steps).node? n.address = some ((Ledger.after steps).counted n) := by
  rw [Ledger.node?, find?_of_nodup h.nodes hn, Ledger.ownedCount, h.owned.2, List.length_map]
  rfl

theorem Orderly.minipool? {steps : List Step} (h : Orderly steps) {m : Minipool}
    (hm : m ∈ (Ledger.after steps).minipools) :
    (Ledger.after steps).minipool? m.address = some m :=
  find?_of_nodup h.minipools hm

/-- What is read for a node is its record before its balance is split. -/
theorem Ledger.withBalances_onChain (l : Ledger) (n : Node)
    (hfits : l.minipools.length < UInt64.size) :
    (Fetch.onChain (l.counted n)).withBalances (l.balance n.address)
      (l.balance n.feeDistributorAddress) = l.unsplit n := by
  have hlength : (l.minipoolsOf n.address).length < UInt64.size :=
    Nat.lt_of_le_of_lt (List.length_filter_le ..) hfits
  have hcount : Amount.ofCount (UInt64.ofNat (l.minipoolsOf n.address).length) =
      BitVec.ofNat 256 (l.minipoolsOf n.address).length := by
    rw [Amount.ofCount, UInt64.toNat_ofNat_of_lt' hlength]
  rw [counted, hcount]
  unfold Node.withBalances Node.fixEffectiveStake unsplit Fetch.onChain
  dsimp only
  split <;> rfl

end Simulation

namespace Answers.Serve

open StakeSnapshot.Task Simulation

variable {a : Answers} {storage : Address} {steps : List Step}
  (h : a.Serve storage (Ledger.after steps)) (block : UInt64)

include h

theorem mayEnd_allNodes (horderly : Orderly steps) (hmemory : (Ledger.after steps).InMemory) :
    MayEnd (.fixed a.query) (Fetch.allNodes (deployed storage) block)
      (.ok ((Ledger.after steps).nodes.map (Ledger.after steps).unsplit)) := by
  generalize hl : Ledger.after steps = l at *
  have hrecords : List.Forall₂ (fun address r => Fetch.Direct a.execution NodeField.table
      (deployed storage) block address (.new address) r) (l.nodes.map Node.address)
      (l.nodes.map fun n => Fetch.onChain (l.counted n)) := by
    rw [List.forall₂_map_left_iff, List.forall₂_map_right_iff, List.forall₂_same]
    intro n hn
    have hnode := horderly.node? (hl ▸ hn)
    rw [hl] at hnode
    exact h.direct_node block (n := l.counted n) hnode (hmemory.texts n hn)
  have hbalances : ∀ {α : Type} (items : List α) (account : α → Address),
      MayEnd (.fixed a.query) (Fetch.balances block (items.map account))
        (.ok (items.map fun x => l.balance (account x))) := by
    intro α items account
    rw [Fetch.mayEnd_balances_ok block h.balances, List.forall₂_map_left_iff,
      List.forall₂_map_right_iff, List.forall₂_same]
    exact fun x _ => h.balance (account x) block
  have hdistributors := hbalances l.nodes Node.feeDistributorAddress
  have hread : (l.nodes.map fun n => Fetch.onChain (l.counted n)).map Node.feeDistributorAddress =
      l.nodes.map Node.feeDistributorAddress := by
    rw [List.map_map]
    rfl
  rw [← hread] at hdistributors
  refine (mayEnd_bind_ok _ _ _).mpr ⟨_, h.mayEnd_nodeAddresses block hmemory, ?_⟩
  refine (mayEnd_bind_ok _ _ _).mpr ⟨_, (Fetch.mayEnd_fetch_ok _ _ _ _ h.calls _ _ _).mpr hrecords,
    ?_⟩
  refine (mayEnd_bind_ok _ _ _).mpr ⟨(_, _), ⟨hbalances l.nodes Node.address, hdistributors⟩, ?_⟩
  refine congrArg Except.ok ?_
  rw [Fetch.withBalances_map]
  exact List.map_congr_left fun n _ => (l.withBalances_onChain n hmemory.fits.minipools).symm

theorem mayEnd_allMinipools (horderly : Orderly steps) (hmemory : (Ledger.after steps).InMemory) :
    MayEnd (.fixed a.query) (Fetch.allMinipools (deployed storage) block)
      (.ok (Ledger.after steps).minipools) := by
  refine (mayEnd_bind_ok _ _ _).mpr ⟨_, h.mayEnd_minipoolAddresses block hmemory, ?_⟩
  rw [Fetch.mayEnd_minipools_ok _ block h.calls, List.forall₂_map_left_iff, List.forall₂_same]
  exact fun m hm => h.direct_minipool block (horderly.minipool? hm)

end Answers.Serve

end StakeSnapshot
