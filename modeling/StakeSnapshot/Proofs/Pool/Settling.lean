import Mathlib.Data.List.Forall2
import Mathlib.Data.List.Perm.Basic
import StakeSnapshot.Proofs.Task.Outcomes
import StakeSnapshot.Request

/-!
# Derived fields and the order of minipools

The derived fields of a node depend on its minipools only up to their order: the fees are added up,
in arithmetic that wraps, and counted. When all nodes of a pool are settled at once, each node with
its own address gets the minipools that name it.
-/

namespace StakeSnapshot

namespace Node

variable {minipools others : List Minipool}

theorem averageFee_perm (h : minipools.Perm others) : averageFee minipools = averageFee others := by
  have heligible := h.filter Minipool.isFeeEligible
  unfold averageFee
  have hcomm : ∀ (sum : Amount) (m m' : Minipool),
      sum + m.nodeFee + m'.nodeFee = sum + m'.nodeFee + m.nodeFee := by
    intro sum m m'
    rw [BitVec.add_assoc, BitVec.add_comm m.nodeFee, ← BitVec.add_assoc]
  have hsum := heligible.foldl_eq' (f := fun sum m => sum + m.nodeFee)
    (fun m _ m' _ sum => hcomm sum m m') (0 : Amount)
  have hlength := heligible.length_eq
  generalize minipools.filter Minipool.isFeeEligible = left at heligible hsum hlength ⊢
  generalize others.filter Minipool.isFeeEligible = right at heligible hsum hlength ⊢
  cases left with
  | nil => rw [heligible.nil_eq]
  | cons m left =>
      cases right with
      | nil => cases hlength
      | cons m' right => simp only [hsum, hlength]

theorem settled_perm (n : Node) (h : minipools.Perm others) :
    n.settled minipools = n.settled others := by
  have hfee := averageFee_perm h
  have hrecord : n.recordAverageFee minipools = n.recordAverageFee others := by
    rw [recordAverageFee, recordAverageFee, hfee]
  have hsettle : n.settle minipools = n.settle others := by
    simp only [settle, shares, hrecord, hfee]
  rw [settled, settled, hsettle]

theorem recordAverageFee_address (n : Node) (minipools : List Minipool) :
    (n.recordAverageFee minipools).address = n.address := by
  unfold recordAverageFee
  split <;> rfl

theorem settle_address (n : Node) (minipools : List Minipool) :
    (n.settle minipools).1.address = n.address := by
  unfold settle
  dsimp only
  split
  · exact recordAverageFee_address n minipools
  · exact recordAverageFee_address n minipools

theorem settled_address {n m : Node} (h : n.settled minipools = .ok m) :
    m.address = n.address := by
  have haddress := n.settle_address minipools
  unfold settled at h
  split at h
  · next heq =>
      cases h
      rwa [heq] at haddress
  · cases h

theorem fixEffectiveStake_address (n : Node) : n.fixEffectiveStake.address = n.address := by
  unfold fixEffectiveStake
  split <;> rfl

theorem withBalances_address (n : Node) (own distributor : Amount) :
    (n.withBalances own distributor).address = n.address :=
  fixEffectiveStake_address _

end Node

/-! ## All nodes at once -/

theorem settleNodes_cons_ok (n : Node) (nodes : List Node) (minipools : List Minipool)
    (settled : List Node) :
    settleNodes (n :: nodes) minipools = .ok settled ↔
      ∃ m rest, n.settled (minipools.filter (·.nodeAddress = n.address)) = .ok m ∧
        settleNodes nodes (minipools.filter (·.nodeAddress ≠ m.address)) = .ok rest ∧
        settled = m :: rest := by
  rw [settleNodes]
  cases n.settled (minipools.filter (·.nodeAddress = n.address)) with
  | error e => simp [bind, Except.bind]
  | ok m =>
      simp only [bind, Except.bind, Except.ok.injEq, exists_and_left, exists_eq_left']
      cases settleNodes nodes (minipools.filter (·.nodeAddress ≠ m.address)) with
      | error e => simp
      | ok rest => simp [eq_comm]

theorem settleNodes_address {nodes : List Node} {minipools : List Minipool} {settled : List Node}
    (h : settleNodes nodes minipools = .ok settled) :
    settled.map Node.address = nodes.map Node.address := by
  induction nodes generalizing minipools settled with
  | nil =>
      cases h
      rfl
  | cons n nodes ih =>
      obtain ⟨m, rest, hm, hrest, rfl⟩ := (settleNodes_cons_ok n nodes minipools settled).mp h
      rw [List.map_cons, List.map_cons, Node.settled_address hm, ih hrest]

/-- Nodes with different addresses are settled as each would be alone, also from a list that lacks
some minipools of others. -/
theorem settleNodes_of_filter {nodes : List Node} {minipools all : List Minipool}
    (hnodup : (nodes.map Node.address).Nodup)
    (hown : ∀ n ∈ nodes, minipools.filter (·.nodeAddress = n.address) =
      all.filter (·.nodeAddress = n.address)) :
    settleNodes nodes minipools =
      nodes.mapM fun n => n.settled (all.filter (·.nodeAddress = n.address)) := by
  induction nodes generalizing minipools with
  | nil => rfl
  | cons n nodes ih =>
      rw [List.map_cons, List.nodup_cons] at hnodup
      rw [settleNodes, List.mapM_cons, hown n (List.mem_cons_self ..)]
      cases hm : n.settled (all.filter (·.nodeAddress = n.address)) with
      | error e => rfl
      | ok m =>
          -- What the first node takes belongs to no later one.
          have hkept : ∀ x ∈ nodes, (minipools.filter (·.nodeAddress ≠ m.address)).filter
              (·.nodeAddress = x.address) = all.filter (·.nodeAddress = x.address) := by
            intro x hx
            have hne : x.address ≠ m.address := by
              rw [Node.settled_address hm]
              exact fun heq => hnodup.1 (heq ▸ List.mem_map_of_mem hx)
            rw [← hown x (List.mem_cons_of_mem _ hx), List.filter_filter]
            refine List.filter_congr fun p _ => ?_
            by_cases hp : p.nodeAddress = x.address
            · simp [hp, hne]
            · simp [hp]
          rw [← ih hnodup.2 hkept]
          rfl

theorem settleNodes_eq {nodes : List Node} (minipools : List Minipool)
    (hnodup : (nodes.map Node.address).Nodup) :
    settleNodes nodes minipools =
      nodes.mapM fun n => n.settled (minipools.filter (·.nodeAddress = n.address)) :=
  settleNodes_of_filter hnodup fun _ _ => rfl

theorem settleNodes_ok {nodes : List Node} {minipools : List Minipool} {settled : List Node}
    (hnodup : (nodes.map Node.address).Nodup) (h : settleNodes nodes minipools = .ok settled) :
    List.Forall₂ (fun n m => n.settled (minipools.filter (·.nodeAddress = n.address)) = .ok m)
      nodes settled := by
  rw [settleNodes_eq minipools hnodup] at h
  exact (mapM_eq_ok _ _ _).mp h

end StakeSnapshot
