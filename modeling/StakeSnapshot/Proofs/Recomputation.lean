import StakeSnapshot.Proofs.Fetch.Listing
import StakeSnapshot.Proofs.SingleNode
import StakeSnapshot.Proofs.Task.FirstPart

/-!
# Recomputing derived fields

The derived fields of a full snapshot say nothing that the rest of it does not say: a node whose
derived fields are reset is the node that was fetched, and settling it with the minipools which the
snapshot has for it gives the node back. This holds on any chains, which may answer a question
differently each time (`Request.derived_of_minipoolsOf`).
-/

namespace StakeSnapshot

open StakeSnapshot.Task

namespace Node

variable {n m : Node} {minipools : List Minipool}

/-- The record with its derived fields at zero. -/
def reset (n : Node) : Node :=
  { n with averageNodeFee := 0, distributorBalanceUserEth := 0, distributorBalanceNodeEth := 0 }

theorem reset_of_derived (h : n.derived = (0, ⟨0, 0⟩)) : n.reset = n := by
  cases n
  cases h
  rfl

theorem settled_eq_ok : n.settled minipools = .ok m ↔ n.settle minipools = (m, .ok ()) := by
  unfold settled
  split
  · next h => rw [h]; simp
  · next h => rw [h]; simp

/-- Settling changes the derived fields only. -/
theorem reset_of_settled (h : n.settled minipools = .ok m) : m.reset = n.reset := by
  rw [settled_eq] at h
  cases hshares : n.shares minipools with
  | error e =>
      rw [hshares] at h
      cases h
  | ok s =>
      rw [hshares] at h
      cases h
      rfl

end Node

/-! ## All nodes at once -/

section Assemble

variable {fetched nodes : List Node} {minipools : List Minipool}

/-- Nodes that were fetched without derived fields are the settled ones with these reset. -/
theorem fetched_eq_map_reset (hfetched : ∀ n ∈ fetched, n.reset = n)
    (hsettled : List.Forall₂ (fun n m => n.settled (minipools.filter (·.nodeAddress = n.address)) =
      .ok m) fetched nodes) : fetched = nodes.map Node.reset := by
  induction hsettled with
  | nil => rfl
  | @cons n m fetched nodes hm _ ih =>
      rw [List.forall_mem_cons] at hfetched
      rw [List.map_cons, Node.reset_of_settled hm, hfetched.1, ← ih hfetched.2]

theorem settle_reset (hsettled : settleNodes (nodes.map Node.reset) minipools = .ok nodes)
    (hnodup : (nodes.map Node.address).Nodup) {n : Node} (hn : n ∈ nodes) :
    n.reset.settle (minipools.filter (·.nodeAddress = n.address)) = (n, .ok ()) := by
  have hnodup' : ((nodes.map Node.reset).map Node.address).Nodup := by
    rw [List.map_map]
    exact hnodup
  have each := settleNodes_ok hnodup' hsettled
  rw [List.forall₂_map_left_iff, List.forall₂_same] at each
  exact Node.settled_eq_ok.mp (each n hn)

/-- Settling looks at no minipools but those of the nodes. -/
theorem settleNodes_of_owned (hsettled : settleNodes (nodes.map Node.reset) minipools = .ok nodes)
    (hnodup : (nodes.map Node.address).Nodup) {others : List Minipool}
    (howned : ∀ n ∈ nodes, others.filter (·.nodeAddress = n.address) =
      minipools.filter (·.nodeAddress = n.address)) :
    settleNodes (nodes.map Node.reset) others = .ok nodes := by
  have hnodup' : ((nodes.map Node.reset).map Node.address).Nodup := by
    rw [List.map_map]
    exact hnodup
  have howned' : ∀ n ∈ nodes.map Node.reset, others.filter (·.nodeAddress = n.address) =
      minipools.filter (·.nodeAddress = n.address) := by
    intro n hn
    obtain ⟨m, hm, rfl⟩ := List.mem_map.mp hn
    exact howned m hm
  rw [settleNodes_of_filter hnodup' howned', ← settleNodes_eq minipools hnodup', hsettled]

end Assemble

/-! ## The requests -/

namespace Request

/-- A full snapshot is put together after some beacon block has been found. -/
theorem mayEnd_snapshotAt_of_endsIn {σ : Type} {service : Service Query σ} {settings : Settings}
    {name : String} {storage : Address} {t : Task Query BeaconBlock} {s s' : σ} {st : Snapshot}
    (h : (timed settings name (t >>= snapshotAt storage)).EndsIn service s (.ok st, s')) :
    ∃ block, (snapshotAt storage block).MayEnd service.replies (.ok st) := by
  have hend : (t >>= snapshotAt storage).MayEnd service.replies (.ok st) :=
    h.mayEnd.resolve_right fun h => by cases h
  obtain ⟨block, -, hend⟩ := (mayEnd_bind_ok _ _ _).mp hend
  exact ⟨block, hend⟩

/-- The nodes of a full snapshot are those that were fetched, settled with the minipools which the
snapshot has for them. All minipools that were fetched are in the snapshot, and any others could
stand there for those that belong to none of its nodes. -/
theorem derived_of_minipoolsOf {ε β : Type} (client : Service ExecutionQuery ε)
    (beacon : Service BeaconQuery β) (settings : Settings) (storage : Address)
    {s s' : Surroundings ε β} {st : Snapshot}
    (hst : (headState settings storage).EndsIn (.ofChains client beacon) s (.ok st, s') ∨
      ∃ slot, (stateForSlot settings storage slot).EndsIn (.ofChains client beacon) s (.ok st, s'))
    (hnodup : (st.nodes.map Node.address).Nodup) :
    let replies := (Service.ofChains client beacon).replies
    (∀ n ∈ st.nodes, n.reset.settle (st.minipoolsOf n.address) = (n, .ok ())) ∧
      ∃ registry,
        (Registry.load storage st.executionBlock).MayEnd replies (.ok registry) ∧
        (Fetch.allNodes registry st.executionBlock).MayEnd replies
          (.ok (st.nodes.map Node.reset)) ∧
        (Fetch.allMinipools registry st.executionBlock).MayEnd replies (.ok st.minipools) ∧
        ∀ others : List Minipool,
          (∀ n ∈ st.nodes, others.filter (·.nodeAddress = n.address) =
            st.minipoolsOf n.address) →
          settleNodes (st.nodes.map Node.reset) others = .ok st.nodes := by
  intro replies
  obtain ⟨block, hend⟩ : ∃ block, (snapshotAt storage block).MayEnd replies (.ok st) := by
    rcases hst with h | ⟨slot, h⟩
    · exact mayEnd_snapshotAt_of_endsIn h
    · exact mayEnd_snapshotAt_of_endsIn h
  obtain ⟨-, -, registry, hregistry, hassemble, -⟩ := mayEnd_snapshotAt_ok hend
  obtain ⟨fetched, hfetched, hminipools, hsettled⟩ := (mayEnd_assembleAll_ok _ _ _ _).mp hassemble
  have hreset : fetched = st.nodes.map Node.reset := by
    have hunderived : ∀ n ∈ fetched, n.reset = n := fun n hn =>
      Node.reset_of_derived (Fetch.underived_of_mayEnd_allNodes hfetched n hn).2
    refine fetched_eq_map_reset hunderived (settleNodes_ok ?_ hsettled)
    rwa [← settleNodes_address hsettled]
  subst hreset
  exact ⟨fun n hn => settle_reset hsettled hnodup hn, registry, hregistry, hfetched, hminipools,
    fun others howned => settleNodes_of_owned hsettled hnodup howned⟩

/-- The derived fields of the small pool, also from a list with a minipool that belongs to no node
of it. -/
theorem smallPool_derived :
    ∃ st s', (headState .default (.ofNat 1)).run
        (.ofChains (.fixed SmallPool.answers) (.fixed BeaconQuery.sample)) ⟨(), (), .new false⟩ =
          (.ok st, s') ∧
      st.nodes.map Node.address = [.ofNat 100, .ofNat 101] ∧
      (st.nodes.map Node.address).Nodup ∧
      (∀ n ∈ st.nodes, n.reset.settle (st.minipoolsOf n.address) = (n, .ok ())) ∧
      settleNodes (st.nodes.map Node.reset) (Minipool.new (.ofNat 300) :: st.minipools) =
        .ok st.nodes := by
  obtain ⟨st, s', hst, -, hnodes, -, -⟩ := SmallPool.headState_ok
  have hnodup : (st.nodes.map Node.address).Nodup := by
    rw [hnodes]
    decide
  obtain ⟨hderived, registry, -, -, -, hothers⟩ := derived_of_minipoolsOf
    (.fixed SmallPool.answers) (.fixed BeaconQuery.sample) .default (.ofNat 1)
    (.inl (.inl hst.symm)) hnodup
  refine ⟨st, s', hst, hnodes, hnodup, hderived, hothers _ fun n hn => ?_⟩
  -- The new record names no node, and no node has the address zero.
  have hmem := List.mem_map_of_mem (f := Node.address) hn
  rw [hnodes] at hmem
  have hforeign : (Minipool.new (.ofNat 300)).nodeAddress ≠ n.address := by
    intro h
    rw [← h] at hmem
    exact absurd hmem (by decide)
  rw [List.filter_cons_of_neg (by simpa using hforeign)]
  rfl

end Request

end StakeSnapshot
