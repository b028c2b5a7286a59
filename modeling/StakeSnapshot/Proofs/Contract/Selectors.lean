import Mathlib.Data.List.Nodup
import StakeSnapshot.Contract.Registry
import StakeSnapshot.Proofs.Abi.RoundTrip
import StakeSnapshot.Queue.Partition

/-!
# Digests that tell things apart

The functions of the contracts have different selectors, the contracts are kept under different keys
in storage, and so are the partitions of the queue. These are facts about finitely many digests, so
nothing has to be assumed of the digest function.
-/

namespace StakeSnapshot

theorem Contract.selectors_nodup : (catalogue.map fun e => e.method.selector).Nodup := by
  decide +kernel

/-- The selector tells the function, out of all that are known. -/
theorem Contract.entry_eq_of_selector {e e' : Entry} (he : e ∈ catalogue) (he' : e' ∈ catalogue)
    (h : e.method.selector = e'.method.selector) : e = e' :=
  List.inj_on_of_nodup_map selectors_nodup he he' h

theorem ContractName.storageKey_injective : Function.Injective storageKey := by
  have hnodup : (all.map storageKey).Nodup := by decide +kernel
  exact fun name name' h => List.inj_on_of_nodup_map hnodup (mem_all name) (mem_all name') h

theorem Partition.mem_drainOrder (p : Partition) : p ∈ drainOrder := by
  cases p <;> decide

theorem Partition.storageKey_injective : Function.Injective storageKey := by
  have hnodup : (drainOrder.map storageKey).Nodup := by decide +kernel
  exact fun p p' h => List.inj_on_of_nodup_map hnodup p.mem_drainOrder p'.mem_drainOrder h

end StakeSnapshot
