import StakeSnapshot.Proofs.Pool.MeanFee
import StakeSnapshot.Proofs.Recomputation

/-!
# Settling a record again

A record may be settled again and again, each time with other minipools. Whether this succeeds, and
with which shares, depends on the last minipools alone. The mean fee does not: it is recorded before
the balance is split, so it changes when the split fails, and nothing is recorded when no minipool
is eligible, so the mean of earlier minipools stays (`Node.settle_after`).
-/

namespace StakeSnapshot.Node

variable {n : Node} {minipools : List Minipool}

/-- The record after it was settled with some lists of minipools, one after the other, whether or
not its balance could be split. -/
def settleEach (n : Node) (lists : List (List Minipool)) : Node :=
  lists.foldl (fun n minipools => (n.settle minipools).1) n

/-! ## Settling once -/

/-- Settling changes the derived fields only, also when it fails. -/
theorem reset_settle (n : Node) (minipools : List Minipool) :
    (n.settle minipools).1.reset = n.reset := by
  cases hs : n.shares minipools with
  | ok s =>
      rw [n.settle_of_ok hs]
      rfl
  | error e =>
      rw [n.settle_of_error hs, recordAverageFee_eq]
      rfl

theorem shares_reset (n : Node) (minipools : List Minipool) :
    n.reset.shares minipools = n.shares minipools := rfl

theorem settle_snd (n : Node) (minipools : List Minipool) :
    (n.settle minipools).2 = (n.shares minipools).map fun _ => () := by
  cases hs : n.shares minipools with
  | ok s =>
      rw [n.settle_of_ok hs]
      rfl
  | error e =>
      rw [n.settle_of_error hs]
      rfl

/-- The mean fee is recorded, if there is one, whether or not the balance can be split. -/
theorem averageNodeFee_settle (n : Node) (minipools : List Minipool) :
    (n.settle minipools).1.averageNodeFee = (averageFee minipools).getD n.averageNodeFee := by
  cases hs : n.shares minipools with
  | ok s =>
      rw [n.settle_of_ok hs]
      rfl
  | error e => rw [n.settle_of_error hs, recordAverageFee_eq]

/-- A record is told by its derived fields and the rest. -/
theorem eq_iff_derived {m : Node} (h : m.reset = n.reset) : m = n ↔ m.derived = n.derived := by
  refine ⟨fun h => h ▸ rfl, fun hderived => ?_⟩
  cases m
  cases n
  cases h
  cases hderived
  rfl

/-! ## Settling again -/

theorem reset_settleEach (n : Node) (lists : List (List Minipool)) :
    (n.settleEach lists).reset = n.reset := by
  induction lists generalizing n with
  | nil => rfl
  | cons minipools rest ih => exact (ih _).trans (n.reset_settle minipools)

/-- The mean fee is that of the last list with an eligible minipool. -/
theorem averageNodeFee_settleEach (n : Node) (lists : List (List Minipool)) :
    (n.settleEach lists).averageNodeFee =
      (lists.filterMap averageFee).getLast?.getD n.averageNodeFee := by
  induction lists generalizing n with
  | nil => rfl
  | cons minipools rest ih =>
      refine (ih _).trans ?_
      rw [averageNodeFee_settle, List.filterMap_cons]
      cases averageFee minipools with
      | none => rfl
      | some fee => rw [List.getLast?_cons, Option.getD_some, Option.getD_some]

theorem averageFee_eq_none_iff : averageFee minipools = none ↔ feeCount minipools = 0 := by
  refine ⟨fun h => ?_, averageFee_eq_none⟩
  unfold averageFee at h
  unfold feeCount
  split at h
  · next heligible => rw [heligible]; rfl
  · cases h

/-- Settling comes out as it does for the record without its derived fields, but for the mean fee
when no minipool is eligible. -/
theorem settle_of_shares_ok {m : Node} (h : m.reset = n.reset) {s : Shares}
    (hs : n.shares minipools = .ok s) :
    (m.settle minipools).1.derived.2 = (n.settle minipools).1.derived.2 ∧
      ((m.settle minipools).1 = (n.settle minipools).1 ↔
        0 < feeCount minipools ∨ m.averageNodeFee = n.averageNodeFee) := by
  have hm : m.shares minipools = .ok s := by rw [← shares_reset, h, shares_reset, hs]
  have hreset : (m.settle minipools).1.reset = (n.settle minipools).1.reset := by
    rw [reset_settle, reset_settle, h]
  rw [eq_iff_derived hreset, m.settle_of_ok hm, n.settle_of_ok hs]
  refine ⟨rfl, ?_⟩
  simp only [derived, withShares, Prod.mk.injEq, and_true]
  cases hfee : averageFee minipools with
  | none =>
      have hcount := averageFee_eq_none_iff.mp hfee
      rw [Option.getD_none, Option.getD_none, hcount]
      exact (or_iff_right (Nat.lt_irrefl 0)).symm
  | some fee =>
      have hcount : 0 < feeCount minipools := by
        rw [Nat.pos_iff_ne_zero, ne_eq, ← averageFee_eq_none_iff, hfee]
        exact Option.some_ne_none fee
      exact iff_of_true rfl (.inl hcount)

/-- A failure leaves the shares, and the mean fee unless there is another one. -/
theorem settle_of_shares_error {e : Error} (hs : n.shares minipools = .error e) :
    (n.settle minipools).1.derived.2 = n.derived.2 ∧
      ((n.settle minipools).1 = n ↔
        ∀ fee, averageFee minipools = some fee → n.averageNodeFee = fee) := by
  have hreset := n.reset_settle minipools
  rw [eq_iff_derived hreset, n.settle_of_error hs, recordAverageFee_eq]
  refine ⟨rfl, ?_⟩
  simp only [derived, Prod.mk.injEq, and_true]
  cases averageFee minipools with
  | none => exact iff_of_true rfl fun _ h => by cases h
  | some fee =>
      rw [Option.getD_some, eq_comm]
      exact ⟨fun h fee' hfee' => Option.some.inj hfee' ▸ h, fun h => h fee rfl⟩

/-- Whatever a record was settled with before: settling it changes the derived fields only; whether
this succeeds, and with which shares, is as for the record with its derived fields at zero; and a
failure leaves the shares as they were. The record is then as it would be if settled from zero
exactly if a minipool is eligible or the mean fee was zero, and after a failure it is as before
exactly if no minipool is eligible or the mean fee was already theirs. -/
theorem settle_after (n : Node) (earlier : List (List Minipool)) (minipools : List Minipool) :
    let before := n.settleEach earlier
    let after := before.settle minipools
    let fromZero := n.reset.settle minipools
    before.averageNodeFee = (earlier.filterMap averageFee).getLast?.getD n.averageNodeFee ∧
    after.1.reset = n.reset ∧
    after.2 = fromZero.2 ∧
    (after.2 = .ok () → after.1.derived.2 = fromZero.1.derived.2 ∧
      (after.1 = fromZero.1 ↔ 0 < feeCount minipools ∨ before.averageNodeFee = 0)) ∧
    ∀ e, after.2 = .error e → after.1.derived.2 = before.derived.2 ∧
      (after.1 = before ↔
        ∀ fee, averageFee minipools = some fee → before.averageNodeFee = fee) := by
  intro before after fromZero
  have hreset : before.reset = n.reset.reset := n.reset_settleEach earlier
  have hshares : before.shares minipools = n.reset.shares minipools := by
    rw [← shares_reset before, hreset, shares_reset]
  have hafter : after.2 = (before.shares minipools).map fun _ => () := before.settle_snd minipools
  have hfromZero : fromZero.2 = (n.reset.shares minipools).map fun _ => () :=
    n.reset.settle_snd minipools
  refine ⟨n.averageNodeFee_settleEach earlier, (before.reset_settle minipools).trans hreset,
    by rw [hafter, hfromZero, hshares], fun hok => ?_, fun e herror => ?_⟩
  · cases hs : n.reset.shares minipools with
    | ok s => exact settle_of_shares_ok hreset hs
    | error e =>
        rw [hafter, hshares, hs] at hok
        cases hok
  · cases hs : before.shares minipools with
    | ok s =>
        rw [hafter, hs] at herror
        cases herror
    | error e => exact settle_of_shares_error hs

/-- A mean fee above a hundred percent is recorded although it is refused, and stays when no
minipool is eligible any more. -/
theorem settle_keeps_refused_fee :
    let first := (withOne.settle [feeMinipool 5]).1
    let second := first.settle [feeMinipool (2 * 10 ^ 18)]
    let third := second.1.settle []
    first.averageNodeFee = 5 ∧
      (∃ e, second.2 = .error e) ∧ second.1.averageNodeFee = BitVec.ofNat 256 (2 * 10 ^ 18) ∧
      third.2 = .ok () ∧ third.1.averageNodeFee = BitVec.ofNat 256 (2 * 10 ^ 18) ∧
      (second.1.reset.settle []).1.averageNodeFee = 0 := by
  intro first second third
  have hsecond : second.2.toOption = none := by decide +kernel
  refine ⟨by decide +kernel, ?_, by decide +kernel, by decide +kernel, by decide +kernel,
    by decide +kernel⟩
  cases h : second.2 with
  | error e => exact ⟨e, rfl⟩
  | ok u =>
      rw [h] at hsecond
      cases hsecond

/-- A record that was refused stays as it is when it is refused again with the same minipools, and
is settled with others as if from zero. -/
theorem settle_after_refused :
    let refused := [feeMinipool (2 * 10 ^ 18)]
    let before := withOne.settleEach [[feeMinipool 5], refused]
    before.averageNodeFee ≠ 0 ∧ (before.settle refused).1 = before ∧
      before.settle [feeMinipool 7] = withOne.reset.settle [feeMinipool 7] := by
  intro refused before
  obtain ⟨-, -, hresult, hsettled, -⟩ :=
    settle_after withOne [[feeMinipool 5], refused] [feeMinipool 7]
  obtain ⟨-, -, -, -, hkept⟩ := settle_after withOne [[feeMinipool 5], refused] refused
  have hok : (before.settle [feeMinipool 7]).2 = .ok () := by decide +kernel
  have herror : (before.settle refused).2.toOption = none := by decide +kernel
  refine ⟨by decide +kernel, ?_, Prod.ext ((hsettled hok).2.mpr (.inl (by decide))) hresult⟩
  cases he : (before.settle refused).2 with
  | ok u =>
      rw [he] at herror
      cases herror
  | error e =>
      refine (hkept e he).2.mpr fun fee hfee => ?_
      have hmean : averageFee refused = some before.averageNodeFee := by decide +kernel
      exact Option.some.inj (hmean.symm.trans hfee)

end StakeSnapshot.Node
