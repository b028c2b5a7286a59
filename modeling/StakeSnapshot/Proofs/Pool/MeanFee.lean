import Mathlib
import StakeSnapshot.Proofs.Pool.ExactShares

/-!
# The mean fee and what it is checked for

The fees of a node's minipools are added up in words that wrap, and only their mean is checked. So
the mean is the true one, and the check finds out whether it is above a hundred percent, as long as
the true sum of the fees is a word. Beyond that the mean is one of a sum from which multiples of
`2 ^ 256` are missing: implausible fees can pass for plausible ones (`Node.settle_meanFee`).
-/

namespace StakeSnapshot.Node

variable {n : Node} {minipools : List Minipool}

/-- The sum of the fees of the eligible minipools, as a natural number. -/
def feeTotal (minipools : List Minipool) : Nat :=
  ((minipools.filter Minipool.isFeeEligible).map fun m => m.nodeFee.toNat).sum

/-- How many minipools are eligible. -/
def feeCount (minipools : List Minipool) : Nat :=
  (minipools.filter Minipool.isFeeEligible).length

theorem feeCount_le (minipools : List Minipool) : feeCount minipools ≤ minipools.length :=
  List.length_filter_le _ _

/-- The sum in words is the true sum, less what has wrapped. -/
theorem toNat_foldl_nodeFee (minipools : List Minipool) (start : Amount) :
    (minipools.foldl (fun sum m => sum + m.nodeFee) start).toNat =
      (start.toNat + (minipools.map fun m => m.nodeFee.toNat).sum) % 2 ^ 256 := by
  induction minipools generalizing start with
  | nil => exact (Nat.mod_eq_of_lt start.isLt).symm
  | cons m rest ih =>
      rw [List.foldl_cons, ih, BitVec.toNat_add, Nat.mod_add_mod, List.map_cons, List.sum_cons,
        Nat.add_assoc]

theorem averageFee_eq_none (h : feeCount minipools = 0) : averageFee minipools = none := by
  unfold averageFee
  rw [List.eq_nil_of_length_eq_zero h]

theorem exists_averageFee (hcount : 0 < feeCount minipools)
    (hlength : minipools.length < 2 ^ 64) :
    ∃ fee, averageFee minipools = some fee ∧
      fee.toNat = feeTotal minipools % 2 ^ 256 / feeCount minipools := by
  have hle := feeCount_le minipools
  have hsum := toNat_foldl_nodeFee (minipools.filter Minipool.isFeeEligible) 0
  have hzero : (0 : Amount).toNat = 0 := rfl
  rw [hzero, Nat.zero_add] at hsum
  unfold averageFee
  unfold feeTotal feeCount at *
  generalize minipools.filter Minipool.isFeeEligible = eligible at hcount hle hsum ⊢
  cases eligible with
  | nil => cases hcount
  | cons m rest =>
      have hdivisor : (BitVec.ofNat 256 (m :: rest).length).toNat = (m :: rest).length := by
        rw [BitVec.toNat_ofNat]
        exact Nat.mod_eq_of_lt (by omega)
      exact ⟨_, rfl, by rw [BitVec.toNat_udiv, hsum, hdivisor]⟩

/-- What settling comes to if the mean fee is the given one: an error if it is above a hundred
percent, and otherwise a record with this mean. -/
def ChecksMean (n : Node) (minipools : List Minipool) (mean : Nat) : Prop :=
  if 10 ^ 18 < mean then
    ∃ e, (n.settle minipools).2 = .error e ∧ e.kind = .decodeMismatch
  else
    (n.settle minipools).2 = .ok () ∧ (n.settle minipools).1.averageNodeFee.toNat = mean

/-- The mean that is recorded and checked is that of the sum in words. -/
theorem checksMean_averageFee (hratio : 10 ^ 18 ≤ n.collateralisationRatio.toNat)
    (hbalance : n.distributorBalance ≠ 0) (hfits : n.distributorBalance.toNat * 10 ^ 18 < 2 ^ 256)
    {fee : Amount} (hfee : averageFee minipools = some fee) :
    n.ChecksMean minipools fee.toNat := by
  unfold ChecksMean
  split
  · next habove =>
      cases hs : n.shares minipools with
      | ok s =>
          have hsplit := (mapError_eq_ok _ _ _).mp hs
          have hle := ((Shares.split_ok hsplit).2 hbalance).2 fee hfee
          omega
      | error e =>
          rw [n.settle_of_error hs]
          exact ⟨e, rfl, kind_of_shares hs⟩
  · next hbelow =>
      have hplausible : Shares.Plausible n.distributorBalance n.collateralisationRatio
          (averageFee minipools) := by
        refine ⟨hratio, hfits, fun f hf => ?_⟩
        rw [hfee] at hf
        cases hf
        omega
      obtain ⟨s, hsplit⟩ := Shares.split_isOk_iff.mpr (.inr hplausible)
      have hs : n.shares minipools = .ok s := (mapError_eq_ok _ _ _).mpr hsplit
      rw [n.settle_of_ok hs, withShares, hfee]
      exact ⟨rfl, rfl⟩

/-- A sum that is no word is one of implausible fees, since there are fewer than `2 ^ 64`. -/
theorem one_lt_mean (hcount : 0 < feeCount minipools) (hlength : minipools.length < 2 ^ 64)
    (htotal : 2 ^ 256 ≤ feeTotal minipools) :
    10 ^ 18 < feeTotal minipools / feeCount minipools := by
  have hle := feeCount_le minipools
  refine Nat.lt_of_lt_of_le (m := 2 ^ 192) (by decide) ((Nat.le_div_iff_mul_le hcount).mpr ?_)
  calc 2 ^ 192 * feeCount minipools ≤ 2 ^ 192 * 2 ^ 64 := Nat.mul_le_mul_left _ (by omega)
    _ ≤ feeTotal minipools := htotal

/-- Of a fresh record whose balance has to be split, the mean fee is that of the sum in words, both
where it is recorded and where it is checked. It is the true mean, and checked as such, exactly if
the true sum is a word, or what is left of it still gives a mean that is refused. Without an
eligible minipool the mean fee stays zero. -/
theorem settle_meanFee (hfresh : n.derived = (0, ⟨0, 0⟩)) (hlength : minipools.length < 2 ^ 64) :
    (0 < feeCount minipools → 10 ^ 18 ≤ n.collateralisationRatio.toNat →
      n.distributorBalance ≠ 0 → n.distributorBalance.toNat * 10 ^ 18 < 2 ^ 256 →
      n.ChecksMean minipools (feeTotal minipools % 2 ^ 256 / feeCount minipools) ∧
      (n.ChecksMean minipools (feeTotal minipools / feeCount minipools) ↔
        feeTotal minipools < 2 ^ 256 ∨
          10 ^ 18 < feeTotal minipools % 2 ^ 256 / feeCount minipools)) ∧
    (feeCount minipools = 0 → (n.settle minipools).1.averageNodeFee = 0) := by
  refine ⟨fun hcount hratio hbalance hfits => ?_, fun hcount => ?_⟩
  · obtain ⟨fee, hfee, hvalue⟩ := exists_averageFee hcount hlength
    have hwrapped := checksMean_averageFee hratio hbalance hfits hfee
    rw [hvalue] at hwrapped
    refine ⟨hwrapped, fun hexact => ?_, fun h => ?_⟩
    · -- A sum that has wrapped can be told from its mean only if both means are refused.
      by_contra hnot
      rw [not_or, Nat.not_lt, Nat.not_lt] at hnot
      obtain ⟨htotal, hbelow⟩ := hnot
      rw [ChecksMean, if_neg (Nat.not_lt.mpr hbelow)] at hwrapped
      rw [ChecksMean, if_pos (one_lt_mean hcount hlength htotal)] at hexact
      obtain ⟨e, he, -⟩ := hexact
      rw [hwrapped.1] at he
      cases he
    · rcases h with hword | habove
      · rwa [Nat.mod_eq_of_lt hword] at hwrapped
      · have hle : feeTotal minipools % 2 ^ 256 / feeCount minipools ≤
            feeTotal minipools / feeCount minipools := Nat.div_le_div_right (Nat.mod_le _ _)
        rw [ChecksMean, if_pos habove] at hwrapped
        rwa [ChecksMean, if_pos (Nat.lt_of_lt_of_le habove hle)]
  · have hzero : n.averageNodeFee = 0 := congrArg Prod.fst hfresh
    have hnone := averageFee_eq_none hcount
    cases hs : n.shares minipools with
    | ok s =>
        rw [n.settle_of_ok hs, withShares, hnone]
        exact hzero
    | error e =>
        rw [n.settle_of_error hs, recordAverageFee, hnone]
        exact hzero

/-- A node with a balance of one. -/
def withOne : Node :=
  { new .zero with collateralisationRatio := Amount.one, distributorBalance := 1 }

/-- An eligible minipool with a fee. -/
def feeMinipool (fee : Nat) : Minipool :=
  { Minipool.new .zero with status := .staking, nodeFee := BitVec.ofNat 256 fee }

/-- Two fees of half the range of words pass for none. -/
theorem settle_wrapped :
    let minipools := [feeMinipool (2 ^ 255), feeMinipool (2 ^ 255)]
    10 ^ 18 < feeTotal minipools / feeCount minipools ∧
      (withOne.settle minipools).2 = .ok () ∧
      (withOne.settle minipools).1.averageNodeFee = 0 := by
  decide +kernel

/-- Two fees of a fifth and three tenths have a mean of a quarter. -/
theorem settle_meanFee_quarter :
    let minipools := [feeMinipool (2 * 10 ^ 17), feeMinipool (3 * 10 ^ 17)]
    withOne.ChecksMean minipools (25 * 10 ^ 16) := by
  intro minipools
  have hfresh : withOne.derived = (0, ⟨0, 0⟩) := rfl
  have hlength : minipools.length < 2 ^ 64 := by decide
  have settled := (settle_meanFee hfresh hlength).1 (by decide) (by decide) (by decide) (by decide)
  have hmean : feeTotal minipools % 2 ^ 256 / feeCount minipools = 25 * 10 ^ 16 := by decide
  rw [← hmean]
  exact settled.1

end StakeSnapshot.Node
