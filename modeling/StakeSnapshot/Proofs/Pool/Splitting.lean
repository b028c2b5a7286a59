import StakeSnapshot.Amount.Lemmas
import StakeSnapshot.Proofs.Pool.Settling
import StakeSnapshot.Proofs.Task.Outcomes

/-!
# What the shares of a balance add up to

A balance is split in words of 256 bits, where sums wrap and products may overflow. A split that
succeeds is nevertheless one of natural numbers: the share of the node is a quotient rounded down,
and both shares together are the balance (`Shares.split_ok`). So a node that has been settled is
well formed (`Node.settled_wellFormed`), if its stake and its fee were before.
-/

namespace StakeSnapshot

namespace Shares

variable {balance ratio fee : Amount} {s s' : Shares}

/-- The shares are those of a balance, with nothing lost or made up. -/
def AddUpTo (balance : Amount) (s : Shares) : Prop :=
  s.node.toNat + s.user.toNat = balance.toNat

theorem toNat_one : Amount.one.toNat = 10 ^ 18 := rfl

theorem lt_one {a : Amount} : a < Amount.one ↔ a.toNat < 10 ^ 18 := by
  rw [BitVec.lt_def, toNat_one]

theorem one_lt {a : Amount} : Amount.one < a ↔ 10 ^ 18 < a.toNat := by
  rw [BitVec.lt_def, toNat_one]

theorem toNat_div_one (product : Amount) :
    (product / Amount.one).toNat = product.toNat / 10 ^ 18 := by
  rw [BitVec.toNat_udiv, toNat_one]

/-- What is left of a balance after a part of it. -/
theorem addUpTo_sub {part : Amount} (h : part.toNat ≤ balance.toNat) :
    AddUpTo balance ⟨part, balance - part⟩ := by
  have hle : part ≤ balance := BitVec.le_def.mpr h
  change part.toNat + (balance - part).toNat = balance.toNat
  rw [BitVec.toNat_sub_of_le hle]
  omega

theorem toNat_mul? {a b c : Amount} (h : Amount.mul? a b = some c) :
    c.toNat = a.toNat * b.toNat := by
  obtain ⟨hfits, rfl⟩ := Amount.mul?_eq_some_iff.mp h
  rw [BitVec.toNat_mul, Nat.mod_eq_of_lt hfits]

theorem ofCapital_ok (h : ofCapital balance ratio = .ok s) :
    10 ^ 18 ≤ ratio.toNat ∧ s.node.toNat = balance.toNat * 10 ^ 18 / ratio.toNat ∧
      s.AddUpTo balance := by
  unfold ofCapital at h
  split at h
  · cases h
  · next hratio =>
      have hratio : 10 ^ 18 ≤ ratio.toNat := by
        rw [lt_one] at hratio
        omega
      cases hscaled : Amount.mul? balance Amount.one with
      | none =>
          rw [hscaled] at h
          cases h
      | some scaled =>
          rw [hscaled] at h
          cases h
          have hnode : (scaled / ratio).toNat = balance.toNat * 10 ^ 18 / ratio.toNat := by
            rw [BitVec.toNat_udiv, toNat_mul? hscaled, toNat_one]
          refine ⟨hratio, hnode, addUpTo_sub ?_⟩
          rw [hnode]
          exact Nat.div_le_of_le_mul (by rw [Nat.mul_comm]; exact Nat.mul_le_mul_right _ hratio)

/-- A commission of at most a hundred percent is a part of what it is taken from. -/
theorem commission_le (user : Nat) {f : Nat} (h : f ≤ 10 ^ 18) :
    user * f / 10 ^ 18 ≤ user :=
  Nat.div_le_of_le_mul (by rw [Nat.mul_comm]; exact Nat.mul_le_mul_right _ h)

theorem withCommission_ok (hs : s.AddUpTo balance) (h : withCommission balance fee s = .ok s') :
    fee.toNat ≤ 10 ^ 18 ∧ s'.node.toNat = s.node.toNat + s.user.toNat * fee.toNat / 10 ^ 18 ∧
      s'.AddUpTo balance := by
  unfold withCommission at h
  split at h
  · cases h
  · next hfee =>
      have hfee : fee.toNat ≤ 10 ^ 18 := by
        rw [one_lt] at hfee
        omega
      cases hscaled : Amount.mul? s.user fee with
      | none =>
          rw [hscaled] at h
          cases h
      | some scaled =>
          rw [hscaled] at h
          cases h
          have hcommission : (scaled / Amount.one).toNat = s.user.toNat * fee.toNat / 10 ^ 18 := by
            rw [toNat_div_one, toNat_mul? hscaled]
          -- The commission is a part of what the users have, so the node's share does not wrap.
          have hpart := commission_le s.user.toNat hfee
          have hnode : (s.node + scaled / Amount.one).toNat =
              s.node.toNat + s.user.toNat * fee.toNat / 10 ^ 18 := by
            have hbalance := balance.isLt
            rw [AddUpTo] at hs
            rw [BitVec.toNat_add, hcommission, Nat.mod_eq_of_lt (by omega)]
          refine ⟨hfee, hnode, addUpTo_sub ?_⟩
          rw [hnode]
          rw [AddUpTo] at hs
          omega

/-- The shares of a balance, and what a balance that is not empty was checked against. -/
theorem split_ok {fee : Option Amount} (h : split balance ratio fee = .ok s) :
    s.AddUpTo balance ∧ (balance ≠ 0 →
      10 ^ 18 ≤ ratio.toNat ∧ ∀ f, fee = some f → f.toNat ≤ 10 ^ 18) := by
  unfold split at h
  split at h
  · next hzero =>
      cases h
      subst hzero
      exact ⟨rfl, fun h => absurd rfl h⟩
  · cases hcapital : ofCapital balance ratio with
    | error e =>
        rw [hcapital] at h
        cases h
    | ok shares =>
        rw [hcapital] at h
        obtain ⟨hratio, -, hsum⟩ := ofCapital_ok hcapital
        cases fee with
        | none =>
            cases h
            exact ⟨hsum, fun _ => ⟨hratio, fun f hf => by cases hf⟩⟩
        | some f =>
            obtain ⟨hfee, -, hsum⟩ := withCommission_ok hsum h
            refine ⟨hsum, fun _ => ⟨hratio, fun f' hf' => ?_⟩⟩
            cases hf'
            exact hfee

/-! ## Why a balance cannot be split -/

def ratioBelowOne (balance ratio : Amount) : Error :=
  .of .decodeMismatch
    s!"collateralisation ratio {ratio.decimal} below 1 with distributor balance {balance.decimal}"

def balanceOverflows (balance : Amount) : Error :=
  .of .decodeMismatch s!"balance {balance.decimal} overflows"

def feeAboveOne (fee : Amount) : Error :=
  .of .decodeMismatch s!"average node fee {fee.decimal} above 100%"

/-- The error of a commission that does not fit into a word before it is divided. -/
def feeOverflows (fee : Amount) : Error :=
  .of .decodeMismatch s!"fee {fee.decimal} overflows"

theorem exists_mul? {a b : Amount} (h : a.toNat * b.toNat < 2 ^ 256) :
    ∃ c, Amount.mul? a b = some c :=
  ⟨a * b, Amount.mul?_eq_some_iff.mpr ⟨h, rfl⟩⟩

theorem scaled_lt_of_ofCapital (h : ofCapital balance ratio = .ok s) :
    balance.toNat * 10 ^ 18 < 2 ^ 256 := by
  unfold ofCapital at h
  split at h
  · cases h
  · cases hscaled : Amount.mul? balance Amount.one with
    | none =>
        rw [hscaled] at h
        cases h
    | some scaled => exact (Amount.mul?_eq_some_iff.mp hscaled).1

/-- What the users have, times the fee, is at most the balance in fixed point, so it fits. -/
theorem exists_mul?_fee (hs : s.AddUpTo balance) (hbalance : balance.toNat * 10 ^ 18 < 2 ^ 256)
    (hfee : fee.toNat ≤ 10 ^ 18) : ∃ scaled, Amount.mul? s.user fee = some scaled := by
  apply exists_mul?
  rw [AddUpTo] at hs
  calc s.user.toNat * fee.toNat ≤ balance.toNat * 10 ^ 18 := Nat.mul_le_mul (by omega) hfee
    _ < 2 ^ 256 := hbalance

theorem ofCapital_error {e : Error} (h : ofCapital balance ratio = .error e) :
    e = ratioBelowOne balance ratio ∨ e = balanceOverflows balance := by
  unfold ofCapital at h
  split at h
  · cases h
    exact .inl rfl
  · split at h <;> cases h
    exact .inr rfl

theorem withCommission_error (hs : s.AddUpTo balance)
    (hbalance : balance.toNat * 10 ^ 18 < 2 ^ 256) {e : Error}
    (h : withCommission balance fee s = .error e) : e = feeAboveOne fee := by
  unfold withCommission at h
  split at h
  · cases h
    rfl
  · next hfee =>
      rw [one_lt, Nat.not_lt] at hfee
      obtain ⟨scaled, hscaled⟩ := exists_mul?_fee hs hbalance hfee
      rw [hscaled] at h
      cases h

/-- A balance that cannot be split is one of a node whose ratio, balance or fee makes no sense. -/
theorem split_error {fee : Option Amount} {e : Error} (h : split balance ratio fee = .error e) :
    e = ratioBelowOne balance ratio ∨ e = balanceOverflows balance ∨
      ∃ f, fee = some f ∧ e = feeAboveOne f := by
  unfold split at h
  split at h
  · cases h
  · split at h
    · next shares f hcapital =>
        have hbalance := scaled_lt_of_ofCapital hcapital
        exact .inr (.inr ⟨f, rfl, withCommission_error (ofCapital_ok hcapital).2.2 hbalance h⟩)
    · exact (ofCapital_error h).imp_right .inl

theorem kind_of_split {fee : Option Amount} {e : Error} (h : split balance ratio fee = .error e) :
    e.kind = .decodeMismatch := by
  rcases split_error h with rfl | rfl | ⟨f, -, rfl⟩ <;> rfl

end Shares

namespace Node

variable {n m : Node} {minipools : List Minipool}

/-- The effective stake is none, or no less than the minimum. -/
def StakeCorrected (n : Node) : Prop :=
  n.effectiveRplStake = 0 ∨ n.minimumRplStake ≤ n.effectiveRplStake

/-- What holds of every node of a snapshot, whatever was read for it. -/
structure WellFormed (n : Node) : Prop where
  stake : n.StakeCorrected
  shares : n.distributorBalanceNodeEth.toNat + n.distributorBalanceUserEth.toNat =
    n.distributorBalance.toNat
  ratio : n.distributorBalance ≠ 0 → 10 ^ 18 ≤ n.collateralisationRatio.toNat
  fee : n.distributorBalance ≠ 0 → n.averageNodeFee.toNat ≤ 10 ^ 18

theorem fixEffectiveStake_stakeCorrected (n : Node) : n.fixEffectiveStake.StakeCorrected := by
  unfold fixEffectiveStake
  split
  · exact .inl rfl
  · next h => exact .inr (BitVec.not_lt.mp h)

theorem withBalances_stakeCorrected (n : Node) (own distributor : Amount) :
    (n.withBalances own distributor).StakeCorrected :=
  fixEffectiveStake_stakeCorrected _

/-- The fields that are derived from a node's minipools: the mean fee, and the two shares. -/
def derived (n : Node) : Amount × Shares :=
  (n.averageNodeFee, ⟨n.distributorBalanceNodeEth, n.distributorBalanceUserEth⟩)

theorem withBalances_derived (n : Node) (own distributor : Amount) :
    (n.withBalances own distributor).derived = n.derived := by
  unfold withBalances fixEffectiveStake
  split <;> rfl

/-- The record with the derived fields that its minipools and its shares give. -/
def withShares (n : Node) (minipools : List Minipool) (s : Shares) : Node :=
  { n with
    averageNodeFee := (averageFee minipools).getD n.averageNodeFee
    distributorBalanceNodeEth := s.node
    distributorBalanceUserEth := s.user }

theorem shares_recordAverageFee (n : Node) (minipools : List Minipool) :
    (n.recordAverageFee minipools).shares minipools = n.shares minipools := by
  unfold recordAverageFee
  split <;> rfl

theorem recordAverageFee_eq (n : Node) (minipools : List Minipool) :
    n.recordAverageFee minipools =
      { n with averageNodeFee := (averageFee minipools).getD n.averageNodeFee } := by
  unfold recordAverageFee
  cases averageFee minipools <;> rfl

theorem settle_of_ok (n : Node) {s : Shares} (hs : n.shares minipools = .ok s) :
    n.settle minipools = (n.withShares minipools s, .ok ()) := by
  unfold settle
  dsimp only
  rw [shares_recordAverageFee, recordAverageFee_eq, hs]
  rfl

theorem settle_of_error (n : Node) {e : Error} (hs : n.shares minipools = .error e) :
    n.settle minipools = (n.recordAverageFee minipools, .error e) := by
  unfold settle
  dsimp only
  rw [shares_recordAverageFee, hs]

theorem settled_eq (n : Node) (minipools : List Minipool) :
    n.settled minipools = (n.shares minipools).map (n.withShares minipools) := by
  unfold settled
  cases hs : n.shares minipools with
  | ok s =>
      rw [n.settle_of_ok hs]
      rfl
  | error e =>
      rw [n.settle_of_error hs]
      rfl

theorem kind_of_shares {e : Error} (h : n.shares minipools = .error e) :
    e.kind = .decodeMismatch := by
  unfold shares at h
  cases hsplit : Shares.split n.distributorBalance n.collateralisationRatio
      (averageFee minipools) with
  | ok s =>
      rw [hsplit] at h
      cases h
  | error e' =>
      rw [hsplit] at h
      cases h
      rw [Error.kind_context]
      exact Shares.kind_of_split hsplit

/-- A node whose stake is corrected, and for which no fee has been recorded, is well formed after it
has been settled. -/
theorem settled_wellFormed (hstake : n.StakeCorrected) (hfee : n.averageNodeFee = 0)
    (h : n.settled minipools = .ok m) : m.WellFormed := by
  rw [settled_eq] at h
  cases hs : n.shares minipools with
  | error e =>
      rw [hs] at h
      cases h
  | ok s =>
      rw [hs] at h
      cases h
      obtain ⟨hsum, hchecked⟩ := Shares.split_ok ((mapError_eq_ok _ _ _).mp hs)
      refine ⟨hstake, hsum, fun hbalance => (hchecked hbalance).1, fun hbalance => ?_⟩
      cases haverage : averageFee minipools with
      | none => simp [withShares, haverage, hfee]
      | some fee =>
          have hle := (hchecked hbalance).2 fee haverage
          simpa [withShares, haverage] using hle

theorem kind_of_settled {e : Error} (h : n.settled minipools = .error e) :
    e.kind = .decodeMismatch := by
  rw [settled_eq] at h
  cases hs : n.shares minipools with
  | ok s =>
      rw [hs] at h
      cases h
  | error e' =>
      rw [hs] at h
      cases h
      exact kind_of_shares hs

end Node

theorem settleNodes_wellFormed {nodes settled : List Node} {minipools : List Minipool}
    (hnodes : ∀ n ∈ nodes, n.StakeCorrected ∧ n.averageNodeFee = 0)
    (h : settleNodes nodes minipools = .ok settled) : ∀ n ∈ settled, n.WellFormed := by
  induction nodes generalizing minipools settled with
  | nil =>
      cases h
      exact fun n hn => by cases hn
  | cons n nodes ih =>
      obtain ⟨m, rest, hm, hrest, rfl⟩ := (settleNodes_cons_ok n nodes minipools settled).mp h
      obtain ⟨hstake, hfee⟩ := hnodes n (List.mem_cons_self ..)
      refine List.forall_mem_cons.mpr ⟨Node.settled_wellFormed hstake hfee hm, ?_⟩
      exact ih (fun n' hn' => hnodes n' (List.mem_cons_of_mem _ hn')) hrest

end StakeSnapshot
