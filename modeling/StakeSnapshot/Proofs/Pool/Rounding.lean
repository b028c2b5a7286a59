import Mathlib
import StakeSnapshot.Proofs.Pool.ExactShares

/-!
# Rounding in a split

A split rounds down twice: what the node's capital earned, and the commission on what is left. The
node loses by it, but less than two units against its exact share, and less than one without a
commission (`Shares.split_rounds`). A part that is rounded down grows by no more than the whole it
is taken from. So of a larger balance neither side has less, and a larger ratio or a larger fee
moves units to one side only (`Shares.split_monotone`).
-/

namespace StakeSnapshot.Shares

variable {balance balance' ratio ratio' : Amount} {fee fee' : Option Amount} {s s' : Shares}

/-! ## The node's share in natural numbers -/

/-- What the node's own capital earned. -/
def earned (balance ratio : Nat) : Nat := balance * 10 ^ 18 / ratio

/-- What the node gets of the users' part. -/
def commission (users fee : Nat) : Nat := users * fee / 10 ^ 18

def nodeShare (balance ratio fee : Nat) : Nat :=
  earned balance ratio + commission (balance - earned balance ratio) fee

@[simp] theorem commission_zero (users : Nat) : commission users 0 = 0 := by
  simp [commission]

/-- Without a fee, the node has what a fee of zero gives it. -/
theorem toNat_node (h : split balance ratio fee = .ok s) :
    s.node.toNat = nodeShare balance.toNat ratio.toNat (fee.getD 0).toNat := by
  by_cases hzero : balance = 0
  · subst hzero
    cases h
    simp [nodeShare, earned, commission]
  · obtain ⟨hratio, hfits, -⟩ := (split_isOk_iff.mp ⟨s, h⟩).resolve_left hzero
    obtain ⟨capital, hcapital⟩ := ofCapital_isOk_iff.mpr ⟨hratio, hfits⟩
    obtain ⟨-, hnode, hsum⟩ := ofCapital_ok hcapital
    rw [split_of_ofCapital hzero hcapital] at h
    cases fee with
    | none =>
        cases h
        have hzeroFee : ((none : Option Amount).getD 0).toNat = 0 := rfl
        rw [hnode, nodeShare, hzeroFee, commission_zero]
        rfl
    | some f =>
        obtain ⟨-, hcommission, -⟩ := withCommission_ok hsum h
        have huser : capital.user.toNat = balance.toNat - capital.node.toNat := by
          rw [AddUpTo] at hsum
          omega
        rw [hcommission, huser, hnode]
        rfl

/-- What a balance that is not empty was checked against. -/
theorem checked_of_split (h : split balance ratio fee = .ok s) (hbalance : balance ≠ 0) :
    10 ^ 18 ≤ ratio.toNat ∧ (fee.getD 0).toNat ≤ 10 ^ 18 := by
  obtain ⟨hratio, hfee⟩ := (split_ok h).2 hbalance
  cases fee with
  | none => exact ⟨hratio, Nat.zero_le _⟩
  | some f => exact ⟨hratio, hfee f rfl⟩

/-- A fee of zero moves nothing. -/
theorem withCommission_zero (hs : s.AddUpTo balance) : withCommission balance 0 s = .ok s := by
  have hscaled : Amount.mul? s.user 0 = some 0 :=
    Amount.mul?_eq_some_iff.mpr ⟨by simp, by simp⟩
  have huser : balance - s.node = s.user := by
    rw [AddUpTo] at hs
    rw [← BitVec.toNat_inj, BitVec.toNat_sub_of_le (BitVec.le_def.mpr (by omega))]
    omega
  rw [withCommission, if_neg (by rw [one_lt]; simp), hscaled]
  simp [huser]

theorem split_none (balance ratio : Amount) :
    split balance ratio none = split balance ratio (some 0) := by
  unfold split
  cases hcapital : ofCapital balance ratio with
  | error e => rfl
  | ok capital =>
      dsimp only
      rw [withCommission_zero (ofCapital_ok hcapital).2.2]

/-! ## Against the exact share -/

/-- What the node would have of a balance without rounding. -/
def exactShare (balance ratio fee : Nat) : ℚ :=
  let capital : ℚ := balance * 10 ^ 18 / ratio
  capital + (balance - capital) * fee / 10 ^ 18

section Natural

variable {b r f : Nat}

/-- What is rounded down lacks less than one unit. -/
theorem cast_div_bounds (b r : Nat) :
    ((b / r : Nat) : ℚ) ≤ b / r ∧ (b / r : ℚ) < (b / r : Nat) + 1 := by
  refine ⟨Nat.cast_div_le, ?_⟩
  rw [← Nat.floor_div_eq_div (K := ℚ)]
  exact Nat.lt_floor_add_one _

theorem cast_earned_bounds (b r : Nat) :
    (earned b r : ℚ) ≤ b * 10 ^ 18 / r ∧ (b * 10 ^ 18 / r : ℚ) < earned b r + 1 := by
  have h := cast_div_bounds (b * 10 ^ 18) r
  rwa [Nat.cast_mul, Nat.cast_pow, Nat.cast_ofNat] at h

theorem cast_commission_bounds (b f : Nat) :
    (commission b f : ℚ) ≤ b * f / 10 ^ 18 ∧ (b * f / 10 ^ 18 : ℚ) < commission b f + 1 := by
  have h := cast_div_bounds (b * f) (10 ^ 18)
  rwa [Nat.cast_mul, Nat.cast_pow, Nat.cast_ofNat] at h

theorem earned_le (b : Nat) (hr : 10 ^ 18 ≤ r) : earned b r ≤ b :=
  Nat.div_le_of_le_mul (by rw [Nat.mul_comm]; exact Nat.mul_le_mul_right _ hr)

/-- What is lost in the first division belongs to the users, who pay the commission on it. So the
node loses less than one unit by it, and less than one more by the second division. -/
theorem nodeShare_bounds (hr : 10 ^ 18 ≤ r) (hf : f ≤ 10 ^ 18) :
    nodeShare b r f ≤ exactShare b r f ∧ exactShare b r f < nodeShare b r f + 2 ∧
      (f = 0 → exactShare b r f < nodeShare b r f + 1) := by
  obtain ⟨hbelow, habove⟩ := cast_earned_bounds b r
  obtain ⟨hbelow', habove'⟩ := cast_commission_bounds (b - earned b r) f
  rw [Nat.cast_sub (earned_le b hr)] at hbelow' habove'
  unfold nodeShare exactShare
  generalize (b * 10 ^ 18 / r : ℚ) = capital at hbelow habove ⊢
  have hrate : 0 ≤ (f / 10 ^ 18 : ℚ) ∧ (f / 10 ^ 18 : ℚ) ≤ 1 := by
    refine ⟨by positivity, (div_le_one (by positivity)).mpr ?_⟩
    exact_mod_cast hf
  have hlost : capital + (b - capital) * f / 10 ^ 18 = earned b r +
      (b - earned b r) * f / 10 ^ 18 + (capital - earned b r) * (1 - f / 10 ^ 18) := by
    ring
  have hnonneg : 0 ≤ (capital - earned b r) * (1 - f / 10 ^ 18) :=
    mul_nonneg (by linarith) (by linarith)
  have hltOne : (capital - earned b r) * (1 - f / 10 ^ 18) < 1 :=
    (mul_le_of_le_one_right (by linarith) (by linarith)).trans_lt (by linarith)
  dsimp only
  rw [Nat.cast_add, hlost]
  refine ⟨by linarith, by linarith, fun hzero => ?_⟩
  subst hzero
  rw [commission_zero, Nat.cast_zero, mul_zero, zero_div, sub_zero, mul_one]
  linarith

end Natural

/-- The node has no more than its exact share, and lacks less than two units of it, or less than one
without a fee. So the users have no less than theirs, and less than two units more. -/
theorem split_rounds (h : split balance ratio fee = .ok s) (hbalance : 0 < balance) :
    let exact := exactShare balance.toNat ratio.toNat (fee.getD 0).toNat
    s.node.toNat ≤ exact ∧ exact < s.node.toNat + 2 ∧
      (fee = none → exact < s.node.toNat + 1) ∧
      balance.toNat - exact ≤ s.user.toNat ∧ s.user.toNat < balance.toNat - exact + 2 := by
  intro exact
  obtain ⟨hratio, hfee⟩ := checked_of_split h ((BitVec.pos_iff_ne_zero balance).mp hbalance)
  obtain ⟨hle, hlt, hnone⟩ := nodeShare_bounds (b := balance.toNat) hratio hfee
  rw [← toNat_node h] at hle hlt hnone
  have huser : (s.user.toNat : ℚ) = balance.toNat - s.node.toNat := by
    rw [eq_sub_iff_add_eq, add_comm]
    exact_mod_cast (split_ok h).1
  refine ⟨hle, hlt, fun hfee => hnone ?_, ?_, ?_⟩
  · rw [hfee]
    rfl
  · rw [huser]
    exact sub_le_sub_left hle _
  · rw [huser]
    linarith

/-- Of a balance of 10, with a ratio of 5.3 and a fee of a tenth, the exact share of the node is
more than two and a half. It has one. -/
theorem split_rounds_ten :
    let ratio := BitVec.ofNat 256 (53 * 10 ^ 17)
    let fee := some (BitVec.ofNat 256 (10 ^ 17))
    let exact := exactShare 10 (53 * 10 ^ 17) (10 ^ 17)
    (0 : Amount) < 10 ∧ split 10 ratio fee = .ok ⟨1, 9⟩ ∧ 5 / 2 < exact ∧ exact < 1 + 2 ∧
      10 - exact ≤ 9 := by
  intro ratio fee exact
  have hpositive : (0 : Amount) < 10 := by decide
  have hsplit : split 10 ratio fee = .ok ⟨1, 9⟩ := by decide
  obtain ⟨-, hlt, -, huser, -⟩ := split_rounds hsplit hpositive
  refine ⟨hpositive, hsplit, ?_, hlt, huser⟩
  change 5 / 2 < exactShare 10 (53 * 10 ^ 17) (10 ^ 17)
  norm_num [exactShare]

/-! ## Against another split -/

section Natural

variable {b b' r r' f f' : Nat}

/-- A part that is rounded down grows with the whole, and by no more than the whole. -/
theorem part_mono {part one : Nat} (hpart : part ≤ one) (h : b ≤ b') :
    b * part / one ≤ b' * part / one ∧ b' * part / one + b ≤ b * part / one + b' := by
  refine ⟨Nat.div_le_div_right (Nat.mul_le_mul_right _ h), ?_⟩
  obtain ⟨more, rfl⟩ := Nat.exists_eq_add_of_le h
  rcases Nat.eq_zero_or_pos one with rfl | hone
  · simp
  · have hle : (b + more) * part / one ≤ b * part / one + more := by
      rw [← Nat.add_mul_div_right _ _ hone, Nat.add_mul]
      exact Nat.div_le_div_right (Nat.add_le_add_left (Nat.mul_le_mul_left _ hpart) _)
    omega

theorem earned_mono (hr : 10 ^ 18 ≤ r) (h : b ≤ b') :
    earned b r ≤ earned b' r ∧ earned b' r + b ≤ earned b r + b' :=
  part_mono hr h

theorem commission_mono (hf : f ≤ 10 ^ 18) (h : b ≤ b') :
    commission b f ≤ commission b' f ∧ commission b' f + b ≤ commission b f + b' :=
  part_mono hf h

/-- Of a larger balance the node has no less, and gets no more than all of what is added. -/
theorem nodeShare_mono_balance (hr : 10 ^ 18 ≤ r) (hf : f ≤ 10 ^ 18) (h : b ≤ b') :
    nodeShare b r f ≤ nodeShare b' r f ∧ nodeShare b' r f + b ≤ nodeShare b r f + b' := by
  have hle := earned_le b hr
  have hearned := earned_mono hr h
  have hcommission := commission_mono hf (show b - earned b r ≤ b' - earned b' r by omega)
  unfold nodeShare
  omega

/-- With a larger ratio the node's capital earned no more, and the commission makes up for no more
than what is missing. -/
theorem nodeShare_anti_ratio (hr : 10 ^ 18 ≤ r) (hf : f ≤ 10 ^ 18) (h : r ≤ r') :
    nodeShare b r' f ≤ nodeShare b r f := by
  have hle := earned_le b hr
  have hearned : earned b r' ≤ earned b r := Nat.div_le_div_left h (by omega)
  have hcommission := commission_mono hf (show b - earned b r ≤ b - earned b r' by omega)
  unfold nodeShare
  omega

theorem nodeShare_mono_fee (b r : Nat) (h : f ≤ f') : nodeShare b r f ≤ nodeShare b r f' :=
  Nat.add_le_add_left (Nat.div_le_div_right (Nat.mul_le_mul_left _ h)) _

end Natural

/-- The users have what the node has not. -/
theorem user_le_iff (h : split balance ratio fee = .ok s)
    (h' : split balance ratio' fee' = .ok s') : s.user ≤ s'.user ↔ s'.node ≤ s.node := by
  have hsum : s.node.toNat + s.user.toNat = balance.toNat := (split_ok h).1
  have hsum' : s'.node.toNat + s'.user.toNat = balance.toNat := (split_ok h').1
  rw [BitVec.le_def, BitVec.le_def]
  omega

theorem split_mono_balance (hle : balance ≤ balance') (h : split balance ratio fee = .ok s)
    (h' : split balance' ratio fee = .ok s') : s.node ≤ s'.node ∧ s.user ≤ s'.user := by
  have hsum : s.node.toNat + s.user.toNat = balance.toNat := (split_ok h).1
  have hsum' : s'.node.toNat + s'.user.toNat = balance'.toNat := (split_ok h').1
  rw [BitVec.le_def, BitVec.le_def]
  by_cases hzero : balance = 0
  · have hempty : balance.toNat = 0 := by rw [hzero]; rfl
    omega
  · obtain ⟨hratio, hfee⟩ := checked_of_split h hzero
    have hgrows := nodeShare_mono_balance hratio hfee (BitVec.le_def.mp hle)
    rw [← toNat_node h, ← toNat_node h'] at hgrows
    omega

theorem split_anti_ratio (hle : ratio ≤ ratio') (h : split balance ratio fee = .ok s)
    (h' : split balance ratio' fee = .ok s') : s'.node ≤ s.node ∧ s.user ≤ s'.user := by
  rw [user_le_iff h h', and_self, BitVec.le_def]
  by_cases hzero : balance = 0
  · have hsum' : s'.node.toNat + s'.user.toNat = balance.toNat := (split_ok h').1
    have hempty : balance.toNat = 0 := by rw [hzero]; rfl
    omega
  · obtain ⟨hratio, hfee⟩ := checked_of_split h hzero
    rw [toNat_node h, toNat_node h']
    exact nodeShare_anti_ratio hratio hfee (BitVec.le_def.mp hle)

theorem split_mono_fee (hle : fee.getD 0 ≤ fee'.getD 0) (h : split balance ratio fee = .ok s)
    (h' : split balance ratio fee' = .ok s') : s.node ≤ s'.node ∧ s'.user ≤ s.user := by
  rw [user_le_iff h' h, and_self, BitVec.le_def, toNat_node h, toNat_node h']
  exact nodeShare_mono_fee _ _ (BitVec.le_def.mp hle)

/-- Of a larger balance neither the node nor the users have less. With a larger ratio the node has
no more and the users have no less, and with a larger fee it is the other way round. Without a fee
a balance is split as with a fee of zero. -/
theorem split_monotone :
    (∀ {balance balance' ratio fee s s'}, balance ≤ balance' →
      split balance ratio fee = .ok s → split balance' ratio fee = .ok s' →
      s.node ≤ s'.node ∧ s.user ≤ s'.user) ∧
    (∀ {balance ratio ratio' fee s s'}, ratio ≤ ratio' →
      split balance ratio fee = .ok s → split balance ratio' fee = .ok s' →
      s'.node ≤ s.node ∧ s.user ≤ s'.user) ∧
    (∀ {balance ratio fee fee' s s'}, fee.getD 0 ≤ fee'.getD 0 →
      split balance ratio fee = .ok s → split balance ratio fee' = .ok s' →
      s.node ≤ s'.node ∧ s'.user ≤ s.user) ∧
    ∀ balance ratio, split balance ratio none = split balance ratio (some 0) :=
  ⟨split_mono_balance, split_anti_ratio, split_mono_fee, split_none⟩

/-- With a ratio of 5.3 and a fee of a tenth the node has 1 of 10, and 2 of 11. A ratio of 5, or a
fee of a fifth, gives it 2 of 10. -/
theorem split_monotone_ten :
    let ratio := BitVec.ofNat 256 (53 * 10 ^ 17)
    let ratio' := BitVec.ofNat 256 (5 * 10 ^ 18)
    let fee := some (BitVec.ofNat 256 (10 ^ 17))
    let fee' := some (BitVec.ofNat 256 (2 * 10 ^ 17))
    let s : Shares := ⟨1, 9⟩
    let more : Shares := ⟨2, 9⟩
    let moved : Shares := ⟨2, 8⟩
    split 10 ratio fee = .ok s ∧
    (split 11 ratio fee = .ok more ∧ s.node ≤ more.node ∧ s.user ≤ more.user) ∧
    (split 10 ratio' fee = .ok moved ∧ s.node ≤ moved.node ∧ moved.user ≤ s.user) ∧
    split 10 ratio fee' = .ok moved ∧ s.node ≤ moved.node ∧ moved.user ≤ s.user := by
  intro ratio ratio' fee fee' s more moved
  have hs : split 10 ratio fee = .ok s := by decide
  have hmore : split 11 ratio fee = .ok more := by decide
  have hratio : split 10 ratio' fee = .ok moved := by decide
  have hfee : split 10 ratio fee' = .ok moved := by decide
  obtain ⟨inBalance, inRatio, inFee, -⟩ := split_monotone
  exact ⟨hs, ⟨hmore, inBalance (by decide) hs hmore⟩, ⟨hratio, inRatio (by decide) hratio hs⟩,
    hfee, inFee (by decide) hs hfee⟩

end StakeSnapshot.Shares
