import StakeSnapshot.Proofs.Pool.Splitting

/-!
# When a balance can be split

A balance that is not empty can be split exactly when the ratio is at least one, the balance fits
into a word in fixed point, and the fee is at most a hundred percent (`Shares.Plausible`). These
bounds are all that the arithmetic needs: the product of the users' share and the fee is no larger
than the balance in fixed point, so it always fits, and no sum or difference on the way leaves the
range of words (`Shares.StaysInRange`). So nothing of the balance is lost or made up
(`Shares.split_conserves`).
-/

namespace StakeSnapshot.Shares

variable {balance ratio : Amount} {fee : Option Amount} {s : Shares}

/-- The data of a split make sense: all capital is at least the node's own, the balance fits into a
word in fixed point, and the fee is at most all that the users earn. -/
structure Plausible (balance ratio : Amount) (fee : Option Amount) : Prop where
  ratio : 10 ^ 18 ≤ ratio.toNat
  balance : balance.toNat * 10 ^ 18 < 2 ^ 256
  fee : ∀ f, fee = some f → f.toNat ≤ 10 ^ 18

/-- No sum and no difference that is formed in a split leaves the range of words. -/
structure StaysInRange (balance ratio : Amount) (fee : Option Amount) : Prop where
  /-- What the node's capital earned is taken from the balance. -/
  capital (scaled : Amount) : ¬ ratio < Amount.one → Amount.mul? balance Amount.one = some scaled →
    balance.usubOverflow (scaled / ratio) = false
  /-- The commission is added to what the node's capital earned. -/
  commission (s : Shares) (f scaled : Amount) : ofCapital balance ratio = .ok s → fee = some f →
    ¬ Amount.one < f → Amount.mul? s.user f = some scaled →
    s.node.uaddOverflow (scaled / Amount.one) = false
  /-- Both together are taken from the balance. -/
  rest (s : Shares) (f scaled : Amount) : ofCapital balance ratio = .ok s → fee = some f →
    ¬ Amount.one < f → Amount.mul? s.user f = some scaled →
    balance.usubOverflow (s.node + scaled / Amount.one) = false

/-! ## Balances that can be split -/

theorem ofCapital_isOk_iff :
    (∃ s, ofCapital balance ratio = .ok s) ↔
      10 ^ 18 ≤ ratio.toNat ∧ balance.toNat * 10 ^ 18 < 2 ^ 256 := by
  constructor
  · rintro ⟨s, h⟩
    exact ⟨(ofCapital_ok h).1, scaled_lt_of_ofCapital h⟩
  · rintro ⟨hratio, hbalance⟩
    obtain ⟨scaled, hscaled⟩ := exists_mul? (b := Amount.one) hbalance
    refine ⟨⟨scaled / ratio, balance - scaled / ratio⟩, ?_⟩
    rw [ofCapital, if_neg (by rw [lt_one]; omega), hscaled]

theorem withCommission_isOk_iff (hs : s.AddUpTo balance)
    (hbalance : balance.toNat * 10 ^ 18 < 2 ^ 256) {f : Amount} :
    (∃ s', withCommission balance f s = .ok s') ↔ f.toNat ≤ 10 ^ 18 := by
  constructor
  · rintro ⟨s', h⟩
    exact (withCommission_ok hs h).1
  · intro hf
    obtain ⟨scaled, hscaled⟩ := exists_mul?_fee hs hbalance hf
    refine ⟨⟨s.node + scaled / Amount.one, balance - (s.node + scaled / Amount.one)⟩, ?_⟩
    rw [withCommission, if_neg (by rw [one_lt]; omega), hscaled]

theorem split_of_ofCapital (hbalance : balance ≠ 0) (hs : ofCapital balance ratio = .ok s) :
    split balance ratio fee =
      match fee with
      | none => .ok s
      | some f => withCommission balance f s := by
  unfold split
  cases fee <;> rw [if_neg hbalance, hs]

theorem split_isOk_iff :
    (∃ s, split balance ratio fee = .ok s) ↔ balance = 0 ∨ Plausible balance ratio fee := by
  by_cases hzero : balance = 0
  · subst hzero
    exact ⟨fun _ => .inl rfl, fun _ => ⟨_, split_zero ratio fee⟩⟩
  · rw [or_iff_right hzero]
    constructor
    · rintro ⟨s, h⟩
      obtain ⟨hratio, hfee⟩ := (split_ok h).2 hzero
      refine ⟨hratio, ?_, hfee⟩
      unfold split at h
      rw [if_neg hzero] at h
      cases hcapital : ofCapital balance ratio with
      | error e =>
          rw [hcapital] at h
          cases h
      | ok shares => exact scaled_lt_of_ofCapital hcapital
    · rintro ⟨hratio, hfits, hfee⟩
      obtain ⟨s, hs⟩ := ofCapital_isOk_iff.mpr ⟨hratio, hfits⟩
      rw [split_of_ofCapital hzero hs]
      cases fee with
      | none => exact ⟨s, rfl⟩
      | some f => exact (withCommission_isOk_iff (ofCapital_ok hs).2.2 hfits).mpr (hfee f rfl)

/-! ## Sums and differences -/

/-- The node's capital earned no more than the balance. -/
theorem capital_le {scaled : Amount} (hratio : ¬ ratio < Amount.one)
    (hscaled : Amount.mul? balance Amount.one = some scaled) :
    (scaled / ratio).toNat ≤ balance.toNat := by
  have hok : ofCapital balance ratio = .ok ⟨scaled / ratio, balance - scaled / ratio⟩ := by
    rw [ofCapital, if_neg hratio, hscaled]
  have hsum : (scaled / ratio).toNat + (balance - scaled / ratio).toNat = balance.toNat :=
    (ofCapital_ok hok).2.2
  omega

/-- With the commission, the node owns no more than the balance. -/
theorem node_add_commission_le (hs : s.AddUpTo balance) {f scaled : Amount}
    (hf : ¬ Amount.one < f) (hscaled : Amount.mul? s.user f = some scaled) :
    s.node.toNat + (scaled / Amount.one).toNat ≤ balance.toNat := by
  rw [one_lt, Nat.not_lt] at hf
  have hpart := commission_le s.user.toNat hf
  rw [AddUpTo] at hs
  rw [toNat_div_one, toNat_mul? hscaled]
  omega

theorem usubOverflow_eq_false {a b : Amount} (h : b.toNat ≤ a.toNat) :
    a.usubOverflow b = false := by
  rw [BitVec.usubOverflow, decide_eq_false_iff_not]
  omega

theorem staysInRange (balance ratio : Amount) (fee : Option Amount) :
    StaysInRange balance ratio fee where
  capital _ hratio hscaled := usubOverflow_eq_false (capital_le hratio hscaled)
  commission s f scaled hs _ hf hscaled := by
    have hle := node_add_commission_le (ofCapital_ok hs).2.2 hf hscaled
    have hlt := balance.isLt
    rw [BitVec.uaddOverflow, decide_eq_false_iff_not]
    omega
  rest s f scaled hs _ hf hscaled := by
    have hle := node_add_commission_le (ofCapital_ok hs).2.2 hf hscaled
    have hlt := balance.isLt
    refine usubOverflow_eq_false ?_
    rwa [BitVec.toNat_add, Nat.mod_eq_of_lt (by omega)]

/-! ## The fee that never overflows -/

/-- The messages of the other errors start with other words. -/
theorem ne_feeOverflows {e : Error} (h : split balance ratio fee = .error e) (f : Amount) :
    e ≠ feeOverflows f := by
  intro heq
  have hhead := congrArg (fun e => e.message.toList.head?) heq
  rcases split_error h with rfl | rfl | ⟨g, -, rfl⟩ <;>
    simp [ratioBelowOne, balanceOverflows, feeAboveOne, feeOverflows, Error.of, Error.context,
      toString] at hhead

/-- A balance can be split exactly when it is empty or the data make sense. Otherwise the data are
refused, but never because a fee overflows. The two shares add up to the balance as natural numbers,
since no sum and no difference that is formed on the way wraps. -/
theorem split_conserves (balance ratio : Amount) (fee : Option Amount) :
    ((∃ s, split balance ratio fee = .ok s) ↔
      balance = 0 ∨ 10 ^ 18 ≤ ratio.toNat ∧ balance.toNat * 10 ^ 18 < 2 ^ 256 ∧
        ∀ f, fee = some f → f.toNat ≤ 10 ^ 18) ∧
    (∀ e, split balance ratio fee = .error e →
      e.kind = .decodeMismatch ∧ ∀ f, e ≠ feeOverflows f) ∧
    (∀ s, split balance ratio fee = .ok s → s.node.toNat + s.user.toNat = balance.toNat) ∧
    StaysInRange balance ratio fee := by
  refine ⟨split_isOk_iff.trans (or_congr_right ?_), fun e he => ?_, fun s hs => ?_,
    staysInRange balance ratio fee⟩
  · exact ⟨fun h => ⟨h.ratio, h.balance, h.fee⟩, fun ⟨hratio, hbalance, hfee⟩ =>
      ⟨hratio, hbalance, hfee⟩⟩
  · exact ⟨kind_of_split he, ne_feeOverflows he⟩
  · exact (split_ok hs).1

/-- The largest balance that fits in fixed point, with a ratio of three and a fee of one half. One
more cannot be split. -/
theorem split_conserves_largest :
    let largest := BitVec.ofNat 256 ((2 ^ 256 - 1) / 10 ^ 18)
    let ratio := BitVec.ofNat 256 (3 * 10 ^ 18)
    let fee := some (BitVec.ofNat 256 (5 * 10 ^ 17))
    (∃ s, split largest ratio fee = .ok s ∧ s.node.toNat + s.user.toNat = largest.toNat) ∧
      ¬ ∃ s, split (largest + 1) ratio fee = .ok s := by
  intro largest ratio fee
  obtain ⟨hok, -, hsum, -⟩ := split_conserves largest ratio fee
  have hfee : ∀ f, fee = some f → f.toNat ≤ 10 ^ 18 := by
    intro f hf
    obtain rfl := Option.some.inj hf
    decide
  obtain ⟨s, hs⟩ := hok.mpr (.inr ⟨by decide, by decide, hfee⟩)
  refine ⟨⟨s, hs, hsum s hs⟩, fun hmore => ?_⟩
  rcases (split_conserves (largest + 1) ratio fee).1.mp hmore with hzero | ⟨-, hfits, -⟩
  · exact absurd hzero (by decide)
  · exact absurd hfits (by decide)

end StakeSnapshot.Shares
