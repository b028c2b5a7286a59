import StakeSnapshot.Amount
import StakeSnapshot.Bytes.Lemmas

/-!
# Words and their bytes, products and counts

A word is read back from its bytes and a count from its amount. A product is there exactly when it
fits into a word.
-/

namespace StakeSnapshot

theorem Word.ofBytes_toBytes (w : Word) : ofBytes w.toBytes = w := by
  have h : w.toNat % 256 ^ 32 = w.toNat := Nat.mod_eq_of_lt w.isLt
  rw [ofBytes, toBytes, Bytes.toNat_ofNat, h]
  simp

namespace Amount

theorem mul?_eq_some_iff {a b c : Amount} :
    mul? a b = some c ↔ a.toNat * b.toNat < 2 ^ 256 ∧ a * b = c := by
  simp [mul?, BitVec.umulOverflow]

theorem ofNat?_eq_some_iff {n : Nat} {a : Amount} : ofNat? n = some a ↔ a.toNat = n := by
  simp only [ofNat?, Option.ite_none_right_eq_some, Option.some.injEq]
  constructor
  · rintro ⟨h, rfl⟩
    exact h
  · rintro rfl
    simp

theorem toNat_ofCount (n : UInt64) : (ofCount n).toNat = n.toNat := by
  have := n.toNat_lt
  simp [ofCount]
  omega

/-- A count is found again in its amount. -/
theorem saturate_ofCount (n : UInt64) : (ofCount n).saturate = n := by
  simp [saturate, toNat_ofCount, UInt64.toNat_lt_size]

end Amount

end StakeSnapshot
