import StakeSnapshot.Address
import StakeSnapshot.Bytes.Lemmas

/-!
# Addresses and their bytes

An address is read back from its twenty bytes.
-/

namespace StakeSnapshot.Address

theorem toNat_lt (a : Address) : a.toNat < 2 ^ 160 := a.bits.isLt

theorem ofNat_toNat (a : Address) : ofNat a.toNat = a := by
  simp [ofNat, toNat]

theorem ofBytes_toBytes (a : Address) : ofBytes a.toBytes = a := by
  have h : a.toNat % 256 ^ 20 = a.toNat := Nat.mod_eq_of_lt a.toNat_lt
  rw [ofBytes, toBytes, Bytes.toNat_ofNat, h, ofNat_toNat]

end StakeSnapshot.Address
