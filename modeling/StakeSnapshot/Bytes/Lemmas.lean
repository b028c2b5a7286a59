import Mathlib.Algebra.Group.Nat.Defs
import StakeSnapshot.Bytes

/-!
# Numerals of fixed width

Reading the bytes of a number gives it back modulo the power of 256 that their width is.
-/

namespace StakeSnapshot.Bytes

theorem toNat_append_singleton (bytes : Bytes) (b : UInt8) :
    toNat (bytes ++ [b]) = toNat bytes * 256 + b.toNat := by
  simp [toNat]

/-- Reading a numeral gives the number back, up to the width it was written in. -/
theorem toNat_ofNat (width n : Nat) : toNat (ofNat width n) = n % 256 ^ width := by
  induction width generalizing n with
  | zero => simp [ofNat, toNat, Nat.mod_one]
  | succ width ih =>
    rw [ofNat, toNat_append_singleton, ih, Nat.pow_succ, Nat.mul_comm (256 ^ width) 256,
      Nat.mod_mul]
    simp
    omega

end StakeSnapshot.Bytes
