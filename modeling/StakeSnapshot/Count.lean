/-!
# Counts of 64 bits

Slots, epochs, block numbers, times in seconds and queue positions are words of 64 bits. The
operations below stop at the ends of the range or say that they left it.
-/

namespace StakeSnapshot.Count

/-- The largest count. -/
def largest : UInt64 := 18446744073709551615

/-- The difference, or zero. -/
def monus (a b : UInt64) : UInt64 := if b ≤ a then a - b else 0

/-- The sum, if it is a count. -/
def add? (a b : UInt64) : Option UInt64 :=
  if a.toNat + b.toNat < UInt64.size then some (a + b) else none

/-- The product, if it is a count. -/
def mul? (a b : UInt64) : Option UInt64 :=
  if a.toNat * b.toNat < UInt64.size then some (a * b) else none

/-- The difference, if it is a count. -/
def sub? (a b : UInt64) : Option UInt64 :=
  if b ≤ a then some (a - b) else none

/-- The sum, or the largest count. -/
def addSaturating (a b : UInt64) : UInt64 := (add? a b).getD largest

theorem toNat_monus (a b : UInt64) : (monus a b).toNat = a.toNat - b.toNat := by
  unfold monus
  split
  · next h => exact UInt64.toNat_sub_of_le _ _ h
  · next h =>
    have : a.toNat < b.toNat := by
      simpa [UInt64.le_iff_toNat_le] using h
    simp
    omega

theorem add?_eq_some_iff {a b c : UInt64} :
    add? a b = some c ↔ a.toNat + b.toNat = c.toNat := by
  unfold add?
  split
  · next h =>
    rw [Option.some.injEq, ← UInt64.toNat_inj, UInt64.toNat_add,
      Nat.mod_eq_of_lt (by simpa [UInt64.size] using h)]
  · next h =>
    have := c.toNat_lt_size
    simp
    omega

theorem mul?_eq_some_iff {a b c : UInt64} :
    mul? a b = some c ↔ a.toNat * b.toNat = c.toNat := by
  unfold mul?
  split
  · next h =>
    rw [Option.some.injEq, ← UInt64.toNat_inj, UInt64.toNat_mul,
      Nat.mod_eq_of_lt (by simpa [UInt64.size] using h)]
  · next h =>
    have := c.toNat_lt_size
    simp
    omega

theorem sub?_eq_some_iff {a b c : UInt64} :
    sub? a b = some c ↔ a.toNat = c.toNat + b.toNat := by
  unfold sub?
  split
  · next h =>
    have h' := UInt64.le_iff_toNat_le.mp h
    rw [Option.some.injEq, ← UInt64.toNat_inj, UInt64.toNat_sub_of_le _ _ h]
    omega
  · next h =>
    have : a.toNat < b.toNat := by
      simpa [UInt64.le_iff_toNat_le] using h
    simp
    omega

theorem add?_eq_none_iff {a b : UInt64} :
    add? a b = none ↔ UInt64.size ≤ a.toNat + b.toNat := by
  simp [add?]

theorem toNat_addSaturating (a b : UInt64) :
    (addSaturating a b).toNat = min (a.toNat + b.toNat) (UInt64.size - 1) := by
  have size : UInt64.size = 18446744073709551616 := rfl
  have top : largest.toNat = 18446744073709551615 := rfl
  unfold addSaturating
  cases h : add? a b with
  | some c =>
    have sum := add?_eq_some_iff.mp h
    have below := c.toNat_lt_size
    rw [Option.getD_some, sum]
    omega
  | none =>
    have beyond := add?_eq_none_iff.mp h
    rw [Option.getD_none, top]
    omega

end StakeSnapshot.Count
