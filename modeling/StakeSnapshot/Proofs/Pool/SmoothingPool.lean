import Mathlib.Data.List.Forall2
import StakeSnapshot.Pool.Node

/-!
# The window of a bonus and the time in the smoothing pool

A node earns a bonus in a window, which should hold the times of an interval at which the node was
in the smoothing pool. For a node that is in the pool it does. For a node that has left, the window
starts no earlier than the node left and ends no later: it is empty, although the node was in the
pool until then (`Node.contains_bonusEligibility`).
-/

namespace StakeSnapshot

namespace Count

theorem max_le_iff {a b c : UInt64} : max a b ≤ c ↔ a ≤ c ∧ b ≤ c := by
  change (if a ≤ b then b else a) ≤ c ↔ _
  split <;> simp only [UInt64.le_iff_toNat_le] at * <;> omega

theorem lt_min_iff {a b c : UInt64} : c < min a b ↔ c < a ∧ c < b := by
  change c < (if a ≤ b then a else b) ↔ _
  split <;> simp only [UInt64.le_iff_toNat_le, UInt64.lt_iff_toNat_lt] at * <;> omega

end Count

/-- The time lies in the window in which a bonus is earned. -/
def BonusEligibility.Contains (b : BonusEligibility) (time : UInt64) : Prop :=
  b.eligible = true ∧ b.start ≤ time ∧ time < b.stop

namespace Node

variable {n : Node} {start stop time : UInt64}

section Joined

variable (hjoined : n.registrationChangedTime ≠ 0)

include hjoined

/-- A node that is in the pool earns a bonus from the time it joined. -/
theorem contains_of_member (h : n.smoothingPoolRegistrationState = true) :
    (n.bonusEligibility start stop).Contains time ↔
      n.registrationChangedTime ≤ time ∧ start ≤ time ∧ time < stop := by
  have hwindow : n.bonusEligibility start stop =
      ⟨n.registrationChangedTime < stop, max n.registrationChangedTime start, stop⟩ := by
    simp only [bonusEligibility, if_neg hjoined, h, if_true]
  rw [hwindow, BonusEligibility.Contains, decide_eq_true_iff, Count.max_le_iff, and_assoc]
  -- A node that joined before a time of the interval joined before its end.
  exact and_iff_right_of_imp fun ⟨hle, _, hlt⟩ => UInt64.lt_of_le_of_lt hle hlt

/-- Of a node that has left, the window holds no time. -/
theorem not_contains_of_left (h : n.smoothingPoolRegistrationState = false) :
    ¬ (n.bonusEligibility start stop).Contains time := by
  have hwindow : n.bonusEligibility start stop = ⟨n.registrationChangedTime < stop,
      max n.registrationChangedTime start, min n.registrationChangedTime stop⟩ := by
    simp only [bonusEligibility, if_neg hjoined, h, Bool.false_eq_true, if_false]
  rw [hwindow, BonusEligibility.Contains, Count.max_le_iff, Count.lt_min_iff]
  rintro ⟨-, ⟨hle, -⟩, hlt, -⟩
  exact UInt64.not_lt.mpr hle hlt

theorem wasOptedInAt_of_left (h : n.smoothingPoolRegistrationState = false) :
    n.wasOptedInAt time = true ↔ time < n.registrationChangedTime := by
  simp only [wasOptedInAt, h, Bool.false_eq_true, if_false, if_neg hjoined, decide_eq_true_iff]

end Joined

theorem wasOptedInAt_of_member (h : n.smoothingPoolRegistrationState = true) :
    n.wasOptedInAt time = true ↔ n.registrationChangedTime < time := by
  simp only [wasOptedInAt, h, if_true, decide_eq_true_iff]

/-- A time of an interval at which the node did not join or leave lies in the window exactly if the
node is in the pool and was in it at that time. So the window is right about the time unless the
node left later: it misses all the time that the node spent in the pool before it left. -/
theorem contains_bonusEligibility (hjoined : n.registrationChangedTime ≠ 0) (hstart : start ≤ time)
    (hstop : time < stop) (hchange : time ≠ n.registrationChangedTime) :
    ((n.bonusEligibility start stop).Contains time ↔
      n.smoothingPoolRegistrationState = true ∧ n.wasOptedInAt time = true) ∧
    (((n.bonusEligibility start stop).Contains time ↔ n.wasOptedInAt time = true) ↔
      n.smoothingPoolRegistrationState = true ∨ n.registrationChangedTime < time) := by
  have hle : n.registrationChangedTime ≤ time ↔ n.registrationChangedTime < time := by
    rw [UInt64.lt_iff_le_and_ne, and_iff_left (Ne.symm hchange)]
  cases hstate : n.smoothingPoolRegistrationState with
  | true =>
      have hright : (n.bonusEligibility start stop).Contains time ↔ n.wasOptedInAt time = true := by
        rw [contains_of_member hjoined hstate, wasOptedInAt_of_member hstate, hle]
        exact and_iff_left ⟨hstart, hstop⟩
      exact ⟨by rw [hright, eq_self, true_and], iff_of_true hright (.inl rfl)⟩
  | false =>
      have hmissed : ¬ (n.bonusEligibility start stop).Contains time :=
        not_contains_of_left hjoined hstate
      refine ⟨iff_of_false hmissed fun ⟨hmember, _⟩ => Bool.false_ne_true hmember, ?_⟩
      rw [iff_false_left hmissed, wasOptedInAt_of_left hjoined hstate, UInt64.not_lt, hle,
        or_iff_right Bool.false_ne_true]

/-- A node that was in the pool until time 150. -/
def leaver : Node :=
  { new .zero with smoothingPoolRegistrationChanged := 150 }

theorem bonusEligibility_misses_leaver :
    leaver.registrationChangedTime = 150 ∧ leaver.wasOptedInAt 120 = true ∧
      ¬ (leaver.bonusEligibility 100 200).Contains 120 :=
  ⟨rfl, rfl, not_contains_of_left (by decide) rfl⟩

/-- A node that joined at time 150 earns a bonus at time 160, as it should. -/
theorem contains_bonusEligibility_joiner :
    let joiner := { new .zero with
      smoothingPoolRegistrationState := true
      smoothingPoolRegistrationChanged := 150 }
    (joiner.bonusEligibility 100 200).Contains 160 ∧ joiner.wasOptedInAt 160 = true := by
  intro joiner
  have hjoined : joiner.registrationChangedTime ≠ 0 := by decide
  have hstart : (100 : UInt64) ≤ 160 := by decide
  have hstop : (160 : UInt64) < 200 := by decide
  have window := contains_bonusEligibility hjoined hstart hstop (by decide)
  exact ⟨window.1.mpr ⟨rfl, rfl⟩, rfl⟩

end Node

end StakeSnapshot
