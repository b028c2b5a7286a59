import Mathlib
import StakeSnapshot.Proofs.Fetch.Listing
import StakeSnapshot.Proofs.Simulation.Queue
import StakeSnapshot.Proofs.SingleBlock

/-!
# Positions from words of the contracts

The contracts give the index of a minipool and the lengths of the partitions in words of 256 bits,
of which a position is a count of 64 bits. Index and lengths are cut off at the largest count, and
only their sum is checked. If a length is cut off, or an index with a minipool ahead of its
partition, the sum is no count, and the position is refused. But an index to which nothing is added
is not checked: beyond the range of counts the position is the largest count, which is not the true
one (`Queue.positionOf_fromContracts`).
-/

namespace StakeSnapshot

open StakeSnapshot.Task StakeSnapshot.Contract

namespace Queue

/-! ## Words cut off at the largest count -/

theorem toNat_placeOfIndex {index : Word} (h : ¬ index.toInt < 0) :
    (placeOfIndex index).toNat = min (index.toNat + 1) (2 ^ 64 - 1) := by
  have hsize : UInt64.size = 2 ^ 64 := rfl
  have hone : (1 : UInt64).toNat = 1 := rfl
  have hmsb : index.msb = false := by
    rw [BitVec.msb_eq_toInt, decide_eq_false h]
  rw [placeOfIndex, hmsb, if_neg Bool.false_ne_true, Count.toNat_addSaturating,
    Fetch.toNat_saturate, hone]
  omega

/-- A sum of lengths that are cut off is the true sum, or no count. -/
theorem sum_saturate_bounds (lengths : List Amount) :
    min (lengths.map BitVec.toNat).sum (2 ^ 64 - 1) ≤
        (lengths.map fun n => n.saturate.toNat).sum ∧
      (lengths.map fun n => n.saturate.toNat).sum ≤ (lengths.map BitVec.toNat).sum := by
  induction lengths with
  | nil => exact ⟨Nat.min_le_left _ _, Nat.le_refl _⟩
  | cons n lengths ih =>
      simp only [List.map_cons, List.sum_cons, Fetch.toNat_saturate] at ih ⊢
      omega

/-! ## The position over the contracts -/

/-- What the queue says of a minipool, if the contracts return its deposit type, the index and the
lengths. Nothing else is known. -/
def answersFrom (type : DepositType) (index : Word) (lengths : Partition → Amount) :
    {α : Type} → QueueQuery α → Outcome α
  | _, .depositType _ => .ok type
  | _, .indexOf _ _ => .ok (placeOfIndex index)
  | _, .length q => .ok (lengths q).saturate
  | _, .totalLength => .error (.error (.bare .sourceUnavailable))
  | _, .itemAt _ _ => .error (.error (.bare .sourceUnavailable))

section Contracts

variable {a : Answers} {registry : Registry} {block : UInt64} {minipool : Address}
  {number : UInt8} {type : DepositType} {p : Partition} {index : Word}
  {lengths : Partition → Amount}
  (hnumber : ExecutionQuery.Returns a.execution MinipoolDelegate.getDepositType minipool () block
    number)
  (htype : DepositType.ofNumber number = .ok type)
  (hindex : ExecutionQuery.Returns a.execution AddressQueueStorage.getIndexOf
    registry.addressQueueStorage (p.storageKey, minipool, ()) block index)
  (hlengths : ∀ q ∈ p.ahead, ExecutionQuery.Returns a.execution MinipoolQueue.getLength
    registry.minipoolQueue (q.depositType.number, ()) block (lengths q))

include hnumber htype hindex hlengths

theorem ends_askContracts {α : Type} (q : QueueQuery α) (o : Outcome α)
    (hq : Concerns minipool p q)
    (ho : (askContracts registry block q).MayEnd (.fixed a.query) o) :
    o = answersFrom type index lengths q := by
  have hstrict := strict_askContracts registry block q
  cases q with
  | depositType m =>
      obtain rfl : m = minipool := hq
      refine hstrict.eq_ok ((mayEnd_bind_ok _ _ _).mpr ⟨number, ?_, ?_⟩) ho
      · exact (mayEnd_read_ok _ _ _ _ _).mpr hnumber
      · exact (mayEnd_ofExcept_ok _ _).mpr htype
  | indexOf q m =>
      obtain ⟨rfl, rfl⟩ := hq
      refine hstrict.eq_ok ((mayEnd_map_ok _ _ _).mpr ⟨index, ?_, rfl⟩) ho
      exact (mayEnd_read_ok _ _ _ _ _).mpr hindex
  | length q =>
      refine hstrict.eq_ok ((mayEnd_map_ok _ _ _).mpr ⟨lengths q, ?_, rfl⟩) ho
      exact (mayEnd_read_ok _ _ _ _ _).mpr (hlengths q hq)
  | totalLength | itemAt => exact hq.elim

theorem ends_positionOf_contracts (hp : Partition.ofDepositType type = .ok p)
    {o : Outcome UInt64}
    (ho : (atBlock registry block (positionOf minipool)).MayEnd (.fixed a.query) o) :
    o = positionOutcome minipool (placeOfIndex index)
      ((p.ahead.map lengths).map Amount.saturate) := by
  have hasks : (positionOf minipool).Asks (.fixed (answersFrom type index lengths))
      (Concerns minipool p) := asks_positionOf rfl hp
  have hend := (permitless_positionOf minipool).mayEnd_of_substitute
    (ends_askContracts hnumber htype hindex hlengths) hasks ho
  rw [List.map_map]
  exact (mayEnd_positionOf_iff rfl hp rfl (fun _ _ => rfl) o).mp hend

end Contracts

/-! ## The exact position -/

/-- The exact position, if it is a count, and zero for an index below zero. -/
def positionDue (minipool : Address) (index : Word) (ahead : List Amount) : Outcome UInt64 :=
  let exact := index.toNat + 1 + (ahead.map BitVec.toNat).sum
  if index.toInt < 0 then .ok 0
  else if exact < 2 ^ 64 then .ok (UInt64.ofNat exact)
  else .error (.error (positionOverflows minipool))

/-- The place in the partition is no count, and no minipool ahead makes the sum show it. -/
def Unnoticed (index : Word) (ahead : List Amount) : Prop :=
  0 ≤ index.toInt ∧ 2 ^ 64 ≤ index.toNat + 1 ∧ (ahead.map BitVec.toNat).sum = 0

instance (index : Word) (ahead : List Amount) : Decidable (Unnoticed index ahead) :=
  inferInstanceAs (Decidable (_ ∧ _ ∧ _))

/-- An index and lengths that are cut off add up to the largest count, or to the exact position. -/
theorem positionAfter_saturate {index : Word} (hindex : ¬ index.toInt < 0) (ahead : List Amount) :
    let exact := index.toNat + 1 + (ahead.map BitVec.toNat).sum
    positionAfter (placeOfIndex index) (ahead.map Amount.saturate) =
      if Unnoticed index ahead then some Count.largest
      else if exact < 2 ^ 64 then some (UInt64.ofNat exact) else none := by
  intro exact
  have hsize : UInt64.size = 2 ^ 64 := rfl
  have hlargest : Count.largest.toNat = 2 ^ 64 - 1 := rfl
  have hplace := toNat_placeOfIndex hindex
  have hbounds := sum_saturate_bounds ahead
  have hmap : (ahead.map Amount.saturate).map UInt64.toNat =
      ahead.map fun n => n.saturate.toNat := List.map_map
  split_ifs with hunnoticed hcount
  · obtain ⟨-, hover, hsum⟩ := hunnoticed
    rw [positionAfter_eq_some_iff, hmap]
    omega
  · have hexact : (UInt64.ofNat exact).toNat = exact := UInt64.toNat_ofNat_of_lt' hcount
    rw [positionAfter_eq_some_iff, hmap, hexact]
    omega
  · have hnoticed : index.toNat + 1 < 2 ^ 64 ∨ (ahead.map BitVec.toNat).sum ≠ 0 := by
      by_contra hnot
      rw [not_or, not_lt, not_not] at hnot
      exact hunnoticed ⟨Int.not_lt.mp hindex, hnot⟩
    -- What is cut off is the largest count, and with anything more than that the sum is no count.
    rw [positionAfter_eq_none_iff, hmap]
    omega

theorem placeOfIndex_eq_zero_iff {index : Word} : placeOfIndex index = 0 ↔ index.toInt < 0 := by
  constructor
  · intro hzero
    by_contra hindex
    have hplace := toNat_placeOfIndex hindex
    rw [hzero, UInt64.toNat_zero] at hplace
    omega
  · intro hindex
    have hmsb : index.msb = true := by
      rw [BitVec.msb_eq_toInt, decide_eq_true hindex]
    rw [placeOfIndex, if_pos hmsb]

theorem positionOutcome_saturate (minipool : Address) (index : Word) (ahead : List Amount) :
    positionOutcome minipool (placeOfIndex index) (ahead.map Amount.saturate) =
      if Unnoticed index ahead then .ok Count.largest else positionDue minipool index ahead := by
  unfold positionOutcome positionDue
  by_cases hindex : index.toInt < 0
  · have hnoticed : ¬ Unnoticed index ahead := fun h => Int.not_lt.mpr h.1 hindex
    rw [if_pos (placeOfIndex_eq_zero_iff.mpr hindex), if_neg hnoticed, if_pos hindex]
  · rw [if_neg (placeOfIndex_eq_zero_iff.not.mpr hindex), if_neg hindex,
      positionAfter_saturate hindex]
    split_ifs <;> rfl

theorem positionDue_of_unnoticed (minipool : Address) {index : Word} {ahead : List Amount}
    (h : Unnoticed index ahead) :
    positionDue minipool index ahead = .error (.error (positionOverflows minipool)) := by
  obtain ⟨hnonneg, hover, -⟩ := h
  have hexact : ¬ index.toNat + 1 + (ahead.map BitVec.toNat).sum < 2 ^ 64 := by omega
  rw [positionDue, if_neg (Int.not_lt.mpr hnonneg), if_neg hexact]

section Steady

variable {ε β : Type} {client : Service ExecutionQuery ε}
  {answers : {α : Type} → ExecutionQuery α → Outcome α} {I : ε → Prop}

/-- For a minipool with a deposit type, the position from the words of the contracts is zero for an
index below zero, and else the exact one, or refused if that is no count; but the largest count, if
the place in the partition is no count and nothing waits ahead of the partition. -/
theorem positionOf_fromContracts (beacon : Service BeaconQuery β)
    (hclient : client.Steady answers (fun _ => True) I) {s : Surroundings ε β} (hs : I s.execution)
    (registry : Registry) {block : UInt64} {minipool : Address} {number : UInt8}
    {type : DepositType}
    (hnumber : ExecutionQuery.Returns answers MinipoolDelegate.getDepositType minipool () block
      number)
    (htype : DepositType.ofNumber number = .ok type) (hnone : type ≠ .none) :
    ∃ p, Partition.ofDepositType type = .ok p ∧
      ∀ (index : Word) (lengths : Partition → Amount),
        ExecutionQuery.Returns answers AddressQueueStorage.getIndexOf registry.addressQueueStorage
          (p.storageKey, minipool, ()) block index →
        (∀ q ∈ p.ahead, ExecutionQuery.Returns answers MinipoolQueue.getLength
          registry.minipoolQueue (q.depositType.number, ()) block (lengths q)) →
        ∀ last, (atBlock registry block (positionOf minipool)).EndsIn (.ofChains client beacon) s
            last →
          let ahead := p.ahead.map lengths
          (last.1 = positionDue minipool index ahead ↔ ¬ Unnoticed index ahead) ∧
          (Unnoticed index ahead → last.1 = .ok Count.largest) := by
  obtain ⟨p, hp⟩ := Partition.exists_ofDepositType hnone
  refine ⟨p, hp, fun index lengths hindex hlengths last hlast => ?_⟩
  intro ahead
  have hasks : ∀ replies, (atBlock registry block (positionOf minipool)).Asks replies Fetch.Reads :=
    fun _ => (Fetch.reading_reads block).asks_atBlock registry _
  have hpermitless := (permitless_positionOf minipool).substitute
    (permitless_askContracts registry block)
  have hend := (Fetch.steady_reads beacon hclient).mayEnd_of_asks hpermitless hasks hs hlast
  have houtcome := ends_positionOf_contracts hnumber htype hindex hlengths hp hend
  rw [houtcome, positionOutcome_saturate]
  constructor
  · constructor
    · intro hexact hunnoticed
      rw [if_pos hunnoticed, positionDue_of_unnoticed minipool hunnoticed] at hexact
      cases hexact
    · exact fun hnoticed => if_neg hnoticed
  · exact fun hunnoticed => if_pos hunnoticed

/-- A minipool with the deposit type, the index and the lengths 3 has two partitions ahead. -/
theorem positionOf_three :
    ((atBlock (.blank .zero) 7 (positionOf (.ofNat 1))).run
      (.ofChains (.fixed (ExecutionQuery.sample fun _ => 3)) (.fixed BeaconQuery.unreachable))
      ⟨(), (), .new false⟩).1 = .ok 10 := by
  have hclient := Service.fixed_steady (ExecutionQuery.sample fun _ => 3) fun _ => True
  have hnumber : ExecutionQuery.Returns (ExecutionQuery.sample fun _ => 3)
      MinipoolDelegate.getDepositType (.ofNat 1) () 7 (3 : UInt8) := ⟨_, rfl, rfl⟩
  have htype : DepositType.ofNumber 3 = .ok .empty := rfl
  obtain ⟨p, hp, position⟩ := positionOf_fromContracts (.fixed BeaconQuery.unreachable) hclient
    (s := ⟨(), (), .new false⟩) trivial (.blank .zero) hnumber htype nofun
  cases hp
  obtain ⟨hexact, -⟩ := position (3 : Word) (fun _ => (3 : Amount)) ⟨_, rfl, rfl⟩
    (fun _ _ => ⟨_, rfl, rfl⟩) _ (.inl rfl)
  exact (hexact.mpr (by decide)).trans rfl

/-- What a chain says on which minipool 1 has the deposit type 2, and everything else is the
largest count. -/
def largestIndex : {α : Type} → ExecutionQuery α → Outcome α
  | _, .latestBlock => .ok ⟨7, 84⟩
  | _, .call call _ =>
    .ok (Bytes.ofNat 32 (if call.target = .ofNat 1 then 2 else 2 ^ 64 - 1))
  | _, .batchCall _ _ => .error (.error (.bare .sourceUnavailable))
  | _, .balance _ _ => .ok 0
  | _, .bulkBalances accounts _ => .ok (accounts.map fun _ => 0)

/-- Behind as many minipools as there are counts, a minipool has the position before its own. -/
theorem positionOf_saturated :
    ExecutionQuery.Returns largestIndex MinipoolDelegate.getDepositType (.ofNat 1) () 7
        (2 : UInt8) ∧
      DepositType.ofNumber 2 = .ok .half ∧ Partition.ofDepositType .half = .ok .half ∧
      Partition.half.ahead = [] ∧
      ExecutionQuery.Returns largestIndex AddressQueueStorage.getIndexOf .zero
        (Partition.half.storageKey, .ofNat 1, ()) 7 (BitVec.ofNat 256 (2 ^ 64 - 1)) ∧
      positionDue (.ofNat 1) (BitVec.ofNat 256 (2 ^ 64 - 1)) [] =
        .error (.error (positionOverflows (.ofNat 1))) ∧
      ((atBlock (.blank .zero) 7 (positionOf (.ofNat 1))).run
        (.ofChains (.fixed largestIndex) (.fixed BeaconQuery.unreachable))
        ⟨(), (), .new false⟩).1 = .ok (UInt64.ofNat (2 ^ 64 - 1)) :=
  ⟨⟨_, rfl, rfl⟩, rfl, rfl, rfl, ⟨_, rfl, rfl⟩, rfl, by decide +kernel⟩

end Steady

end Queue

end StakeSnapshot
