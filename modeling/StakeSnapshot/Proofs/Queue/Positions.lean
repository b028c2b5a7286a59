import Mathlib
import StakeSnapshot.Proofs.Task.Steady
import StakeSnapshot.Queue.Position

/-!
# Positions and places in the queue

A queue that keeps its three partitions as lists is the list of all of them, one behind the other
(`Queue.whole`). The position of a minipool is its place in that list, counted from one, and the
minipool at a place is the member of that list there, counted from zero. So the two lookups undo
each other when no minipool waits twice.
-/

namespace StakeSnapshot

theorem Partition.exists_ofDepositType {type : DepositType} (h : type ≠ .none) :
    ∃ p, Partition.ofDepositType type = .ok p := by
  cases type with
  | none => exact absurd rfl h
  | half | full | empty | variableBond => exact ⟨_, rfl⟩

/-- The whole queue, from the front. -/
def Queue.whole (lists : Partition → List Address) : List Address :=
  lists .half ++ lists .full ++ lists .empty

/-- The answers of a queue that keeps its partitions as lists. A minipool that waits has a deposit
type of its partition. -/
structure QueueQuery.Backed (answers : {α : Type} → QueueQuery α → Outcome α)
    (lists : Partition → List Address) : Prop where
  length (p : Partition) : answers (.length p) = .ok (UInt64.ofNat (lists p).length)
  totalLength : answers .totalLength = .ok (UInt64.ofNat (Queue.whole lists).length)
  indexOf (p : Partition) (m : Address) : answers (.indexOf p m) =
    .ok (if m ∈ lists p then UInt64.ofNat ((lists p).idxOf m + 1) else 0)
  itemAt (p : Partition) (index : UInt64) (m : Address) :
    (lists p)[index.toNat]? = some m → answers (.itemAt p index) = .ok m
  depositType (p : Partition) (m : Address) : m ∈ lists p →
    ∃ type, answers (.depositType m) = .ok type ∧ Partition.ofDepositType type = .ok p

namespace Queue

open StakeSnapshot.Task

theorem whole_eq_flatMap (lists : Partition → List Address) :
    whole lists = Partition.drainOrder.flatMap lists := by
  simp [whole, Partition.drainOrder]

theorem mem_whole {lists : Partition → List Address} {m : Address} :
    m ∈ whole lists ↔ ∃ p, m ∈ lists p := by
  simp only [whole, List.mem_append]
  constructor
  · rintro ((h | h) | h)
    · exact ⟨.half, h⟩
    · exact ⟨.full, h⟩
    · exact ⟨.empty, h⟩
  · rintro ⟨p, h⟩
    cases p with
    | half => exact .inl (.inl h)
    | full => exact .inl (.inr h)
    | empty => exact .inr h

/-- A minipool waits behind everything in the partitions ahead of its own. -/
theorem idxOf_whole {lists : Partition → List Address} (hnodup : (whole lists).Nodup)
    {p : Partition} {m : Address} (hm : m ∈ lists p) :
    (whole lists).idxOf m = (p.ahead.map fun q => (lists q).length).sum + (lists p).idxOf m := by
  obtain ⟨hfront, -, hempty⟩ := List.nodup_append.mp hnodup
  obtain ⟨-, -, hfull⟩ := List.nodup_append.mp hfront
  cases p with
  | half =>
      rw [whole, List.append_assoc, List.idxOf_append_of_mem hm]
      exact (Nat.zero_add _).symm
  | full =>
      have hhalf : m ∉ lists .half := fun h => hfull m h m hm rfl
      rw [whole, List.append_assoc, List.idxOf_append_of_notMem hhalf,
        List.idxOf_append_of_mem hm]
      rfl
  | empty =>
      have hfront : m ∉ lists .half ++ lists .full := fun h => hempty m h m hm rfl
      rw [whole, List.idxOf_append_of_notMem hfront, List.length_append]
      rfl

/-- Lengths are added up exactly. -/
theorem positionAfter_eq_some_iff {ahead : List UInt64} {index position : UInt64} :
    positionAfter index ahead = some position ↔
      index.toNat + (ahead.map UInt64.toNat).sum = position.toNat := by
  induction ahead generalizing index with
  | nil => exact Option.some_inj.trans UInt64.toNat_inj.symm
  | cons n ahead ih =>
      rw [positionAfter, List.foldlM_cons, Option.bind_eq_bind, Option.bind_eq_some_iff,
        List.map_cons, List.sum_cons, ← Nat.add_assoc]
      constructor
      · rintro ⟨sum, hsum, hrest⟩
        rw [Count.add?_eq_some_iff.mp hsum]
        exact ih.mp hrest
      · intro h
        have hlt : index.toNat + n.toNat < UInt64.size :=
          Nat.lt_of_le_of_lt (Nat.le_of_add_right_le h.le) position.toNat_lt_size
        have hsum : index.toNat + n.toNat = (UInt64.ofNat (index.toNat + n.toNat)).toNat :=
          (UInt64.toNat_ofNat_of_lt' hlt).symm
        rw [hsum] at h
        exact ⟨_, Count.add?_eq_some_iff.mpr hsum, ih.mpr h⟩

theorem positionAfter_eq_none_iff {ahead : List UInt64} {index : UInt64} :
    positionAfter index ahead = none ↔
      UInt64.size ≤ index.toNat + (ahead.map UInt64.toNat).sum := by
  rw [Option.eq_none_iff_forall_ne_some]
  constructor
  · intro h
    by_contra hlt
    exact h _ (positionAfter_eq_some_iff.mpr
      (UInt64.toNat_ofNat_of_lt' (Nat.not_le.mp hlt)).symm)
  · intro h position hposition
    have hlt := position.toNat_lt_size
    rw [← positionAfter_eq_some_iff.mp hposition] at hlt
    omega

/-- Lengths are added up as long as the sum is a count. -/
theorem positionAfter_eq_some (ahead : List UInt64) (index : UInt64)
    (h : index.toNat + (ahead.map UInt64.toNat).sum < UInt64.size) :
    ∃ position, positionAfter index ahead = some position ∧
      position.toNat = index.toNat + (ahead.map UInt64.toNat).sum := by
  have hvalue := UInt64.toNat_ofNat_of_lt' h
  exact ⟨_, positionAfter_eq_some_iff.mpr hvalue.symm, hvalue⟩

/-- Going through the partitions leads to the member of the joint list. -/
theorem locate_flatMap {lists : Partition → List Address} {lengths : QueueLengths}
    (hlengths : ∀ p, (lengths.get p).toNat = (lists p).length) (order : List Partition)
    (offset : UInt64) (h : offset.toNat < (order.flatMap lists).length) :
    ∃ p index, locate lengths order offset = some (p, index) ∧
      (lists p)[index.toNat]? = (order.flatMap lists)[offset.toNat]? := by
  induction order generalizing offset with
  | nil => simp at h
  | cons p rest ih =>
      rw [List.flatMap_cons, List.length_append] at h
      by_cases hp : offset < lengths.get p
      · have hlt : offset.toNat < (lists p).length := by
          rw [← hlengths p]
          exact UInt64.lt_iff_toNat_lt.mp hp
        refine ⟨p, offset, by rw [locate, if_pos hp], ?_⟩
        rw [List.flatMap_cons, List.getElem?_append_left hlt]
      · have hle : lengths.get p ≤ offset := UInt64.not_lt.mp hp
        have hsub := UInt64.toNat_sub_of_le _ _ hle
        have hge := UInt64.le_iff_toNat_le.mp hle
        rw [hlengths p] at hsub hge
        obtain ⟨q, index, hlocate, hget⟩ := ih (offset - lengths.get p) (by omega)
        refine ⟨q, index, by rw [locate, if_neg hp, hlocate], ?_⟩
        rw [hget, hsub, List.flatMap_cons, List.getElem?_append_right hge]

/-! ## The position over fixed answers -/

/-- The error for a position that is no count. -/
def positionOverflows (minipool : Address) : Error :=
  .of .decodeMismatch s!"queue position of {minipool.checksum} overflows"

/-- The position of a minipool with a place in its partition, given the lengths ahead. -/
def positionOutcome (minipool : Address) (place : UInt64) (ahead : List UInt64) :
    Outcome UInt64 :=
  if place = 0 then .ok 0
  else
    match positionAfter place ahead with
    | some position => .ok position
    | none => .error (.error (positionOverflows minipool))

/-- What the position of a minipool depends on, if its deposit type is that of a partition. -/
def Concerns (minipool : Address) (p : Partition) : {α : Type} → QueueQuery α → Prop
  | _, .depositType m => m = minipool
  | _, .indexOf q m => q = p ∧ m = minipool
  | _, .length q => q ∈ p.ahead
  | _, .totalLength => False
  | _, .itemAt _ _ => False

section PositionOf

variable {answers : {α : Type} → QueueQuery α → Outcome α} {minipool : Address}
  {type : DepositType} {p : Partition} {place : UInt64} {length : Partition → UInt64}
  (htype : answers (.depositType minipool) = .ok type)
  (hp : Partition.ofDepositType type = .ok p)

include htype hp

theorem asks_positionOf : (positionOf minipool).Asks (.fixed answers) (Concerns minipool p) := by
  refine (asks_bind _ _).mpr ⟨rfl, fun type' htype' => ?_⟩
  rw [mayEnd_ask, htype] at htype'
  cases htype'
  refine (asks_bind _ _).mpr ⟨trivial, fun q hq => ?_⟩
  rw [mayEnd_ofExcept_ok, hp] at hq
  cases hq
  refine Asks.bind ⟨rfl, rfl⟩ fun index => ?_
  split
  · trivial
  · refine Asks.bind ((asks_all _).mpr fun t ht => ?_) fun ahead => by split <;> trivial
    obtain ⟨q, hq, rfl⟩ := List.mem_map.mp ht
    exact hq

/-- The position comes from the place in the partition of the deposit type, and the lengths ahead
of this partition. -/
theorem mayEnd_positionOf_iff (hplace : answers (.indexOf p minipool) = .ok place)
    (hlength : ∀ q ∈ p.ahead, answers (.length q) = .ok (length q)) (o : Outcome UInt64) :
    (positionOf minipool).MayEnd (.fixed answers) o ↔
      o = positionOutcome minipool place (p.ahead.map length) := by
  have hpartition : (Task.ofExcept ((Partition.ofDepositType type).mapError
      (Error.context s!"minipool {minipool.checksum}")) : Task QueueQuery Partition).MayEnd
        (.fixed answers) (.ok p) := by
    rw [mayEnd_ofExcept_ok, mapError_eq_ok]
    exact hp
  have hahead : (Task.all (p.ahead.map fun q => Task.ask (QueueQuery.length q))).MayEnd
      (.fixed answers) (.ok (p.ahead.map length)) := by
    rw [mayEnd_all_ok, List.forall₂_map_left_iff, List.forall₂_map_right_iff, List.forall₂_same]
    exact fun q hq => (mayEnd_ask _ _ _).mpr (hlength q hq)
  refine ((strict_ask _).mayEnd_bind_iff ((mayEnd_ask _ _ _).mpr htype)).trans ?_
  refine ((strict_ofExcept _).mayEnd_bind_iff hpartition).trans ?_
  refine ((strict_ask _).mayEnd_bind_iff ((mayEnd_ask _ _ _).mpr hplace)).trans ?_
  unfold positionOutcome
  by_cases hzero : place = 0
  · rw [if_pos hzero, if_pos hzero]
    rfl
  · rw [if_neg hzero, if_neg hzero]
    refine ((strict_all_ask _ _).mayEnd_bind_iff hahead).trans ?_
    cases positionAfter place (p.ahead.map length) with
    | some position => rfl
    | none => rfl

end PositionOf

/-! ## The two lookups -/

section Lookups

variable {answers : {α : Type} → QueueQuery α → Outcome α} {lists : Partition → List Address}
  (hbacked : QueueQuery.Backed answers lists) (hsize : (whole lists).length < UInt64.size)

include hsize

theorem toNat_length (p : Partition) :
    (UInt64.ofNat (lists p).length).toNat = (lists p).length := by
  apply UInt64.toNat_ofNat_of_lt'
  have hlength : (lists p).length ≤ (whole lists).length := by
    rw [whole, List.length_append, List.length_append]
    cases p <;> omega
  exact Nat.lt_of_le_of_lt hlength hsize

include hbacked

/-- The position of a minipool that has a deposit type. -/
theorem mayEnd_positionOf (hnodup : (whole lists).Nodup) {m : Address} {type : DepositType}
    (htype : answers (.depositType m) = .ok type) (hnone : type ≠ .none) :
    ∃ position, MayEnd (.fixed answers) (positionOf m) (.ok position) ∧
      position.toNat = if m ∈ whole lists then (whole lists).idxOf m + 1 else 0 := by
  obtain ⟨p, hp⟩ := Partition.exists_ofDepositType hnone
  -- Only the partition of its deposit type can hold the minipool.
  have hmem : m ∈ whole lists ↔ m ∈ lists p := by
    rw [mem_whole]
    constructor
    · rintro ⟨q, hq⟩
      obtain ⟨type', htype', hq'⟩ := hbacked.depositType q m hq
      rw [htype] at htype'
      cases htype'
      rw [hp] at hq'
      cases hq'
      exact hq
    · exact fun h => ⟨p, h⟩
  have hindex := hbacked.indexOf p m
  by_cases hm : m ∈ lists p
  · rw [if_pos hm] at hindex
    have hend := mayEnd_positionOf_iff htype hp hindex fun q _ => hbacked.length q
    have hidx := idxOf_whole hnodup hm
    have hlt := List.idxOf_lt_length_of_mem (hmem.mpr hm)
    have hone : (UInt64.ofNat ((lists p).idxOf m + 1)).toNat = (lists p).idxOf m + 1 :=
      UInt64.toNat_ofNat_of_lt' (by omega)
    have hne : UInt64.ofNat ((lists p).idxOf m + 1) ≠ 0 := by
      intro h
      rw [h] at hone
      cases hone
    have hahead : ((p.ahead.map fun q => UInt64.ofNat (lists q).length).map UInt64.toNat).sum =
        (p.ahead.map fun q => (lists q).length).sum := by
      rw [List.map_map]
      exact congrArg List.sum (List.map_congr_left fun q _ => toNat_length hsize q)
    obtain ⟨position, hposition, hvalue⟩ := positionAfter_eq_some
      (p.ahead.map fun q => UInt64.ofNat (lists q).length)
      (UInt64.ofNat ((lists p).idxOf m + 1)) (by omega)
    refine ⟨position, (hend _).mpr ?_, by rw [if_pos (hmem.mpr hm)]; omega⟩
    rw [positionOutcome, if_neg hne, hposition]
  · rw [if_neg hm] at hindex
    have hend := mayEnd_positionOf_iff htype hp hindex fun q _ => hbacked.length q
    refine ⟨0, (hend _).mpr ?_, by rw [if_neg (hmem.not.mpr hm)]; rfl⟩
    rw [positionOutcome, if_pos rfl]

theorem mayEnd_lengths : ∃ lengths, MayEnd (.fixed answers) Queue.lengths (.ok lengths) ∧
    ∀ p, (lengths.get p).toNat = (lists p).length := by
  have asked : ∀ p, MayEnd (.fixed answers) (Task.ask (.length p))
      (.ok (UInt64.ofNat (lists p).length)) := fun p => (mayEnd_ask _ _ _).mpr (hbacked.length p)
  refine ⟨⟨UInt64.ofNat (lists .half).length, UInt64.ofNat (lists .full).length,
    UInt64.ofNat (lists .empty).length⟩, (mayEnd_bind_ok _ _ _).mpr ⟨(_, _, _),
      ⟨asked .half, asked .full, asked .empty⟩, rfl⟩, fun p => ?_⟩
  · cases p with
    | half => exact toNat_length hsize .half
    | full => exact toNat_length hsize .full
    | empty => exact toNat_length hsize .empty

/-- The minipool at a place in the queue. -/
theorem mayEnd_minipoolAt {position : UInt64} (h : position.toNat < (whole lists).length) :
    MayEnd (.fixed answers) (minipoolAt position) (.ok (whole lists)[position.toNat]) := by
  have htotal : (UInt64.ofNat (whole lists).length).toNat = (whole lists).length :=
    UInt64.toNat_ofNat_of_lt' hsize
  have hbelow : ¬ UInt64.ofNat (whole lists).length ≤ position := by
    rw [UInt64.le_iff_toNat_le, htotal]
    omega
  obtain ⟨lengths, hlengths, hget⟩ := mayEnd_lengths hbacked hsize
  obtain ⟨p, index, hlocate, hitem⟩ := locate_flatMap hget Partition.drainOrder position
    (by rwa [← whole_eq_flatMap])
  rw [← whole_eq_flatMap, List.getElem?_eq_getElem h] at hitem
  refine (mayEnd_bind_ok _ _ _).mpr ⟨_, (mayEnd_ask _ _ _).mpr hbacked.totalLength, ?_⟩
  rw [if_neg hbelow]
  refine (mayEnd_bind_ok _ _ _).mpr ⟨lengths, hlengths, ?_⟩
  rw [hlocate]
  exact (mayEnd_ask _ _ _).mpr (hbacked.itemAt p index _ hitem)

/-- There is nothing beyond the end of the queue. -/
theorem mayEnd_minipoolAt_beyond {position : UInt64}
    (h : (whole lists).length ≤ position.toNat) {o : Outcome Address}
    (ho : MayEnd (.fixed answers) (minipoolAt position) o) :
    ∃ e, o = .error (.error e) ∧ e.kind = .outOfRange := by
  have htotal : (UInt64.ofNat (whole lists).length).toNat = (whole lists).length :=
    UInt64.toNat_ofNat_of_lt' hsize
  have hbeyond : UInt64.ofNat (whole lists).length ≤ position := by
    rwa [UInt64.le_iff_toNat_le, htotal]
  obtain ⟨r, hr, ho⟩ := ho
  rw [mayEnd_ask, hbacked.totalLength] at hr
  subst hr
  dsimp only at ho
  rw [if_pos hbeyond] at ho
  exact ⟨_, ho, rfl⟩

end Lookups

theorem strict_positionOf (m : Address) : (positionOf m).Strict := by
  refine (strict_ask _).bind fun _ => Strict.bind trivial fun p => ?_
  refine (strict_ask _).bind fun index => ?_
  split
  · trivial
  · refine (strict_all_ask _ _).bind fun ahead => ?_
    split <;> trivial

theorem strict_minipoolAt (position : UInt64) : (minipoolAt position).Strict := by
  refine (strict_ask _).bind fun total => ?_
  split
  · trivial
  · have both : Queue.lengths.Strict := Strict.bind ⟨trivial, trivial, trivial⟩ fun _ => trivial
    refine both.bind fun lengths => ?_
    split
    · exact strict_ask _
    · trivial

theorem permitless_positionOf (m : Address) : (positionOf m).Permitless := by
  refine (permitless_ask _).bind fun _ => Permitless.bind trivial fun p => ?_
  refine (permitless_ask _).bind fun index => ?_
  split
  · trivial
  · refine (Permitless.all fun t ht => ?_).bind fun ahead => ?_
    · obtain ⟨q, -, rfl⟩ := List.mem_map.mp ht
      exact permitless_ask _
    · split <;> trivial

theorem permitless_minipoolAt (position : UInt64) : (minipoolAt position).Permitless := by
  refine (permitless_ask _).bind fun total => ?_
  split
  · trivial
  · have both : Queue.lengths.Permitless := Permitless.bind ⟨trivial, trivial, trivial⟩
      fun _ => trivial
    refine both.bind fun lengths => ?_
    split
    · exact permitless_ask _
    · trivial

section Inverse

variable {answers : {α : Type} → QueueQuery α → Outcome α} {lists : Partition → List Address}

/-- A minipool that waits can be found at the place before its position. -/
theorem mayEnd_minipoolAt_positionOf (hbacked : QueueQuery.Backed answers lists)
    (hnodup : (whole lists).Nodup) (hsize : (whole lists).length < UInt64.size) {m : Address}
    (hm : m ∈ whole lists) :
    MayEnd (.fixed answers) (positionOf m >>= fun position => minipoolAt (position - 1))
      (.ok m) := by
  obtain ⟨p, hp⟩ := mem_whole.mp hm
  obtain ⟨type, htype, hpartition⟩ := hbacked.depositType p m hp
  have hnone : type ≠ .none := by
    rintro rfl
    cases hpartition
  obtain ⟨position, hend, hvalue⟩ := mayEnd_positionOf hbacked hsize hnodup htype hnone
  rw [if_pos hm] at hvalue
  have hone : (1 : UInt64) ≤ position := by
    rw [UInt64.le_iff_toNat_le, hvalue]
    exact Nat.le_add_left 1 _
  have hplace : (position - 1).toNat = (whole lists).idxOf m := by
    rw [UInt64.toNat_sub_of_le _ _ hone, hvalue]
    rfl
  have hlt : (position - 1).toNat < (whole lists).length := by
    rw [hplace]
    exact List.idxOf_lt_length_of_mem hm
  have hfound := mayEnd_minipoolAt hbacked hsize hlt
  simp only [hplace, List.getElem_idxOf] at hfound
  exact (mayEnd_bind_ok _ _ _).mpr ⟨position, hend, hfound⟩

/-- The minipool at a place has the position behind it. -/
theorem mayEnd_positionOf_minipoolAt (hbacked : QueueQuery.Backed answers lists)
    (hnodup : (whole lists).Nodup) (hsize : (whole lists).length < UInt64.size)
    {position : UInt64} (h : position.toNat < (whole lists).length) :
    MayEnd (.fixed answers) (minipoolAt position >>= positionOf) (.ok (position + 1)) := by
  have hm : (whole lists)[position.toNat] ∈ whole lists := List.getElem_mem h
  obtain ⟨p, hp⟩ := mem_whole.mp hm
  obtain ⟨type, htype, hpartition⟩ := hbacked.depositType p _ hp
  have hnone : type ≠ .none := by
    rintro rfl
    cases hpartition
  obtain ⟨found, hend, hvalue⟩ := mayEnd_positionOf hbacked hsize hnodup htype hnone
  rw [if_pos hm, hnodup.idxOf_getElem] at hvalue
  have hsucc : found = position + 1 := by
    apply UInt64.toNat_inj.mp
    rw [hvalue, UInt64.toNat_add]
    exact (Nat.mod_eq_of_lt (Nat.lt_of_le_of_lt h hsize)).symm
  rw [← hsucc]
  exact (mayEnd_bind_ok _ _ _).mpr ⟨_, mayEnd_minipoolAt hbacked hsize h, hend⟩

end Inverse

/-- For a queue that keeps its partitions as lists, in which no minipool waits twice, the position
of a minipool is its place in the whole queue, counted from one, or zero if it does not wait; the
minipool at a place is the one that the whole queue has there, if the queue is long enough; and so
each of the two lookups undoes the other. -/
theorem positionOf_minipoolAt_inverse {σ : Type} {source : Service QueueQuery σ}
    {answers : {α : Type} → QueueQuery α → Outcome α} {I : σ → Prop}
    (hsource : source.Steady answers (fun _ => True) I) {lists : Partition → List Address}
    (hbacked : QueueQuery.Backed answers lists) (hnodup : (whole lists).Nodup)
    (hsize : (whole lists).length < UInt64.size) {s : σ} (hs : I s) :
    (∀ m type, answers (.depositType m) = .ok type → type ≠ .none →
      ∀ last, (positionOf m).EndsIn source s last → ∃ position : UInt64, last.1 = .ok position ∧
        position.toNat = if m ∈ whole lists then (whole lists).idxOf m + 1 else 0) ∧
    (∀ position last, (minipoolAt position).EndsIn source s last →
      if h : position.toNat < (whole lists).length then
        last.1 = .ok (whole lists)[position.toNat]
      else ∃ e, last.1 = .error (.error e) ∧ e.kind = .outOfRange) ∧
    (∀ m ∈ whole lists, ∀ last,
      (positionOf m >>= fun position => minipoolAt (position - 1)).EndsIn source s last →
        last.1 = .ok m) ∧
    (∀ position, position.toNat < (whole lists).length → ∀ last,
      (minipoolAt position >>= positionOf).EndsIn source s last →
        last.1 = .ok (position + 1)) := by
  have ends : ∀ {γ : Type} {t : Task QueueQuery γ} {v : γ}, t.Strict → t.Permitless →
      t.MayEnd (.fixed answers) (.ok v) → ∀ {last}, t.EndsIn source s last → last.1 = .ok v :=
    fun hstrict hpermitless hv _ hlast => hstrict.eq_ok hv (hsource.mayEnd hpermitless hs hlast)
  refine ⟨fun m type htype hnone last hlast => ?_, fun position last hlast => ?_,
    fun m hm last hlast => ?_, fun position h last hlast => ?_⟩
  · obtain ⟨position, hend, hvalue⟩ := mayEnd_positionOf hbacked hsize hnodup htype hnone
    exact ⟨position, ends (strict_positionOf m) (permitless_positionOf m) hend hlast, hvalue⟩
  · split
    case isTrue h =>
        exact ends (strict_minipoolAt position) (permitless_minipoolAt position)
          (mayEnd_minipoolAt hbacked hsize h) hlast
    case isFalse h =>
        have hend := hsource.mayEnd (permitless_minipoolAt position) hs hlast
        exact mayEnd_minipoolAt_beyond hbacked hsize (Nat.le_of_not_lt h) hend
  · exact ends ((strict_positionOf m).bind fun _ => strict_minipoolAt _)
      ((permitless_positionOf m).bind fun _ => permitless_minipoolAt _)
      (mayEnd_minipoolAt_positionOf hbacked hnodup hsize hm) hlast
  · exact ends ((strict_minipoolAt position).bind fun _ => strict_positionOf _)
      ((permitless_minipoolAt position).bind fun _ => permitless_positionOf _)
      (mayEnd_positionOf_minipoolAt hbacked hnodup hsize h) hlast

/-- The answers of the queue with the given partitions. A minipool that is in none of them is of the
last one's deposit type. -/
def answersOf (lists : Partition → List Address) : {α : Type} → QueueQuery α → Outcome α
  | _, .length p => .ok (UInt64.ofNat (lists p).length)
  | _, .totalLength => .ok (UInt64.ofNat (whole lists).length)
  | _, .indexOf p m => .ok (if m ∈ lists p then UInt64.ofNat ((lists p).idxOf m + 1) else 0)
  | _, .itemAt p index =>
      match (lists p)[index.toNat]? with
      | some m => .ok m
      | none => .error (.error (.bare .outOfRange))
  | _, .depositType m =>
      .ok (if m ∈ lists .half then .half else if m ∈ lists .full then .full else .empty)

theorem answersOf_backed {lists : Partition → List Address} (hnodup : (whole lists).Nodup) :
    QueueQuery.Backed (answersOf lists) lists where
  length _ := rfl
  totalLength := rfl
  indexOf _ _ := rfl
  itemAt p index m h := by simp only [answersOf, h]
  depositType p m h := by
    obtain ⟨hfront, -, hempty⟩ := List.nodup_append.mp hnodup
    obtain ⟨-, -, hfull⟩ := List.nodup_append.mp hfront
    cases p with
    | half => exact ⟨.half, by simp [answersOf, h], rfl⟩
    | full =>
        have hhalf : m ∉ lists .half := fun hm => hfull m hm m h rfl
        exact ⟨.full, by simp [answersOf, h, hhalf], rfl⟩
    | empty =>
        have hfront : m ∉ lists .half ++ lists .full := fun hm => hempty m hm m h rfl
        rw [List.mem_append, not_or] at hfront
        exact ⟨.empty, by simp [answersOf, hfront], rfl⟩

/-- A queue in which four minipools wait. -/
def fourWaiting : Partition → List Address
  | .half => [.ofNat 1]
  | .full => [.ofNat 2, .ofNat 3]
  | .empty => [.ofNat 4]

theorem fourWaiting_third :
    ((positionOf (.ofNat 3) >>= fun position => minipoolAt (position - 1)).run
        (.fixed (answersOf fourWaiting)) ()).1 = .ok (.ofNat 3) ∧
      ((minipoolAt 2 >>= positionOf).run (.fixed (answersOf fourWaiting)) ()).1 = .ok 3 := by
  have hnodup : (whole fourWaiting).Nodup := by decide
  have lookups := positionOf_minipoolAt_inverse
    (Service.fixed_steady (answersOf fourWaiting) fun _ => True)
    (answersOf_backed hnodup) hnodup (by decide) (s := ()) trivial
  obtain ⟨-, -, hmember, hplace⟩ := lookups
  exact ⟨hmember (.ofNat 3) (by decide) _ (.inl rfl), hplace 2 (by decide) _ (.inl rfl)⟩

end Queue

end StakeSnapshot
