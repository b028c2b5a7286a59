import Mathlib
import StakeSnapshot.Proofs.Task.Steady
import StakeSnapshot.Proofs.Task.Trails
import StakeSnapshot.Queue.Position

/-!
# A place in the queue stays in bounds

The minipool at a place is looked up in four reads, whose answers need not agree: the length of the
queue may not be the sum of the lengths of the partitions, and that sum may not be a count. All that
a lookup can come to, whatever its source answers, is laid out with the record of it in
`Queue.Lookup`: an item is asked for once at most, and at a place within the length that was
answered for its partition.
-/

namespace StakeSnapshot

open StakeSnapshot.Task

/-! ## The way through the partitions -/

theorem Partition.ahead_eq {p : Partition} {before after : List Partition}
    (h : drainOrder = before ++ p :: after) : p.ahead = before := by
  have hnodup : (before ++ p :: after).Nodup := h ▸ (by decide : drainOrder.Nodup)
  have hbefore : ∀ q ∈ before, decide (q ≠ p) = true := fun q hq =>
    decide_eq_true ((List.nodup_append.mp hnodup).2.2 q hq p (List.mem_cons_self ..))
  rw [ahead, h, List.takeWhile_append_of_pos hbefore, List.takeWhile_cons_of_neg (by simp),
    List.append_nil]

namespace QueueLengths

variable (lengths : QueueLengths)

/-- How many minipools wait in some partitions. The sum need not be a count. -/
def sum (ps : List Partition) : Nat := (ps.map fun p => (lengths.get p).toNat).sum

/-- The place `index` is one of the partition `p`, and as many steps from the front of the queue as
`position` says. -/
structure Reaches (position : UInt64) (p : Partition) (index : UInt64) : Prop where
  below : index < lengths.get p
  steps : position.toNat = lengths.sum p.ahead + index.toNat

end QueueLengths

namespace Queue

/-- The way through the partitions with subtractions that fail when they leave the range. -/
def locateChecked (lengths : QueueLengths) :
    List Partition → UInt64 → Except Fault (Option (Partition × UInt64))
  | [], _ => .ok none
  | p :: rest, offset =>
    if offset < lengths.get p then .ok (some (p, offset))
    else
      match Count.sub? offset (lengths.get p) with
      | some offset => locateChecked lengths rest offset
      | none => .error .subtractOverflow

variable {lengths : QueueLengths}

/-- No subtraction on the way leaves the range. -/
theorem locateChecked_eq (order : List Partition) (offset : UInt64) :
    locateChecked lengths order offset = .ok (locate lengths order offset) := by
  induction order generalizing offset with
  | nil => rfl
  | cons p rest ih =>
      rw [locateChecked, locate]
      split
      · rfl
      · next h =>
          have within : Count.sub? offset (lengths.get p) = some (offset - lengths.get p) :=
            if_pos (UInt64.not_lt.mp h)
          rw [within]
          exact ih _

/-- The way leads to a place in a partition of the order, past those before it. -/
theorem locate_eq_some {order : List Partition} {offset index : UInt64} {p : Partition}
    (h : locate lengths order offset = some (p, index)) :
    ∃ before after, order = before ++ p :: after ∧ index < lengths.get p ∧
      offset.toNat = lengths.sum before + index.toNat := by
  induction order generalizing offset with
  | nil => cases h
  | cons q rest ih =>
      rw [locate] at h
      split at h
      · next hlt =>
          cases h
          exact ⟨[], rest, rfl, hlt, (Nat.zero_add _).symm⟩
      · next hle =>
          have hle : lengths.get q ≤ offset := UInt64.not_lt.mp hle
          obtain ⟨before, after, rfl, hlt, hoffset⟩ := ih h
          have hsub := UInt64.toNat_sub_of_le _ _ hle
          have hle := UInt64.le_iff_toNat_le.mp hle
          refine ⟨q :: before, after, rfl, hlt, ?_⟩
          rw [QueueLengths.sum, List.map_cons, List.sum_cons, ← QueueLengths.sum]
          omega

/-- The way leads nowhere if it is as long as all partitions. -/
theorem locate_eq_none {order : List Partition} {offset : UInt64}
    (h : locate lengths order offset = none) : lengths.sum order ≤ offset.toNat := by
  induction order generalizing offset with
  | nil => exact Nat.zero_le _
  | cons q rest ih =>
      rw [locate] at h
      split at h
      · cases h
      · next hle =>
          have hle : lengths.get q ≤ offset := UInt64.not_lt.mp hle
          have hrest := ih h
          have hsub := UInt64.toNat_sub_of_le _ _ hle
          have hle := UInt64.le_iff_toNat_le.mp hle
          rw [QueueLengths.sum, List.map_cons, List.sum_cons, ← QueueLengths.sum]
          omega

theorem reaches_of_locate {position index : UInt64} {p : Partition}
    (h : locate lengths Partition.drainOrder position = some (p, index)) :
    lengths.Reaches position p index := by
  obtain ⟨before, after, horder, hlt, hsteps⟩ := locate_eq_some h
  exact ⟨hlt, by rw [Partition.ahead_eq horder]; exact hsteps⟩

/-! ## What a lookup can come to -/

/-- What a lookup of a minipool by its place has to do with its source. -/
inductive LookupEvent where
  | total (answer : Outcome UInt64)
  | length (partition : Partition) (answer : Outcome UInt64)
  | itemAsked (partition : Partition) (index : UInt64)
  | item (answer : Outcome Address)

namespace LookupEvent

def ofQuery : {α : Type} → QueueQuery α → Option LookupEvent
  | _, .itemAt p index => some (itemAsked p index)
  | _, _ => none

def ofAnswer : {α : Type} → QueueQuery α → Outcome α → Option LookupEvent
  | _, .totalLength, r => some (total r)
  | _, .length p, r => some (length p r)
  | _, .itemAt _ _, r => some (item r)
  | _, _, _ => none

/-- Some lengths have been answered, and there was no failure. -/
def OnlyLengths (l : List LookupEvent) : Prop := ∀ e ∈ l, ∃ p n, e = length p (.ok n)

/-- The answers that tell the lengths of the partitions. -/
def ofLengths (lengths : QueueLengths) : List LookupEvent :=
  Partition.drainOrder.map fun p => length p (.ok (lengths.get p))

/-- A length could not be told, and this is the only failure. -/
def LengthFails (e : Failure) (l : List LookupEvent) : Prop :=
  ∃ p others, l.Perm (length p (.error e) :: others) ∧ OnlyLengths others

theorem OnlyLengths.append {l₁ l₂ : List LookupEvent} (h₁ : OnlyLengths l₁)
    (h₂ : OnlyLengths l₂) : OnlyLengths (l₁ ++ l₂) :=
  List.forall_mem_append.mpr ⟨h₁, h₂⟩

theorem OnlyLengths.of_perm {l l' : List LookupEvent} (h : OnlyLengths l) (hperm : l'.Perm l) :
    OnlyLengths l' :=
  fun e he => h e (hperm.mem_iff.mp he)

end LookupEvent

open LookupEvent

/-- What the lookup of the minipool at a place may have come to, if it has ended, and what its
source was asked and has answered by then. -/
inductive Lookup (position : UInt64) : Option (Outcome Address) → List LookupEvent → Prop where
  | waitsForTotal : Lookup position none []
  | totalFails (e : Failure) : Lookup position (some (.error e)) [.total (.error e)]
  | beyondTotal {total : UInt64} (h : total ≤ position) :
      Lookup position (some (.error (.error (.of .outOfRange
        s!"queue position {position} is beyond queue length {total}")))) [.total (.ok total)]
  | waitsForLengths {total : UInt64} {l : List LookupEvent} (h : position < total)
      (hl : OnlyLengths l) : Lookup position none (.total (.ok total) :: l)
  /-- A length is not told, and the one failure of the source is that of the lookup. -/
  | lengthFails {total : UInt64} {l : List LookupEvent} (h : position < total) (e : Failure)
      (hl : LengthFails e l) : Lookup position (some (.error e)) (.total (.ok total) :: l)
  | beyondLengths {total : UInt64} {l : List LookupEvent} {lengths : QueueLengths}
      (h : position < total) (hl : l.Perm (ofLengths lengths))
      (hbeyond : lengths.sum Partition.drainOrder ≤ position.toNat) :
      Lookup position (some (.error (.error (.of .outOfRange
        s!"queue position {position} is beyond partition lengths {lengths.text}"))))
        (.total (.ok total) :: l)
  | waitsForItem {total : UInt64} {l : List LookupEvent} {lengths : QueueLengths} {p : Partition}
      {index : UInt64} (h : position < total) (hl : l.Perm (ofLengths lengths))
      (hreaches : lengths.Reaches position p index) :
      Lookup position none (.total (.ok total) :: l ++ [.itemAsked p index])
  | ends {total : UInt64} {l : List LookupEvent} {lengths : QueueLengths} {p : Partition}
      {index : UInt64} (h : position < total) (hl : l.Perm (ofLengths lengths))
      (hreaches : lengths.Reaches position p index) (answer : Outcome Address) :
      Lookup position (some answer)
        (.total (.ok total) :: l ++ [.itemAsked p index, .item answer])

section Leaves

variable {α β : Type}

/-- The records of a part that tells lengths. -/
def TellsLengths (trails : Trails α LookupEvent) : Prop := ∀ o l, trails o l →
  match o with
  | some (.error e) => LengthFails e l
  | _ => OnlyLengths l

theorem TellsLengths.alive {trails : Trails α LookupEvent} (h : TellsLengths trails)
    {o : Option (Outcome α)} (ho : Alive o) {l : List LookupEvent} (hl : trails o l) :
    OnlyLengths l := by
  rcases o with _ | e | a
  · exact h _ _ hl
  · exact ho.elim
  · exact h _ _ hl

theorem tellsLengths_ask (p : Partition) :
    TellsLengths ((Task.ask (.length p)).Leaves .any ofQuery ofAnswer) := by
  rintro (_ | e | n) l hl
  · obtain rfl := hl
    exact fun e he => (List.not_mem_nil he).elim
  · obtain ⟨-, rfl⟩ := hl
    exact ⟨p, [], .refl _, fun e he => (List.not_mem_nil he).elim⟩
  · obtain ⟨-, rfl⟩ := hl
    exact fun e he => ⟨p, n, List.mem_singleton.mp he⟩

theorem TellsLengths.both {left : Trails α LookupEvent} {right : Trails β LookupEvent}
    (hleft : TellsLengths left) (hright : TellsLengths right) :
    TellsLengths (left.both right) := by
  rintro o l (⟨r, r', l₁, l₂, hperm, hr, hr', joined⟩ | ⟨e, rfl, he⟩)
  · cases joined with
    | waits halive halive' =>
        exact ((hleft.alive halive hr).append (hright.alive halive' hr')).of_perm hperm
    | ends a b => exact (OnlyLengths.append (hleft _ _ hr) (hright _ _ hr')).of_perm hperm
    | leftFails e halive =>
        obtain ⟨p, others, hl₁, hothers⟩ := hleft _ _ hr
        exact ⟨p, others ++ l₂, hperm.trans (hl₁.append_right l₂),
          hothers.append (hright.alive halive hr')⟩
    | rightFails e halive =>
        obtain ⟨p, others, hl₂, hothers⟩ := hright _ _ hr'
        refine ⟨p, l₁ ++ others, ?_, (hleft.alive halive hr).append hothers⟩
        exact hperm.trans ((hl₂.append_left l₁).trans List.perm_middle)
  · exact hleft _ _ he

/-- Two parts that have ended with values leave their records, in any order. -/
theorem both_ok {left : Trails α LookupEvent} {right : Trails β LookupEvent} {a : α} {b : β}
    {l : List LookupEvent} (h : left.both right (some (.ok (a, b))) l) :
    ∃ l₁ l₂, l.Perm (l₁ ++ l₂) ∧ left (some (.ok a)) l₁ ∧ right (some (.ok b)) l₂ := by
  rcases h with ⟨r, r', l₁, l₂, hperm, hr, hr', joined⟩ | ⟨e, he, -⟩
  · cases joined
    exact ⟨l₁, l₂, hperm, hr, hr'⟩
  · cases he

/-- What the three reads of lengths may have come to. -/
def LengthsTold : Trails QueueLengths LookupEvent
  | none, l => OnlyLengths l
  | some (.error e), l => LengthFails e l
  | some (.ok lengths), l => l.Perm (ofLengths lengths)

theorem leaves_lengths {o : Option (Outcome QueueLengths)} {l : List LookupEvent}
    (h : Queue.lengths.Leaves .any ofQuery ofAnswer o l) : LengthsTold o l := by
  have parts := (tellsLengths_ask .half).both
    ((tellsLengths_ask .full).both (tellsLengths_ask .empty))
  rcases leaves_bind.mp h with ⟨rfl, hl⟩ | ⟨e, rfl, he⟩ |
    ⟨⟨half, full, empty⟩, l, _, rfl, hl, hrest⟩
  · exact parts _ _ hl
  · exact parts _ _ he
  · obtain ⟨rfl, rfl⟩ := hrest
    obtain ⟨l₁, _, hperm, ⟨-, rfl⟩, hl⟩ := both_ok hl
    obtain ⟨l₂, l₃, hperm', ⟨-, rfl⟩, ⟨-, rfl⟩⟩ := both_ok hl
    rw [List.append_nil]
    exact hperm.trans (hperm'.append_left _)

theorem leaves_minipoolAt {position : UInt64} {o : Option (Outcome Address)}
    {l : List LookupEvent} (h : (minipoolAt position).Leaves .any ofQuery ofAnswer o l) :
    Lookup position o l := by
  rcases leaves_bind.mp h with ⟨rfl, rfl⟩ | ⟨e, rfl, -, rfl⟩ | ⟨total, _, l, rfl, ⟨-, rfl⟩, hrest⟩
  · exact .waitsForTotal
  · exact .totalFails e
  split at hrest
  · next hle =>
      obtain ⟨rfl, rfl⟩ := hrest
      exact .beyondTotal hle
  next hlt =>
  have hlt : position < total := UInt64.not_le.mp hlt
  rcases leaves_bind.mp hrest with ⟨rfl, hl⟩ | ⟨e, rfl, hl⟩ | ⟨lengths, l, l', rfl, hl, hitem⟩
  · exact .waitsForLengths hlt (leaves_lengths hl)
  · exact .lengthFails hlt e (leaves_lengths hl)
  have told : l.Perm (ofLengths lengths) := leaves_lengths hl
  cases hlocate : locate lengths Partition.drainOrder position with
  | none =>
      rw [hlocate] at hitem
      obtain ⟨rfl, rfl⟩ := hitem
      rw [List.append_nil]
      exact .beyondLengths hlt told (locate_eq_none hlocate)
  | some place =>
      obtain ⟨p, index⟩ := place
      rw [hlocate] at hitem
      have reaches := reaches_of_locate hlocate
      rcases o with _ | answer
      · obtain rfl := hitem
        exact .waitsForItem hlt told reaches
      · obtain ⟨-, rfl⟩ := hitem
        exact .ends hlt told reaches answer

end Leaves

/-- A source with a record of what a lookup has to do with it. -/
abbrev recorded {σ : Type} (source : Service QueueQuery σ) :
    Service QueueQuery (σ × List LookupEvent) :=
  source.recording ofQuery ofAnswer

/-- Whatever a source answers, the lookup of the minipool at a place never takes away more than is
left of its steps, asks for one item at most, at a place within the length that was answered for its
partition and after exactly the lengths ahead of it, and ends as the answers say, with the failure
of the source if there is one. -/
theorem minipoolAt_staysInBounds {σ : Type} (source : Service QueueQuery σ) (s : σ)
    (position : UInt64) :
    (∀ lengths, locateChecked lengths Partition.drainOrder position =
      .ok (locate lengths Partition.drainOrder position)) ∧
    (minipoolAt position).LeavesOnly (recorded source) s (Lookup position) :=
  ⟨fun _ => locateChecked_eq _ _,
    leavesOnly (source.records_any ofQuery ofAnswer) (asks_any _) trivial
      fun _ _ => leaves_minipoolAt⟩

/-- The answers of a queue whose lengths add up to more than a count, and to more than what it says
itself. -/
def overlong : {α : Type} → QueueQuery α → Outcome α
  | _, .totalLength => .ok Count.largest
  | _, .length .half => .ok 5
  | _, .length _ => .ok Count.largest
  | _, .itemAt _ index => .ok (Address.ofNat index.toNat)
  | _, _ => .error (.error (.bare .sourceUnavailable))

theorem minipoolAt_overlong :
    let last := (minipoolAt 18446744073709551614).run (recorded (.fixed overlong)) ((), [])
    Lookup 18446744073709551614 (some last.1) last.2.2 ∧
      last.1 = .ok (.ofNat 18446744073709551609) ∧
      last.2.2 = [.total (.ok Count.largest), .length .half (.ok 5),
        .length .full (.ok Count.largest), .length .empty (.ok Count.largest),
        .itemAsked .full 18446744073709551609, .item (.ok (.ofNat 18446744073709551609))] :=
  ⟨(minipoolAt_staysInBounds (.fixed overlong) () _).2.ended (.inl rfl), rfl, rfl⟩

end Queue

end StakeSnapshot
