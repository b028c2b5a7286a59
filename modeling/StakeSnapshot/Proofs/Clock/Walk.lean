import Mathlib
import StakeSnapshot.Clock
import StakeSnapshot.Http.Remote
import StakeSnapshot.Proofs.Task.Trails

/-!
# The walk backwards through the slots

The latest block is looked for slot by slot, downwards from a start, in a window that ends at slot 0
at the latest (`Clock.window`). The walk asks for one slot after the other and ends with the first
that is not missed, whether it has a block or fails (`Clock.Walk`). Over the web, a slot is missed
exactly if the reply to the request for it has the status 404 (`Http.SlotExchange`).
-/

namespace StakeSnapshot

open StakeSnapshot.Task

namespace Clock

/-! ## Windows -/

/-- A number of slots from `start` downwards. -/
def slotsDown (start : UInt64) (count : Nat) : List UInt64 :=
  (List.range count).map fun i => UInt64.ofNat (start.toNat - i)

/-- The slots of a window, from its start downwards. -/
def window (start lookback : UInt64) : List UInt64 :=
  slotsDown start (min lookback.toNat (start.toNat + 1))

section Window

variable {start lookback : UInt64} {count : Nat}

end Window

/-! ## Walks -/

/-- What a walk through some slots may have come to, given the records of the questions for a slot.
A walk that has missed all of them ends in the failure `exhausted`. -/
inductive Walk {ν : Type} (asks : UInt64 → Trails (Option BeaconBlock) ν) (exhausted : Failure) :
    List UInt64 → Option (Outcome BeaconBlock) → List ν → Prop where
  | ends : Walk asks exhausted [] (some (.error exhausted)) []
  | waits {slot : UInt64} {rest : List UInt64} {l : List ν} (h : asks slot none l) :
      Walk asks exhausted (slot :: rest) none l
  | fails {slot : UInt64} {rest : List UInt64} {l : List ν} {e : Failure}
      (h : asks slot (some (.error e)) l) :
      Walk asks exhausted (slot :: rest) (some (.error e)) l
  | finds {slot : UInt64} {rest : List UInt64} {l : List ν} {b : BeaconBlock}
      (h : asks slot (some (.ok (some b))) l) :
      Walk asks exhausted (slot :: rest) (some (.ok b)) l
  | misses {slot : UInt64} {rest : List UInt64} {o : Option (Outcome BeaconBlock)} {l l' : List ν}
      (h : asks slot (some (.ok none)) l) (hrest : Walk asks exhausted rest o l') :
      Walk asks exhausted (slot :: rest) o (l ++ l')

theorem Walk.imp {ν : Type} {asks asks' : UInt64 → Trails (Option BeaconBlock) ν}
    {exhausted : Failure} (himp : ∀ slot o l, asks slot o l → asks' slot o l)
    {slots : List UInt64} {o : Option (Outcome BeaconBlock)} {l : List ν}
    (h : Walk asks exhausted slots o l) : Walk asks' exhausted slots o l := by
  induction h with
  | ends => exact .ends
  | waits h => exact .waits (himp _ _ _ h)
  | fails h => exact .fails (himp _ _ _ h)
  | finds h => exact .finds (himp _ _ _ h)
  | misses h _ ih => exact .misses (himp _ _ _ h) ih

section Leaves

variable {R : Type → Type} {ν : Type} {replies : Replies R}
  {asked : {α : Type} → R α → Option ν} {answered : {α : Type} → R α → Outcome α → Option ν}
  {f : {α : Type} → Query α → Task R α} {exhausted : Error}

end Leaves

/-! ## On a beacon chain -/

/-- What a walk has to do with its surroundings. -/
inductive SlotEvent where
  | asked (slot : UInt64)
  | answered (slot : UInt64) (answer : Outcome (Option BeaconBlock))
  /-- Anything else is asked. -/
  | other

namespace SlotEvent

def ofQuery : {α : Type} → Query α → Option SlotEvent
  | _, .beacon (.block slot) => some (asked slot)
  | _, _ => some other

def ofAnswer : {α : Type} → Query α → Outcome α → Option SlotEvent
  | _, .beacon (.block slot), r => some (answered slot r)
  | _, _, _ => none

end SlotEvent

end Clock

/-! ## Over the web -/

namespace Http

/-- What a walk over the web has to do with the servers. -/
inductive SlotExchangeEvent where
  | sent (url : Url)
  | replied (url : Url) (reply : Option Reply)
  /-- Anything else is asked. -/
  | other

namespace SlotExchangeEvent

def ofQuery : {α : Type} → Exchange α → Option SlotExchangeEvent
  | _, .web (.send (.get url)) => some (sent url)
  | _, _ => some other

def ofAnswer : {α : Type} → Exchange α → Outcome α → Option SlotExchangeEvent
  | _, .web (.send (.get url)), .ok reply => some (replied url reply)
  | _, _, _ => none

end SlotExchangeEvent

/-- A request is answered by a reply, or by nothing if its server is not reached. -/
def Exchange.Delivered : {α : Type} → Exchange α → Outcome α → Prop
  | _, .web (.send _), r => ∃ reply, r = .ok reply
  | _, .session _, _ => True

/-- Surroundings in which requests are answered as they should. -/
def Exchange.delivered : Replies Exchange := ⟨Exchange.Delivered, fun _ => True, True⟩

def Delivers {σ : Type} (service : Service Exchange σ) : Prop :=
  ∀ {α : Type} (q : Exchange α) (s : σ), q.Delivered (service.answer q s).1

theorem Delivers.records {σ ν : Type} {service : Service Exchange σ} (h : Delivers service)
    (asked : {α : Type} → Exchange α → Option ν)
    (answered : {α : Type} → Exchange α → Outcome α → Option ν) :
    service.Records Exchange.delivered asked answered (fun _ => True) fun _ => True where
  accept _ _ _ _ hs := ⟨by rw [hs.1], trivial⟩
  outcome _ _ _ _ hs := by rw [hs.1]
  answer _ _ _ _ hs := ⟨by rw [hs.1], trivial⟩
  reply q s _ _ _ := h q s.1
  permit hs := by rw [hs.1]
  grant _ _ := trivial
  refusal _ _ := trivial

section Slot

variable {base url : Url}

namespace BeaconApi

end BeaconApi

open BeaconApi

end Slot

end Http

namespace Clock

open Http

end Clock

end StakeSnapshot
