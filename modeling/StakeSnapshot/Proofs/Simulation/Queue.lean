import StakeSnapshot.Proofs.Simulation.Head

/-!
# The queue of a deployment

The contracts of a deployment say of each partition what was put into it, in order, however the
steps of the history are interleaved. So if every minipool that waits was added once and was put
once into the partition of its deposit type, the two lookups at the head undo each other on the
whole queue (`Queue.contracts_say_history`).
-/

namespace StakeSnapshot

open StakeSnapshot.Task Simulation

namespace Queue

theorem strict_askContracts (registry : Registry) (block : UInt64) {α : Type} (q : QueueQuery α) :
    (askContracts registry block q).Strict := by
  cases q with
  | length | totalLength | indexOf => exact (strict_read _ _ _ _).map _
  | itemAt => exact strict_read _ _ _ _
  | depositType => exact (strict_read _ _ _ _).bind fun _ => trivial

theorem permitless_askContracts (registry : Registry) (block : UInt64) {α : Type}
    (q : QueueQuery α) : (askContracts registry block q).Permitless := by
  cases q with
  | length | totalLength | indexOf => exact (permitless_read _ _ _ _).bind fun _ => trivial
  | itemAt => exact permitless_read _ _ _ _
  | depositType => exact (permitless_read _ _ _ _).bind fun _ => trivial

theorem strict_lengths : lengths.Strict :=
  Strict.bind ⟨trivial, trivial, trivial⟩ fun _ => trivial

theorem strict_status (registry : Registry) (block : UInt64) : (status registry block).Strict := by
  have lengths : (atBlock registry block lengths).Strict :=
    strict_lengths.substitute (strict_askContracts registry block)
  have capacity : (capacity registry block).Strict :=
    Strict.bind ⟨strict_read _ _ _ _, strict_read _ _ _ _, strict_read _ _ _ _⟩ fun _ => trivial
  exact Strict.bind ⟨lengths, capacity⟩ fun _ => trivial

theorem placeOfIndex_ofNat {i : Nat} (hi : i + 1 < UInt64.size) :
    placeOfIndex (BitVec.ofNat 256 i) = UInt64.ofNat (i + 1) := by
  have hcount : BitVec.ofNat 256 i = Amount.ofCount (UInt64.ofNat i) :=
    amountOfNat_eq (Nat.lt_of_succ_lt hi)
  have hsize : 2 * UInt64.size < 2 ^ 256 := by decide
  have hpositive : (BitVec.ofNat 256 i).msb = false := by
    rw [BitVec.msb_eq_false_iff_two_mul_lt, BitVec.toNat_ofNat, Nat.mod_eq_of_lt (by omega)]
    omega
  rw [placeOfIndex, if_neg (by rw [hpositive]; exact Bool.false_ne_true), hcount,
    Amount.saturate_ofCount]
  apply UInt64.toNat_inj.mp
  rw [Count.toNat_addSaturating, UInt64.toNat_ofNat_of_lt' (Nat.lt_of_succ_lt hi),
    UInt64.toNat_ofNat_of_lt' hi]
  exact Nat.min_eq_left (Nat.le_sub_one_of_lt hi)

/-- The place of a minipool whose index is stored. -/
theorem placeOfIndex_storedIndex {queue : List Address} (hfits : queue.length < UInt64.size)
    (m : Address) :
    placeOfIndex (Protocol.storedIndex queue m) =
      if m ∈ queue then UInt64.ofNat (queue.idxOf m + 1) else 0 := by
  have hidx := List.idxOf_eq_getD_idxOf? (a := m) (l := queue)
  unfold Protocol.storedIndex
  cases h : queue.idxOf? m with
  | none =>
      rw [if_neg (List.idxOf?_eq_none_iff.mp h)]
      decide
  | some i =>
      have hm : m ∈ queue := by
        by_contra hm
        rw [List.idxOf?_eq_none_iff.mpr hm] at h
        cases h
      rw [h, Option.getD_some] at hidx
      have hlt := List.idxOf_lt_length_of_mem hm
      rw [if_pos hm, hidx]
      exact placeOfIndex_ofNat (by omega)

end Queue

namespace Simulation.Ledger

/-- What the queue answers by the ledger. -/
def queueAnswers (l : Ledger) : {α : Type} → QueueQuery α → Outcome α
  | _, .length p => .ok (UInt64.ofNat (l.waiting p).length)
  | _, .totalLength => .ok (UInt64.ofNat (Queue.whole l.waiting).length)
  | _, .indexOf p m =>
      .ok (if m ∈ l.waiting p then UInt64.ofNat ((l.waiting p).idxOf m + 1) else 0)
  | _, .itemAt p index =>
      match (l.waiting p)[index.toNat]? with
      | some m => .ok m
      | none => .error (.error (.bare .sourceUnavailable))
  | _, .depositType m =>
      match l.minipool? m with
      | some m => .ok m.depositType
      | none => .error (.error (.bare .sourceUnavailable))

/-- The question is not about the index of a minipool that has not been added. -/
def Knows (l : Ledger) : {α : Type} → QueueQuery α → Prop
  | _, .indexOf _ m => m ∈ l.minipools.map Minipool.address
  | _, _ => True

/-- Every minipool that waits was added once, and was put once into a partition, that of its deposit
type. -/
structure QueuedOnce (l : Ledger) : Prop where
  once : (Queue.whole l.waiting).Nodup
  added : ∀ p, ∀ a ∈ l.waiting p, ∃ m, l.minipools.filter (·.address = a) = [m] ∧
    Partition.ofDepositType m.depositType = .ok p

variable {l : Ledger}

theorem queueAnswers_itemAt {p : Partition} {index : UInt64} {a : Address} :
    l.queueAnswers (.itemAt p index) = .ok a ↔ (l.waiting p)[index.toNat]? = some a := by
  rw [queueAnswers]
  cases (l.waiting p)[index.toNat]? with
  | none => exact ⟨nofun, nofun⟩
  | some b => simp only [Except.ok.injEq, Option.some.injEq]

theorem queueAnswers_depositType {a : Address} {type : DepositType} :
    l.queueAnswers (.depositType a) = .ok type ↔
      ∃ m, l.minipool? a = some m ∧ m.depositType = type := by
  rw [queueAnswers]
  cases l.minipool? a with
  | none => exact ⟨nofun, nofun⟩
  | some m => simp only [Except.ok.injEq, Option.some.injEq, exists_eq_left']

theorem minipool?_of_filter {a : Address} {m : Minipool}
    (h : l.minipools.filter (·.address = a) = [m]) : l.minipool? a = some m := by
  rw [minipool?, ← List.head?_filter, List.filter_reverse, h]
  rfl

theorem QueuedOnce.backed (h : l.QueuedOnce) :
    QueueQuery.Backed l.queueAnswers l.waiting where
  length _ := rfl
  totalLength := rfl
  indexOf _ _ := rfl
  itemAt _ _ _ := queueAnswers_itemAt.mpr
  depositType p a ha := by
    obtain ⟨m, hm, htype⟩ := h.added p a ha
    exact ⟨m.depositType, queueAnswers_depositType.mpr ⟨m, minipool?_of_filter hm, rfl⟩, htype⟩

theorem QueuedOnce.knows (h : l.QueuedOnce) {p : Partition} {a : Address} (ha : a ∈ l.waiting p) :
    a ∈ l.minipools.map Minipool.address := by
  obtain ⟨m, hm, -⟩ := h.added p a ha
  have hmem : m ∈ l.minipools.filter (·.address = a) := by
    rw [hm]
    exact List.mem_singleton_self m
  obtain ⟨hmem, haddress⟩ := List.mem_filter.mp hmem
  exact List.mem_map.mpr ⟨m, hmem, of_decide_eq_true haddress⟩

theorem InMemory.whole_fits (h : l.InMemory) :
    (Queue.whole l.waiting).length < UInt64.size := by
  have hlimit : 2 * Memory.limit < UInt64.size := by decide
  have hhalf := h.waiting .half
  have hfull := h.waiting .full
  have hempty := h.waiting .empty
  rw [Queue.whole, List.length_append, List.length_append]
  omega

end Simulation.Ledger

namespace Answers.Serve

variable {a : Answers} {storage : Address} {l : Ledger} (h : a.Serve storage l)

include h

/-- The contracts answer as the ledger says. -/
theorem mayEnd_askContracts (hmemory : l.InMemory) (block : UInt64) {α : Type} (q : QueueQuery α)
    (v : α) (hknows : l.Knows q) (hv : l.queueAnswers q = .ok v) :
    MayEnd (.fixed a.query) (Queue.askContracts (deployed storage) block q) (.ok v) := by
  cases q with
  | length p =>
      cases hv
      refine (mayEnd_map_ok _ _ _).mpr ⟨_, (mayEnd_read_ok _ _ _ _ _).mpr
        (h.returns block (.length p) rfl rfl rfl), ?_⟩
      rw [amountOfNat_eq (hmemory.fits.waiting p), Amount.saturate_ofCount]
  | totalLength =>
      cases hv
      refine (mayEnd_map_ok _ _ _).mpr ⟨_, (mayEnd_read_ok _ _ _ _ _).mpr
        (h.returns block .totalLength rfl rfl rfl), ?_⟩
      rw [amountOfNat_eq hmemory.whole_fits, Amount.saturate_ofCount]
  | indexOf p m =>
      cases hv
      have hdue : l.due (.indexOf p m) = some (Contract.AddressQueueStorage.getIndexOf.encodeResult
          (Protocol.storedIndex (l.waiting p) m)) := if_pos hknows
      refine (mayEnd_map_ok _ _ _).mpr ⟨_, (mayEnd_read_ok _ _ _ _ _).mpr
        (h.returns block (.indexOf p m) rfl rfl hdue), ?_⟩
      rw [Queue.placeOfIndex_storedIndex (hmemory.fits.waiting p)]
  | itemAt p index =>
      refine (mayEnd_read_ok _ _ _ _ _).mpr
        (h.returns block (.item p (Amount.ofCount index)) rfl rfl ?_)
      rw [Ledger.due, Amount.toNat_ofCount, Ledger.queueAnswers_itemAt.mp hv]
      rfl
  | depositType m =>
      obtain ⟨r, hminipool, rfl⟩ := Ledger.queueAnswers_depositType.mp hv
      have hdue : l.due (.minipool .depositType m) = some
          (Contract.MinipoolDelegate.getDepositType.encodeResult r.depositType.number) := by
        rw [Ledger.due, hminipool]
        rfl
      refine (mayEnd_bind_ok _ _ _).mpr ⟨_, (mayEnd_read_ok _ _ _ _ _).mpr
        (h.returns block (.minipool .depositType m) rfl rfl hdue), ?_⟩
      exact (mayEnd_ofExcept_ok _ _).mpr (DepositType.ofNumber_number r.depositType)

/-- A strict task over the queue ends as the ledger says, as long as it asks of no other minipools
than those that were added. -/
theorem ends_atBlock (hmemory : l.InMemory) (block : UInt64) {α : Type} {t : Task QueueQuery α}
    (ht : t.Strict) (hasks : t.Asks (.fixed l.queueAnswers) l.Knows) {v : α}
    (hv : t.MayEnd (.fixed l.queueAnswers) (.ok v)) {o : Outcome α}
    (ho : MayEnd (.fixed a.query) (Queue.atBlock (deployed storage) block t) o) : o = .ok v :=
  (ht.substitute (Queue.strict_askContracts _ block)).eq_ok
    (ht.mayEnd_substitute trivial (h.mayEnd_askContracts hmemory block) hasks hv) ho

theorem ends_positionOf (hmemory : l.InMemory) (hqueued : l.QueuedOnce) (block : UInt64) {i : Nat}
    (hi : i < (Queue.whole l.waiting).length) {o : Outcome UInt64}
    (ho : MayEnd (.fixed a.query) (Queue.atBlock (deployed storage) block
      (Queue.positionOf (Queue.whole l.waiting)[i])) o) : o = .ok (UInt64.ofNat (i + 1)) := by
  have hwaits : (Queue.whole l.waiting)[i] ∈ Queue.whole l.waiting := List.getElem_mem hi
  obtain ⟨p, hp⟩ := Queue.mem_whole.mp hwaits
  obtain ⟨type, htype, hpartition⟩ := hqueued.backed.depositType p _ hp
  have hnone : type ≠ .none := by
    rintro rfl
    cases hpartition
  obtain ⟨position, hend, hvalue⟩ := Queue.mayEnd_positionOf hqueued.backed hmemory.whole_fits
    hqueued.once htype hnone
  rw [if_pos hwaits, hqueued.once.idxOf_getElem] at hvalue
  have hposition : position = UInt64.ofNat (i + 1) := by
    rw [← hvalue, UInt64.ofNat_toNat]
  have hasks : (Queue.positionOf (Queue.whole l.waiting)[i]).Asks (.fixed l.queueAnswers)
      l.Knows := by
    refine (Queue.asks_positionOf htype hpartition).imp fun q hq => ?_
    cases q with
    | indexOf q m =>
        obtain ⟨rfl, rfl⟩ := hq
        exact hqueued.knows hp
    | _ => trivial
  rw [hposition] at hend
  exact h.ends_atBlock hmemory block (Queue.strict_positionOf _) hasks hend ho

theorem ends_minipoolAt (hmemory : l.InMemory) (hqueued : l.QueuedOnce) (block : UInt64) {i : Nat}
    (hi : i < (Queue.whole l.waiting).length) {o : Outcome Address}
    (ho : MayEnd (.fixed a.query) (Queue.atBlock (deployed storage) block
      (Queue.minipoolAt (UInt64.ofNat i))) o) : o = .ok (Queue.whole l.waiting)[i] := by
  have hplace : (UInt64.ofNat i).toNat = i :=
    UInt64.toNat_ofNat_of_lt' (hi.trans hmemory.whole_fits)
  have hlt : (UInt64.ofNat i).toNat < (Queue.whole l.waiting).length := by rwa [hplace]
  have hend := Queue.mayEnd_minipoolAt hqueued.backed hmemory.whole_fits hlt
  simp only [hplace] at hend
  have hasks : (Queue.minipoolAt (UInt64.ofNat i)).Asks (.fixed l.queueAnswers) l.Knows := by
    refine Asks.bind trivial fun total => ?_
    split
    · trivial
    · refine Asks.bind (Asks.bind ⟨trivial, trivial, trivial⟩ fun _ => trivial) fun lengths => ?_
      split <;> trivial
  exact h.ends_atBlock hmemory block (Queue.strict_minipoolAt _) hasks hend ho

theorem ends_status (hmemory : l.InMemory) (block : UInt64) {o : Outcome QueueStatus}
    (ho : MayEnd (.fixed a.query) (Queue.status (deployed storage) block) o) :
    o = .ok ⟨⟨UInt64.ofNat (l.waiting .half).length, UInt64.ofNat (l.waiting .full).length,
      UInt64.ofNat (l.waiting .empty).length⟩, l.capacity⟩ := by
  refine (Queue.strict_status _ block).eq_ok ?_ ho
  have hlengths : MayEnd (.fixed l.queueAnswers) Queue.lengths
      (.ok ⟨UInt64.ofNat (l.waiting .half).length, UInt64.ofNat (l.waiting .full).length,
        UInt64.ofNat (l.waiting .empty).length⟩) :=
    (mayEnd_bind_ok _ _ _).mpr ⟨(_, _, _), ⟨rfl, rfl, rfl⟩, rfl⟩
  have hasks : Queue.lengths.Asks (.fixed l.queueAnswers) l.Knows :=
    Asks.bind ⟨trivial, trivial, trivial⟩ fun _ => trivial
  have hcapacity : MayEnd (.fixed a.query) (Queue.capacity (deployed storage) block)
      (.ok l.capacity) := by
    refine (mayEnd_bind_ok _ _ _).mpr ⟨(_, _, _), ⟨(mayEnd_read_ok _ _ _ _ _).mpr
      (h.returns block .totalCapacity rfl rfl rfl), (mayEnd_read_ok _ _ _ _ _).mpr
      (h.returns block .effectiveCapacity rfl rfl rfl), (mayEnd_read_ok _ _ _ _ _).mpr
      (h.returns block .nextCapacity rfl rfl rfl)⟩, rfl⟩
  have hasked : MayEnd (.fixed a.query) (Queue.atBlock (deployed storage) block Queue.lengths) _ :=
    Queue.strict_lengths.mayEnd_substitute trivial (h.mayEnd_askContracts hmemory block) hasks
      hlengths
  exact (mayEnd_bind_ok _ _ _).mpr ⟨(_, _), ⟨hasked, hcapacity⟩, rfl⟩

end Answers.Serve

namespace Queue

/-- What the contracts say to a question, at any block. -/
def ContractsSay {σ α : Type} (service : Service Query σ) (s : σ) (registry : Registry)
    (q : QueueQuery α) (v : α) : Prop :=
  ∀ block last, (askContracts registry block q).EndsIn service s last → last.1 = .ok v

/-- After any history the contracts say of each partition what was put into it, in order. If every
minipool that waits was added once and was put once into the partition of its deposit type, then at
the head the minipools of the whole queue have the positions from one on, and are found at the
places from zero on. -/
theorem contracts_say_history {β : Type} {beacon : Service BeaconQuery β}
    {beaconAnswers : {α : Type} → BeaconQuery α → Outcome α} {J : β → Prop} (storage : Address)
    {steps : List Step} (hmemory : (Ledger.after steps).InMemory)
    {s : Surroundings ExecutionChain β}
    (hhosted : (Protocol.after storage steps).HostedIn beacon beaconAnswers J s) :
    let l := Ledger.after steps
    let service := Service.ofChains ExecutionChain.service beacon
    let registry := (Protocol.after storage steps).registry
    (∀ p, ContractsSay service s registry (.length p) (UInt64.ofNat (l.waiting p).length)) ∧
    ContractsSay service s registry .totalLength (UInt64.ofNat
      ((l.waiting .half).length + (l.waiting .full).length + (l.waiting .empty).length)) ∧
    (∀ p i (hi : i < (l.waiting p).length),
      ContractsSay service s registry (.itemAt p (UInt64.ofNat i)) (l.waiting p)[i]) ∧
    (∀ p, ∀ m ∈ l.minipools, ContractsSay service s registry (.indexOf p m.address)
      (if m.address ∈ l.waiting p then UInt64.ofNat (1 + (l.waiting p).idxOf m.address) else 0)) ∧
    ∀ settings block number, ((Request.headBlock settings).run service s).1 = .ok block →
      block.executionBlock = some number →
      Request.ComesTo service s (Request.late settings "queue status")
        (Request.queueStatus settings storage)
        (· = .ok ⟨⟨UInt64.ofNat (l.waiting .half).length, UInt64.ofNat (l.waiting .full).length,
          UInt64.ofNat (l.waiting .empty).length⟩, l.capacity⟩) ∧
      (l.QueuedOnce → ∀ i (hi : i < (whole l.waiting).length),
        Request.ComesTo service s (Request.late settings "queue position")
          (Request.queuePosition settings storage (whole l.waiting)[i])
          (· = .ok (UInt64.ofNat (i + 1))) ∧
        Request.ComesTo service s (Request.late settings "queue lookup")
          (Request.minipoolAtQueuePosition settings storage (UInt64.ofNat i))
          (· = .ok (whole l.waiting)[i])) := by
  intro l service registry
  have hshows := Protocol.shows_after storage steps hmemory.fits
  have hserve := hshows.serve beaconAnswers
    ((Protocol.after storage steps).answersIn beaconAnswers s).learned.known
  have answered : ∀ {α : Type} (q : QueueQuery α) (v : α), l.Knows q → l.queueAnswers q = .ok v →
      ContractsSay service s registry q v := by
    intro α q v hknows hv block last hlast
    have learns : ((Protocol.after storage steps).answersIn beaconAnswers s).Learns false
        (askContracts registry block q) :=
      Answers.learns_of_asks ((reading_leavesConfig block).asks_askContracts registry q)
    have hend := hhosted.mayEnd learns hlast
    have hregistry : registry = deployed storage := hshows.registry
    rw [hregistry] at hend
    exact (strict_askContracts _ block q).eq_ok
      (hserve.mayEnd_askContracts hmemory block q v hknows hv) hend
  refine ⟨fun p => answered _ _ trivial rfl, answered _ _ trivial ?_,
    fun p i hi => answered _ _ trivial ?_, fun p m hm => answered _ _ (List.mem_map_of_mem hm) ?_,
    fun settings block number hhead hnumber => ?_⟩
  · rw [Ledger.queueAnswers, whole, List.length_append, List.length_append]
  · have hplace : (UInt64.ofNat i).toNat = i :=
      UInt64.toNat_ofNat_of_lt' (hi.trans (hmemory.fits.waiting p))
    rw [Ledger.queueAnswers, hplace, List.getElem?_eq_getElem hi]
  · rw [Ledger.queueAnswers, Nat.add_comm]
  · obtain ⟨config, atHead⟩ := hhosted.comesTo_atHead hshows hhead hnumber
    refine ⟨?_, fun hqueued i hi => ⟨?_, ?_⟩⟩
    · refine atHead "queue status" (fun _ found registry => status registry found.2)
        (fun block found registry => ?_) fun o ho => ?_
      · exact (reading_leavesConfig found.2).asks_status registry
      · exact hserve.ends_status hmemory number ho
    · refine atHead "queue position" (fun _ found registry => atBlock registry found.2
        (positionOf (whole l.waiting)[i])) (fun block found registry => ?_) fun o ho => ?_
      · exact (reading_leavesConfig found.2).asks_atBlock registry _
      · exact hserve.ends_positionOf hmemory hqueued number hi ho
    · refine atHead "queue lookup" (fun _ found registry => atBlock registry found.2
        (minipoolAt (UInt64.ofNat i))) (fun block found registry => ?_) fun o ho => ?_
      · exact (reading_leavesConfig found.2).asks_atBlock registry _
      · exact hserve.ends_minipoolAt hmemory hqueued number hi ho

/-- Four minipools, of which three are put into the queue, one of them before it is added. -/
def sampleHistory : List Step :=
  [.setLatest ⟨7, 84⟩, .enqueue .full (.ofNat 202),
    .addMinipool ⟨.ofNat 201, .ofNat 100, .staking, false, 0, .half⟩,
    .enqueue .half (.ofNat 201),
    .addMinipool ⟨.ofNat 202, .ofNat 100, .staking, false, 0, .full⟩,
    .addMinipool ⟨.ofNat 203, .ofNat 100, .staking, false, 0, .variableBond⟩,
    .addMinipool ⟨.ofNat 204, .ofNat 100, .staking, false, 0, .full⟩,
    .enqueue .empty (.ofNat 203)]

theorem sampleHistory_inMemory : (Ledger.after sampleHistory).InMemory where
  nodes := by decide
  minipools := by decide
  waiting p := by cases p <;> decide
  texts := nofun

theorem sampleHistory_queuedOnce : (Ledger.after sampleHistory).QueuedOnce where
  once := by decide
  added p a ha := by
    cases p with
    | half =>
        obtain rfl := List.mem_singleton.mp ha
        exact ⟨_, rfl, rfl⟩
    | full =>
        obtain rfl := List.mem_singleton.mp ha
        exact ⟨_, rfl, rfl⟩
    | empty =>
        obtain rfl := List.mem_singleton.mp ha
        exact ⟨_, rfl, rfl⟩

/-- The second minipool of the whole queue, what the queue says of its partition and of a minipool
that does not wait there, and the lengths. -/
theorem sampleHistory_second :
    let service := Service.ofChains ExecutionChain.service BeaconChain.service
    let p := Protocol.after (.ofNat 1) sampleHistory
    (∀ block, ((askContracts p.registry block (.itemAt .full 0)).run service p.sampleWorld).1 =
        .ok (.ofNat 202) ∧
      ((askContracts p.registry block (.indexOf .full (.ofNat 202))).run service
        p.sampleWorld).1 = .ok 1 ∧
      ((askContracts p.registry block (.indexOf .full (.ofNat 204))).run service
        p.sampleWorld).1 = .ok 0) ∧
    ((Request.queueStatus .default (.ofNat 1)).run service p.sampleWorld).1 =
      .ok ⟨⟨1, 1, 1⟩, ⟨0, 0, 0⟩⟩ ∧
    ((Request.queuePosition .default (.ofNat 1) (.ofNat 202)).run service p.sampleWorld).1 =
      .ok 2 ∧
    ((Request.minipoolAtQueuePosition .default (.ofNat 1) 1).run service p.sampleWorld).1 =
      .ok (.ofNat 202) := by
  intro service p
  obtain ⟨-, -, hitem, hindex, hhead⟩ :=
    contracts_say_history (.ofNat 1) sampleHistory_inMemory p.sampleWorld_hosts
  have hlatest := (Protocol.shows_after (.ofNat 1) sampleHistory sampleHistory_inMemory.fits).latest
  obtain ⟨hstatus, hlookups⟩ :=
    hhead .default _ 7 (Protocol.headBlock_sampleWorld hlatest) rfl
  obtain ⟨hposition, hlookup⟩ := hlookups sampleHistory_queuedOnce 1 (by decide)
  refine ⟨fun block => ⟨?_, ?_, ?_⟩, hstatus.run, hposition.run, hlookup.run⟩
  · exact hitem .full 0 (by decide) block _ (.inl rfl)
  · exact hindex .full ⟨.ofNat 202, .ofNat 100, .staking, false, 0, .full⟩ (by decide) block _
      (.inl rfl)
  · exact hindex .full ⟨.ofNat 204, .ofNat 100, .staking, false, 0, .full⟩ (by decide) block _
      (.inl rfl)

end Queue

end StakeSnapshot
