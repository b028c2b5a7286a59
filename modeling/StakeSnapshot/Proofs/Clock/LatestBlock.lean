import StakeSnapshot.Proofs.Clock.Window
import StakeSnapshot.Proofs.SingleBlock
import StakeSnapshot.Proofs.SingleNode

/-!
# The latest block at the head and the latest finalized block

Both are latest blocks in a window. That of the finalized block ends with the last finalized epoch
(`Request.latestFinalizedBlock_finds`), and that at the head with the last slot which has begun at
the time of the latest execution block. A snapshot at the head is one of the block that is found
there (`Request.head_is_latest`).
-/

namespace StakeSnapshot

open StakeSnapshot.Task

/-- The slots up to the end of the last finalized epoch in a window that ends there. -/
def BeaconHistory.FinalizedWithin (history : BeaconHistory) (lookback slot : UInt64) : Prop :=
  history.config.epochOf slot ≤ history.finalizedEpoch.toNat ∧
    (history.finalizedEpoch.toNat + 1) * history.config.slotsPerEpoch.toNat - 1 - slot.toNat
      < lookback.toNat

instance (history : BeaconHistory) (lookback slot : UInt64) :
    Decidable (history.FinalizedWithin lookback slot) :=
  inferInstanceAs (Decidable (_ ∧ _))

/-- What a task in order gives, it gives under a limit, unless it is given up. -/
theorem Request.comesTo_of_gives {σ α : Type} {service : Service Query σ} {pre post : σ → Prop}
    {t : Task Query α} {o : Outcome α} (ht : t.Sequential) (h : Gives service pre t o post) {s : σ}
    (hs : pre s) (settings : Settings) (name : String) :
    ComesTo service s (late settings name) (timed settings name t) (· = o) where
  run := (h s hs).1
  ends last hlast := by
    rw [← (h s hs).1]
    exact hlast.of_sequential ht

section MayEnd

variable {replies : Replies Query} {storage address : Address} {block : BeaconBlock}
  {st : Snapshot}

/-- The snapshot is of a beacon block and of the execution block in it. -/
def Snapshot.IsAt (st : Snapshot) (block : BeaconBlock) : Prop :=
  st.slot = block.slot ∧ block.executionBlock = some st.executionBlock

theorem isAt_of_mayEnd_snapshotAt
    (h : MayEnd replies (Request.snapshotAt storage block) (.ok st)) : st.IsAt block := by
  obtain ⟨hslot, hblock, -⟩ := mayEnd_snapshotAt_ok h
  exact ⟨hslot, PoolRequest.executionBlock_of_mayEnd hblock⟩

theorem isAt_of_mayEnd_nodeStateAt
    (h : MayEnd replies (Request.nodeStateAt storage address block) (.ok st)) : st.IsAt block := by
  obtain ⟨⟨config, number⟩, hblock, h⟩ := (mayEnd_bind_ok _ _ _).mp h
  obtain ⟨registry, -, h⟩ := (mayEnd_bind_ok _ _ _).mp h
  obtain ⟨_, -, h⟩ := (mayEnd_bind_ok _ _ _).mp h
  cases h
  exact ⟨rfl, PoolRequest.executionBlock_of_mayEnd hblock⟩

end MayEnd

/-! ## A chain with missed slots -/

/-- A beacon chain whose slots begin every 12 seconds from time 10 on, 4 of them in an epoch. Epoch
0 is finalized, and the blocks are in slots 2, 5 and 9. -/
def BeaconHistory.sample : BeaconHistory where
  config := ⟨10, 12, 4⟩
  finalizedEpoch := 0
  block slot := if slot = 2 ∨ slot = 5 ∨ slot = 9 then some ⟨slot, 0, some 7⟩ else none
  slot_block h := by
    split at h
    · cases h
      rfl
    · cases h

/-- What an execution chain says whose latest block is of time 84 and whose pool is empty. -/
def ExecutionQuery.emptyPool : {α : Type} → ExecutionQuery α → Outcome α
  | _, .latestBlock => .ok ⟨7, 84⟩
  | _, .call _ _ => .ok (Bytes.ofNat 32 0)
  | _, .batchCall calls _ => .ok (calls.map fun _ => Bytes.ofNat 32 2)
  | _, .balance _ _ => .ok 0
  | _, .bulkBalances accounts _ => .ok (accounts.map fun _ => 0)

/-! ## The two requests -/

namespace Request

variable {ε β : Type} {client : Service ExecutionQuery ε} {beacon : Service BeaconQuery β}
  {history : BeaconHistory} {I : ε → Prop} {J : β → Prop}

theorem sequential_headBlock (settings : Settings) : (headBlock settings).Sequential :=
  PoolRequest.sequential_beaconBlock settings .headState

/-- A request that goes on from the head block ends as it may after what the head block is. -/
theorem mayEnd_after_headBlock {α : Type} {settings : Settings} {name : String}
    {service : Service Query (Surroundings ε β)} {pre post : Surroundings ε β → Prop}
    {o : Outcome BeaconBlock} (hhead : Gives service pre (headBlock settings) o post)
    {s : Surroundings ε β} (hs : pre s) {f : BeaconBlock → Task Query α} {v : α}
    {s' : Surroundings ε β}
    (h : (timed settings name (headBlock settings >>= f)).EndsIn service s (.ok v, s')) :
    ∃ b, o = .ok b ∧ (f b).MayEnd service.replies (.ok v) := by
  have rest := (h.after_first (sequential_headBlock settings)).resolve_right (by simp)
  rw [(hhead s hs).1] at rest
  cases o with
  | ok b => exact ⟨b, rfl, rest⟩
  | error e => cases rest

theorem sequential_latestFinalizedBlock (config : BeaconConfig) (lookback : UInt64) :
    (Clock.latestFinalizedBlock config lookback).Sequential := by
  have head : (Task.ask (Query.beacon .head)).Sequential := trivial
  refine (head.context _).bind fun head => ?_
  have slot : (Task.ofFaulty (config.lastSlotOfEpoch head.finalizedEpoch) :
    Task Query UInt64).Sequential := trivial
  exact slot.bind fun slot => PoolRequest.sequential_latestProposedBlock slot lookback

section Finalized

variable (hbeacon : beacon.Steady history.answers (fun _ => True) J)

include hbeacon

theorem gives_latestFinalizedBlock (client : Service ExecutionQuery ε) {last : UInt64}
    (hlast : history.config.lastSlotOfEpoch history.finalizedEpoch = .ok last)
    (lookback : UInt64) :
    ∃ o, history.Finds (Clock.InWindow last lookback.toNat) o ∧
      Gives (.ofChains client beacon) (history.Told I J)
        (beaconConfig >>= fun config => Clock.latestFinalizedBlock config lookback) o
        (history.Told I J) := by
  obtain ⟨o, finds, search⟩ := history.gives_latestProposedBlock client hbeacon last lookback
  have slot : Gives (.ofChains client beacon) (history.Told I J)
      (.ofFaulty (history.config.lastSlotOfEpoch history.finalizedEpoch)) (.ok last)
      (history.Told I J) := by
    rw [hlast]
    exact gives_pure last
  refine ⟨o, finds, (history.gives_beaconConfig client hbeacon).bind ?_⟩
  exact ((history.gives_ask client hbeacon .head).context _).bind (slot.bind search)

/-- The latest finalized block is found exactly if there is one in its window, which ends with the
last finalized epoch, and then it is the latest there. So it is not of a later epoch, and no block
comes between it and the end of that epoch. -/
theorem latestFinalizedBlock_finds (client : Service ExecutionQuery ε) (settings : Settings)
    {s : Surroundings ε β} (hs : history.Told I J s) (hslots : 0 < history.config.slotsPerEpoch)
    (hsize : (history.finalizedEpoch.toNat + 1) * history.config.slotsPerEpoch.toNat
      ≤ UInt64.size) :
    ComesTo (.ofChains client beacon) s (late settings "latest finalized block")
      (latestFinalizedBlock settings) fun o =>
        history.Finds (history.FinalizedWithin settings.maxSlotLookback) o ∧
        ((∃ b, o = .ok b) ↔ ∃ slot b, history.FinalizedWithin settings.maxSlotLookback slot ∧
          history.block slot = some b) ∧
        ∀ b, o = .ok b →
          history.config.epochOf b.slot ≤ history.finalizedEpoch.toNat ∧
          ∀ slot, b.slot < slot →
            history.config.epochOf slot ≤ history.finalizedEpoch.toNat →
            history.block slot = none := by
  obtain ⟨last, hlast, hend⟩ := BeaconConfig.lastSlotOfEpoch_eq hslots hsize
  obtain ⟨o, finds, search⟩ := gives_latestFinalizedBlock hbeacon client hlast
    settings.maxSlotLookback
  have upTo (slot : UInt64) : history.config.epochOf slot ≤ history.finalizedEpoch.toNat ↔
      slot ≤ last := BeaconConfig.epochOf_le_iff hslots hend
  have sequential := PoolRequest.sequential_beaconConfig.bind fun config =>
    sequential_latestFinalizedBlock config settings.maxSlotLookback
  have window (slot : UInt64) : Clock.InWindow last settings.maxSlotLookback.toNat slot ↔
      history.FinalizedWithin settings.maxSlotLookback slot := by
    rw [BeaconHistory.FinalizedWithin, upTo, ← hend, Nat.add_sub_cancel, Clock.InWindow]
  have found := finds.congr window
  refine (comesTo_of_gives sequential search hs settings _).imp fun _ ho => ?_
  subst ho
  simp only [upTo]
  refine ⟨found, found.ok_iff, ?_⟩
  rintro b rfl
  cases finds with
  | found latest =>
      refine ⟨latest.1.1, fun slot hafter hslot => latest.2.2 slot ⟨hslot, ?_⟩ hafter⟩
      -- A later slot is nearer to the end of the window.
      have inside := latest.1.2
      have after := UInt64.lt_iff_toNat_lt.mp hafter
      omega

end Finalized

/-- On the sample chain the latest finalized block is that of slot 2. Epoch 0 ends with slot 3. -/
theorem latestFinalizedBlock_of_sample :
    let start : Surroundings Unit Unit := ⟨(), (), .new false⟩
    0 < BeaconHistory.sample.config.slotsPerEpoch ∧
      (BeaconHistory.sample.finalizedEpoch.toNat + 1) *
        BeaconHistory.sample.config.slotsPerEpoch.toNat ≤ UInt64.size ∧
      ComesTo (.ofChains (.fixed ExecutionQuery.emptyPool) (.fixed BeaconHistory.sample.answers))
        start (late .default "latest finalized block") (latestFinalizedBlock .default)
        (· = .ok ⟨2, 0, some 7⟩) := by
  intro start
  have hslots : 0 < BeaconHistory.sample.config.slotsPerEpoch := by decide
  have hsize : (BeaconHistory.sample.finalizedEpoch.toNat + 1) *
      BeaconHistory.sample.config.slotsPerEpoch.toNat ≤ UInt64.size := by decide
  have told : BeaconHistory.sample.Told (fun _ => True) (fun _ => True) start :=
    ⟨trivial, trivial, .inl rfl⟩
  have comesTo := latestFinalizedBlock_finds (Service.fixed_steady _ fun _ => True)
    (.fixed ExecutionQuery.emptyPool) .default told hslots hsize
  refine ⟨hslots, hsize, comesTo.imp fun o ⟨finds, _, _⟩ => finds.eq_ok ?_⟩
  refine ⟨by decide, rfl, fun slot hslot hafter => if_neg ?_⟩
  rintro (rfl | rfl | rfl)
  · exact absurd hafter (by decide)
  · exact absurd hslot (by decide)
  · exact absurd hslot (by decide)

section Head

variable (hbeacon : beacon.Steady history.answers (fun _ => True) J)

include hbeacon

theorem gives_headBlock (client : Service ExecutionQuery ε) {state : ε} {header : BlockHeader}
    (hheader : (client.answer .latestBlock (client.accept .latestBlock state).1).1 = .ok header)
    {top : UInt64} (htop : history.config.slotAt header.timestamp = .ok top)
    (settings : Settings) :
    ∃ o, history.Finds (Clock.InWindow top settings.maxSlotLookback.toNat) o ∧
      Gives (.ofChains client beacon) (history.Told (· = state) J) (headBlock settings) o
        (history.Told (fun _ => True) J) := by
  obtain ⟨o, finds, search⟩ := history.gives_latestProposedBlock client (I := fun _ => True)
    hbeacon top settings.maxSlotLookback
  have latest : Gives (.ofChains client beacon) (history.Told (· = state) J)
      (.ask (.execution .latestBlock)) (.ok header) (history.Told (fun _ => True) J) := by
    rintro s ⟨rfl, hbeaconState, hknown⟩
    exact ⟨hheader, trivial, hbeaconState, hknown⟩
  have slot : Gives (.ofChains client beacon) (history.Told (fun _ => True) J)
      (.ofFaulty (history.config.slotAt header.timestamp)) (.ok top)
      (history.Told (fun _ => True) J) := by
    rw [htop]
    exact gives_pure top
  refine ⟨o, finds, (history.gives_beaconConfig client hbeacon).bind ?_⟩
  exact ((latest.context _).bind slot).bind search

/-- The latest block at the head is the latest in its window, which ends with the last slot that
has begun at the time of the latest execution block. A snapshot at the head is one of that block
and of the execution block in it. -/
theorem head_is_latest (client : Service ExecutionQuery ε) (settings : Settings)
    (storage address : Address) {s : Surroundings ε β} (hs : history.Told (fun _ => True) J s)
    {header : BlockHeader}
    (hheader : (client.answer .latestBlock (client.accept .latestBlock s.execution).1).1 =
      .ok header)
    (hseconds : 0 < history.config.secondsPerSlot) :
    ∃ top, IsGreatest (history.config.begun header.timestamp) top ∧
      ∃ o, history.Finds (fun slot => slot.toNat ∈ history.config.begun header.timestamp ∧
          top - slot.toNat < settings.maxSlotLookback.toNat) o ∧
        ComesTo (.ofChains client beacon) s (late settings "latest block") (latestBlock settings)
          (· = o) ∧
        ∀ st s', (headState settings storage).EndsIn (.ofChains client beacon) s (.ok st, s') ∨
            (headStateForNode settings storage address).EndsIn (.ofChains client beacon) s
              (.ok st, s') →
          ∃ b, o = .ok b ∧ st.IsAt b := by
  obtain ⟨top, htop, greatest⟩ := BeaconConfig.slotAt_isGreatest hseconds header.timestamp
  obtain ⟨o, finds, head⟩ := gives_headBlock hbeacon client hheader htop settings
  have start : history.Told (· = s.execution) J s := ⟨rfl, hs.beacon, hs.known⟩
  refine ⟨top.toNat, greatest, o, finds.congr fun slot => ?_,
    comesTo_of_gives (sequential_headBlock settings) head start settings _, ?_⟩
  · rw [Clock.InWindow, UInt64.le_iff_toNat_le, BeaconConfig.mem_begun_iff greatest]
  · rintro st s' (hfull | hsingle)
    · obtain ⟨b, ho, hend⟩ := mayEnd_after_headBlock head start hfull
      exact ⟨b, ho, isAt_of_mayEnd_snapshotAt hend⟩
    · obtain ⟨b, ho, hend⟩ := mayEnd_after_headBlock head start hsingle
      exact ⟨b, ho, isAt_of_mayEnd_nodeStateAt hend⟩

end Head

/-- At time 84, slot 6 of the sample chain is the last that has begun, and slot 5 has the block at
the head. The snapshot of the empty pool is of that slot. -/
theorem head_of_sample :
    let start : Surroundings Unit Unit := ⟨(), (), .new false⟩
    let service := Service.ofChains (.fixed ExecutionQuery.emptyPool)
      (.fixed BeaconHistory.sample.answers)
    0 < BeaconHistory.sample.config.secondsPerSlot ∧
      ExecutionQuery.emptyPool .latestBlock = .ok ⟨7, 84⟩ ∧
      IsGreatest (BeaconHistory.sample.config.begun 84) 6 ∧
      ComesTo service start (late .default "latest block") (latestBlock .default)
        (· = .ok ⟨5, 0, some 7⟩) ∧
      ∃ st s', (headState .default (.ofNat 1)).run service start = (.ok st, s') ∧ st.slot = 5 ∧
        st.executionBlock = 7 := by
  intro start service
  have hseconds : 0 < BeaconHistory.sample.config.secondsPerSlot := by decide
  have told : BeaconHistory.sample.Told (fun _ => True) (fun _ => True) start :=
    ⟨trivial, trivial, .inl rfl⟩
  have hheader : ((Service.fixed ExecutionQuery.emptyPool).answer .latestBlock ()).1 =
      .ok ⟨7, 84⟩ := rfl
  obtain ⟨top, greatest, o, finds, comesTo, snapshots⟩ := head_is_latest
    (Service.fixed_steady _ fun _ => True) (.fixed ExecutionQuery.emptyPool) .default (.ofNat 1)
    .zero told hheader hseconds
  have six : IsGreatest (BeaconHistory.sample.config.begun 84) 6 := by
    obtain ⟨top, htop, h⟩ := BeaconConfig.slotAt_isGreatest hseconds 84
    cases htop
    exact h
  obtain rfl : top = 6 := greatest.unique six
  obtain rfl : o = .ok ⟨5, 0, some 7⟩ := by
    refine finds.eq_ok ⟨by decide, rfl, fun slot hslot hafter => if_neg ?_⟩
    rintro (rfl | rfl | rfl)
    · exact absurd hafter (by decide)
    · exact absurd hafter (by decide)
    · exact absurd hslot (by decide)
  refine ⟨hseconds, hheader, six, comesTo, ?_⟩
  have ended : ((headState .default (.ofNat 1)).run service start).1.isOk = true := by
    decide +kernel
  generalize hrun : (headState .default (.ofNat 1)).run service start = last at ended
  obtain ⟨e | st, s'⟩ := last
  · cases ended
  · obtain ⟨b, hb, hslot, hblock⟩ := snapshots st s' (.inl (.inl hrun.symm))
    cases hb
    exact ⟨st, s', rfl, hslot, (Option.some.inj hblock).symm⟩

end Request

end StakeSnapshot
