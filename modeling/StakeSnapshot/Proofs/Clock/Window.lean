import Mathlib.Order.Bounds.Basic
import StakeSnapshot.Proofs.Task.FirstPart
import StakeSnapshot.Proofs.Task.Steady
import StakeSnapshot.Request
import StakeSnapshot.Session

/-!
# The latest block in a window

On a beacon chain that keeps to one history, the search for a block from a slot downwards finds the
latest block in its window, or says that the window has none (`BeaconHistory.latestProposedBlock`).
The windows start at the end of the last finalized epoch, which is a slot if all slots of that epoch
are counts (`BeaconConfig.lastSlotOfEpoch_eq`), or at the last slot that has begun
(`BeaconConfig.slotAt_isGreatest`).
-/

namespace StakeSnapshot

open StakeSnapshot.Task

/-! ## Slots and times -/

namespace BeaconConfig

variable {config : BeaconConfig}

/-- The slots that have begun at a time. Slot 0 has, even before genesis. -/
def begun (config : BeaconConfig) (time : UInt64) : Set Nat :=
  {slot | slot = 0 ∨
    config.genesisTime.toNat + slot * config.secondsPerSlot.toNat ≤ time.toNat}

instance (config : BeaconConfig) (time : UInt64) (slot : Nat) :
    Decidable (slot ∈ config.begun time) :=
  inferInstanceAs (Decidable (_ ∨ _))

/-- Every slot before one that has begun has begun too. -/
theorem mem_begun_iff {time : UInt64} {top slot : Nat}
    (htop : IsGreatest (config.begun time) top) : slot ∈ config.begun time ↔ slot ≤ top := by
  refine ⟨fun h => htop.2 h, fun hle => ?_⟩
  rcases htop.1 with rfl | hbegun
  · exact .inl (Nat.le_zero.mp hle)
  · have earlier := Nat.mul_le_mul_right config.secondsPerSlot.toNat hle
    exact .inr (by omega)

/-- The slot of a time is the last that has begun. -/
theorem slotAt_isGreatest (hseconds : 0 < config.secondsPerSlot) (time : UInt64) :
    ∃ top, config.slotAt time = .ok top ∧ IsGreatest (config.begun time) top.toNat := by
  have positive : 0 < config.secondsPerSlot.toNat := UInt64.lt_iff_toNat_lt.mp hseconds
  have nonzero : config.secondsPerSlot ≠ 0 := by
    rintro h
    simp [h] at positive
  refine ⟨_, if_neg nonzero, ?_⟩
  rw [UInt64.toNat_div, Count.toNat_monus]
  refine ⟨?_, fun slot hslot => ?_⟩
  · have whole := Nat.div_mul_le_self (time.toNat - config.genesisTime.toNat)
      config.secondsPerSlot.toNat
    rcases Nat.le_total config.genesisTime.toNat time.toNat with after | before
    · exact .inr (by omega)
    · exact .inl (by rw [Nat.sub_eq_zero_of_le before, Nat.zero_div])
  · rcases hslot with rfl | hslot
    · exact Nat.zero_le _
    · exact (Nat.le_div_iff_mul_le positive).mpr (by omega)

/-- The slots of an epoch and those before it, if they are all counts, end with the last slot of
the epoch. -/
theorem lastSlotOfEpoch_eq {epoch : UInt64} (hslots : 0 < config.slotsPerEpoch)
    (hsize : (epoch.toNat + 1) * config.slotsPerEpoch.toNat ≤ UInt64.size) :
    ∃ last, config.lastSlotOfEpoch epoch = .ok last ∧
      last.toNat + 1 = (epoch.toNat + 1) * config.slotsPerEpoch.toNat := by
  have positive : 0 < config.slotsPerEpoch.toNat := UInt64.lt_iff_toNat_lt.mp hslots
  rw [Nat.succ_mul] at hsize ⊢
  generalize hproduct : epoch.toNat * config.slotsPerEpoch.toNat = product at hsize ⊢
  have first : Count.mul? epoch config.slotsPerEpoch = some (.ofNat product) := by
    rw [Count.mul?_eq_some_iff, hproduct, UInt64.toNat_ofNat_of_lt' (by omega)]
  have rest : Count.sub? config.slotsPerEpoch 1 =
      some (.ofNat (config.slotsPerEpoch.toNat - 1)) := by
    have bound := config.slotsPerEpoch.toNat_lt_size
    rw [Count.sub?_eq_some_iff, UInt64.toNat_ofNat_of_lt' (by omega), UInt64.toNat_one]
    omega
  have sum : Count.add? (.ofNat product) (.ofNat (config.slotsPerEpoch.toNat - 1)) =
      some (.ofNat (product + (config.slotsPerEpoch.toNat - 1))) := by
    rw [Count.add?_eq_some_iff, UInt64.toNat_ofNat_of_lt' (by omega),
      UInt64.toNat_ofNat_of_lt' (by omega), UInt64.toNat_ofNat_of_lt' (by omega)]
  refine ⟨.ofNat (product + (config.slotsPerEpoch.toNat - 1)), ?_, ?_⟩
  · simp only [lastSlotOfEpoch, first, rest, sum]
  · rw [UInt64.toNat_ofNat_of_lt' (by omega)]
    omega

/-- The epoch that a slot belongs to. -/
def epochOf (config : BeaconConfig) (slot : UInt64) : Nat :=
  slot.toNat / config.slotsPerEpoch.toNat

theorem epochOf_le_iff {epoch slot last : UInt64} (hslots : 0 < config.slotsPerEpoch)
    (hlast : last.toNat + 1 = (epoch.toNat + 1) * config.slotsPerEpoch.toNat) :
    config.epochOf slot ≤ epoch.toNat ↔ slot ≤ last := by
  have positive : 0 < config.slotsPerEpoch.toNat := UInt64.lt_iff_toNat_lt.mp hslots
  rw [epochOf, ← Nat.lt_add_one_iff, Nat.div_lt_iff_lt_mul positive, UInt64.le_iff_toNat_le]
  omega

end BeaconConfig

/-- The slots of a window: a number of slots from `start` downwards. -/
def Clock.InWindow (start : UInt64) (count : Nat) (slot : UInt64) : Prop :=
  slot ≤ start ∧ start.toNat - slot.toNat < count

namespace Clock

variable {start slot : UInt64}

theorem toNat_sub_one (h : 0 < start.toNat) : (start - 1).toNat = start.toNat - 1 := by
  have one : 1 ≤ start := UInt64.le_iff_toNat_le.mpr h
  rw [UInt64.toNat_sub_of_le _ _ one, UInt64.toNat_one]

theorem not_inWindow_zero : ¬InWindow start 0 slot := fun h => Nat.not_lt_zero _ h.2

/-- A window is its first slot and the window below, if there is anything below slot 0. -/
theorem inWindow_succ {count : Nat} (hcount : count ≤ start.toNat) :
    InWindow start (count + 1) slot ↔ slot = start ∨ InWindow (start - 1) count slot := by
  simp only [InWindow, UInt64.le_iff_toNat_le, ← UInt64.toNat_inj]
  rcases Nat.eq_zero_or_pos start.toNat with zero | positive
  · omega
  · rw [toNat_sub_one positive]
    omega

/-- A window that would reach below slot 0 ends there. -/
theorem inWindow_windowSize {lookback : UInt64} :
    InWindow start (windowSize start lookback) slot ↔ InWindow start lookback.toNat slot := by
  simp only [InWindow, windowSize, UInt64.le_iff_toNat_le]
  omega

end Clock

/-! ## Histories -/

/-- What a beacon chain says that never fails: its configuration, the last finalized epoch, and the
blocks. A block says itself in which slot it was proposed. -/
structure BeaconHistory where
  config : BeaconConfig
  finalizedEpoch : UInt64
  block : UInt64 → Option BeaconBlock
  slot_block {slot : UInt64} {b : BeaconBlock} : block slot = some b → b.slot = slot

namespace BeaconHistory

variable (history : BeaconHistory)

def answers : {α : Type} → BeaconQuery α → Outcome α
  | _, .config => .ok history.config
  | _, .head => .ok ⟨history.finalizedEpoch⟩
  | _, .block slot => .ok (history.block slot)

/-- The latest block in the slots with the property `P`, if they have one. -/
def Latest (P : UInt64 → Prop) : Option BeaconBlock → Prop
  | some b => P b.slot ∧ history.block b.slot = some b ∧
      ∀ slot, P slot → b.slot < slot → history.block slot = none
  | none => ∀ slot, P slot → history.block slot = none

section Latest

variable {history} {P P' : UInt64 → Prop} {start : UInt64}

theorem latest_of_block {b : BeaconBlock} (hblock : history.block start = some b) (hstart : P start)
    (hlast : ∀ slot, P slot → slot ≤ start) : history.Latest P (some b) := by
  obtain rfl := history.slot_block hblock
  exact ⟨hstart, hblock, fun slot hslot hafter =>
    absurd (hlast slot hslot) (UInt64.not_le.mpr hafter)⟩

/-- A slot without a block makes no difference to the latest block. -/
theorem Latest.of_missed {found : Option BeaconBlock} (h : history.Latest P' found)
    (hmissed : history.block start = none) (hP : ∀ slot, P slot ↔ slot = start ∨ P' slot) :
    history.Latest P found := by
  cases found with
  | some b =>
      refine ⟨(hP _).mpr (.inr h.1), h.2.1, fun slot hslot hafter => ?_⟩
      rcases (hP slot).mp hslot with rfl | hslot
      · exact hmissed
      · exact h.2.2 slot hslot hafter
  | none =>
      intro slot hslot
      rcases (hP slot).mp hslot with rfl | hslot
      · exact hmissed
      · exact h slot hslot

end Latest

/-- A search comes to the latest block in the slots with the property `P`, or to the error of a
missing source if they have none. -/
inductive Finds (P : UInt64 → Prop) : Outcome BeaconBlock → Prop where
  | found {b : BeaconBlock} (latest : history.Latest P (some b)) : Finds P (.ok b)
  | missing {e : Error} (none : history.Latest P none) (kind : e.kind = .sourceUnavailable) :
      Finds P (.error (.error e))

variable {history} {P P' : UInt64 → Prop}

theorem Finds.congr (hP : ∀ slot, P slot ↔ P' slot) {o : Outcome BeaconBlock}
    (h : history.Finds P o) : history.Finds P' o := by
  obtain rfl : P = P' := funext fun slot => propext (hP slot)
  exact h

/-- A block is found exactly if there is one. -/
theorem Finds.ok_iff {o : Outcome BeaconBlock} (h : history.Finds P o) :
    (∃ b, o = .ok b) ↔ ∃ slot b, P slot ∧ history.block slot = some b := by
  cases h with
  | found latest => exact ⟨fun _ => ⟨_, _, latest.1, latest.2.1⟩, fun _ => ⟨_, rfl⟩⟩
  | missing none =>
      constructor
      · rintro ⟨_, h⟩
        cases h
      · rintro ⟨slot, b, hslot, hb⟩
        cases (none slot hslot).symm.trans hb

/-- There is only one latest block. -/
theorem Finds.eq_ok {o : Outcome BeaconBlock} {b : BeaconBlock} (h : history.Finds P o)
    (hb : history.Latest P (some b)) : o = .ok b := by
  obtain ⟨hP, hblock, hlast⟩ := hb
  cases h with
  | missing none => cases (none b.slot hP).symm.trans hblock
  | @found b' latest =>
      obtain ⟨hP', hblock', hlast'⟩ := latest
      rcases Std.lt_trichotomy b.slot b'.slot with after | same | before
      · cases (hlast _ hP' after).symm.trans hblock'
      · rw [← same, hblock] at hblock'
        cases hblock'
        rfl
      · cases (hlast' _ hP before).symm.trans hblock

/-- Surroundings whose beacon chain keeps to the history, and whose session knows no other
configuration. -/
structure Told (history : BeaconHistory) {ε β : Type} (I : ε → Prop) (J : β → Prop)
    (s : Surroundings ε β) : Prop where
  execution : I s.execution
  beacon : J s.beacon
  known : s.session.config = none ∨ s.session.config = some history.config

/-! ## Searching -/

section Search

variable {ε β : Type} (client : Service ExecutionQuery ε) {beacon : Service BeaconQuery β}
  {I : ε → Prop} {J : β → Prop} (hbeacon : beacon.Steady history.answers (fun _ => True) J)

include hbeacon

theorem gives_ask {α : Type} (q : BeaconQuery α) :
    Gives (.ofChains client beacon) (history.Told I J) (.ask (.beacon q)) (history.answers q)
      (history.Told I J) := by
  intro s hs
  have accepted := hbeacon.accept q trivial hs.beacon
  exact ⟨hbeacon.outcome q trivial accepted,
    ⟨hs.execution, hbeacon.answer q trivial accepted, hs.known⟩⟩

/-- The configuration is that of the chain, whether the session knows it or not. -/
theorem gives_beaconConfig :
    Gives (.ofChains client beacon) (history.Told I J) Request.beaconConfig (.ok history.config)
      (history.Told I J) := by
  have known (known : Option BeaconConfig) : Gives (.ofChains client beacon)
      (fun s => history.Told I J s ∧ s.session.config = known)
      (.ask (.session .knownConfig)) (.ok known) (history.Told I J) :=
    fun s hs => ⟨congrArg Except.ok hs.2, hs.1⟩
  have remember : Gives (.ofChains client beacon) (history.Told I J)
      (.ask (.session (.rememberConfig history.config))) (.ok ()) (history.Told I J) :=
    fun s hs => ⟨rfl, hs.execution, hs.beacon, .inr rfl⟩
  have whole : ∀ k, k = none ∨ k = some history.config →
      Gives (.ofChains client beacon) (fun s => history.Told I J s ∧ s.session.config = k)
        Request.beaconConfig (.ok history.config) (history.Told I J) := by
    rintro _ (rfl | rfl)
    · refine (known none).bind ?_
      exact (gives_ask client hbeacon .config).bind (remember.bind (gives_pure _))
    · exact (known (some history.config)).bind (gives_pure _)
  exact fun s hs => whole _ hs.known s ⟨hs, rfl⟩

/-- The search finds the latest block of its window, if that does not reach below slot 0. -/
theorem gives_findBlock (count : Nat) : ∀ start : UInt64, count ≤ start.toNat + 1 →
    ∃ found, history.Latest (Clock.InWindow start count) found ∧
      Gives (.ofChains client beacon) (history.Told I J) (Clock.findBlock start count) (.ok found)
        (history.Told I J) := by
  induction count with
  | zero =>
      intro start _
      exact ⟨none, fun slot hslot => (Clock.not_inWindow_zero hslot).elim, gives_pure none⟩
  | succ count ih =>
      intro start hcount
      have window (slot : UInt64) : Clock.InWindow start (count + 1) slot ↔
          slot = start ∨ Clock.InWindow (start - 1) count slot :=
        Clock.inWindow_succ (Nat.le_of_succ_le_succ hcount)
      have asked := gives_ask client (I := I) hbeacon (.block start)
      simp only [answers] at asked
      cases hblock : history.block start with
      | some b =>
          rw [hblock] at asked
          refine ⟨some b, ?_, asked.bind (gives_pure _)⟩
          exact latest_of_block hblock ((window start).mpr (.inl rfl)) fun slot hslot => hslot.1
      | none =>
          rw [hblock] at asked
          have below : count ≤ (start - 1).toNat + 1 := by
            rcases Nat.eq_zero_or_pos start.toNat with zero | positive
            · omega
            · rw [Clock.toNat_sub_one positive]
              omega
          obtain ⟨found, latest, rest⟩ := ih (start - 1) below
          exact ⟨found, latest.of_missed hblock window, asked.bind rest⟩

/-- The latest block of a window is found, and if there is none, a source is missing. -/
theorem gives_latestProposedBlock (start lookback : UInt64) :
    ∃ o, history.Finds (Clock.InWindow start lookback.toNat) o ∧
      Gives (.ofChains client beacon) (history.Told I J) (Clock.latestProposedBlock start lookback)
        o (history.Told I J) := by
  obtain ⟨found, latest, search⟩ := gives_findBlock client (I := I) hbeacon
    (Clock.windowSize start lookback) start (Nat.min_le_right ..)
  have window (slot : UInt64) : Clock.InWindow start (Clock.windowSize start lookback) slot ↔
      Clock.InWindow start lookback.toNat slot := Clock.inWindow_windowSize
  cases found with
  | some b => exact ⟨_, (Finds.found latest).congr window, search.bind (gives_pure _)⟩
  | none => exact ⟨_, (Finds.missing latest rfl).congr window, search.bind (gives_done _)⟩

end Search

end BeaconHistory

end StakeSnapshot
