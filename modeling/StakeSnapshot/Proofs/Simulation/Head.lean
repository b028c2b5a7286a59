import StakeSnapshot.Proofs.SingleNode
import StakeSnapshot.Proofs.Simulation.Reads

/-!
# Requests at the head of a deployment

A deployment in memory keeps to its answers, so what a request comes to can be read off its tree. A
request at the head finds the head block, loads the registry of the deployment at the execution
block which the head block carries, and goes on from there (`Protocol.HostedIn.comesTo_atHead`).
-/

namespace StakeSnapshot

open StakeSnapshot.Task Simulation

namespace Answers.Serve

variable {a : Answers} {storage : Address} {l : Ledger} (h : a.Serve storage l)

include h

/-- What comes after the registry has been loaded at the head starts from the registry of the
deployment. -/
theorem mayEnd_atHead {settings : Settings} {block : BeaconBlock} {number : UInt64}
    (hhead : MayEnd (.fixed a.query) (Request.headBlock settings) (.ok block))
    (hnumber : block.executionBlock = some number) :
    ∃ config, ∀ {α : Type} (f : BeaconBlock → BeaconConfig × UInt64 → Registry → Task Query α)
      {o : Outcome α},
      MayEnd (.fixed a.query) (do
          let block ← Request.headBlock settings
          let found ← Request.executionBlock block
          let registry ← Registry.load storage found.2
          f block found registry) o →
        MayEnd (.fixed a.query) (f block (config, number) (deployed storage)) o := by
  obtain ⟨config, hconfig, -⟩ := (mayEnd_bind_ok _ _ _).mp hhead
  have hblock : MayEnd (.fixed a.query) (Request.executionBlock block) (.ok (config, number)) := by
    refine (mayEnd_bind_ok _ _ _).mpr ⟨config, hconfig, ?_⟩
    rw [hnumber]
    rfl
  refine ⟨config, fun f o ho => ?_⟩
  have hend := (strict_headBlock settings).mayEnd_bind hhead ho
  have hend := (strict_executionBlock block).mayEnd_bind hblock hend
  exact (strict_load storage number).mayEnd_bind (h.mayEnd_load number) hend

end Answers.Serve

namespace Simulation.Protocol

/-- A deployment is on its chain, beside a beacon chain that keeps to its answers, and the session
gives out permits. -/
structure HostedIn {β : Type} (p : Protocol) (beacon : Service BeaconQuery β)
    (answers : {α : Type} → BeaconQuery α → Outcome α) (J : β → Prop)
    (s : Surroundings ExecutionChain β) : Prop where
  steady : beacon.Steady answers (fun _ => True) J
  execution : p.chain.Recounts s.execution
  beacon : J s.beacon
  opened : s.session.closed = false

variable {β : Type} (p : Protocol) (beaconAnswers : {α : Type} → BeaconQuery α → Outcome α)
  (s : Surroundings ExecutionChain β)

/-- What both chains answer, with what the session knows. -/
def answersIn : Answers := ⟨p.chain.answers, beaconAnswers, s.session.config⟩

namespace HostedIn

variable {p beaconAnswers s} {beacon : Service BeaconQuery β} {J : β → Prop}
  (h : p.HostedIn beacon beaconAnswers J s)

include h

theorem ends {α : Type} {t : Task Query α}
    (ht : t.Asks ((p.answersIn beaconAnswers s).replies false)
      (p.answersIn beaconAnswers s).Remembers)
    {last : Outcome α × Surroundings ExecutionChain β}
    (hlast : t.EndsIn (.ofChains ExecutionChain.service beacon) s last) :
    t.MayEnd ((p.answersIn beaconAnswers s).replies false) last.1 := by
  have learning : (Service.ofChains ExecutionChain.service beacon).Matches
      (.ofChains ExecutionChain.service beacon) ((p.answersIn beaconAnswers s).replies false)
      (p.answersIn beaconAnswers s).Remembers _ :=
    Answers.matches_learning p.chain.service_steady h.steady (fun _ h => h) false
  exact (learning.mayEnd ht ⟨h.execution, h.beacon, .inl rfl, h.opened⟩ hlast).1

/-- A task ends as it may once the session has learned the configuration. -/
theorem mayEnd {α : Type} {t : Task Query α} (ht : (p.answersIn beaconAnswers s).Learns false t)
    {last : Outcome α × Surroundings ExecutionChain β}
    (hlast : t.EndsIn (.ofChains ExecutionChain.service beacon) s last) :
    t.MayEnd (.fixed (p.answersIn beaconAnswers s).learned.query) last.1 :=
  ht.mayEnd _ rfl (h.ends ht.asks hlast)

/-- A request at the head of a deployment comes to what it comes to with the registry of the
deployment, at the execution block of the head block. -/
theorem comesTo_atHead {settings : Settings} {storage : Address} {l : Ledger}
    (hshows : p.Shows storage l) {block : BeaconBlock} {number : UInt64}
    (hhead : ((Request.headBlock settings).run (.ofChains ExecutionChain.service beacon) s).1 =
      .ok block)
    (hnumber : block.executionBlock = some number) :
    ∃ config, ∀ {α : Type} (name : String)
      (f : BeaconBlock → BeaconConfig × UInt64 → Registry → Task Query α) {P : Outcome α → Prop},
      (∀ block found registry, (f block found registry).Asks
        ((p.answersIn beaconAnswers s).replies false) Query.LeavesConfig) →
      (∀ o, MayEnd (.fixed (p.answersIn beaconAnswers s).learned.query)
        (f block (config, number) (deployed storage)) o → P o) →
      Request.ComesTo (.ofChains ExecutionChain.service beacon) s (Request.late settings name)
        (Request.timed settings name do
          let block ← Request.headBlock settings
          let found ← Request.executionBlock block
          let registry ← Registry.load storage found.2
          f block found registry) P := by
  have head := h.mayEnd (Answers.learns_headBlock settings) (.inl rfl)
  rw [hhead] at head
  obtain ⟨config, atHead⟩ := (hshows.serve beaconAnswers _).mayEnd_atHead head hnumber
  refine ⟨config, fun name f P hasks hends => ?_⟩
  have learns : (p.answersIn beaconAnswers s).Learns false (do
      let block ← Request.headBlock settings
      let found ← Request.executionBlock block
      let registry ← Registry.load storage found.2
      f block found registry) :=
    (Answers.learns_headBlock settings).bind fun block =>
      (Answers.learns_executionBlock block).bind fun found =>
        (Answers.learns_load storage found.2).bind fun registry =>
          Answers.learns_of_asks (hasks block found registry)
  refine ⟨hends _ (atHead f (h.mayEnd learns (.inl rfl))), fun last hlast => ?_⟩
  have hend := h.ends ((asks_within _ _ _).mpr learns.asks) hlast
  exact hend.imp_left fun hend => hends _ (atHead f (learns.mayEnd _ rfl hend))

end HostedIn

end Simulation.Protocol

/-! ## A sample of surroundings -/

namespace Simulation

/-- A beacon chain with one block. -/
def sampleBeacon : BeaconChain := (BeaconChain.new ⟨0, 12, 32⟩).addBlock 7 (some 7)

namespace Protocol

/-- A deployment beside the sample of a beacon chain, with a new session. -/
def sampleWorld (p : Protocol) : Surroundings ExecutionChain BeaconChain :=
  ⟨p.chain, sampleBeacon, .new false⟩

theorem sampleWorld_hosts (p : Protocol) :
    p.HostedIn BeaconChain.service sampleBeacon.answers sampleBeacon.Recounts p.sampleWorld where
  steady := sampleBeacon.service_steady
  execution := p.chain.recounts_self
  beacon := ⟨0, [], rfl⟩
  opened := rfl

/-- If the latest execution block is of slot 7, the head block is the one of the sample. -/
theorem headBlock_sampleWorld {p : Protocol} (hlatest : p.chain.latest = some ⟨7, 84⟩) :
    ((Request.headBlock .default).run (.ofChains ExecutionChain.service BeaconChain.service)
      p.sampleWorld).1 = .ok ⟨7, 7, some 7⟩ := by
  let service := Service.ofChains ExecutionChain.service BeaconChain.service
  let s : Surroundings ExecutionChain BeaconChain :=
    ⟨p.chain, { sampleBeacon with configRequests := 1 },
      { Session.new false with config := some ⟨0, 12, 32⟩ }⟩
  have hconfig : Request.beaconConfig.run service p.sampleWorld = (.ok ⟨0, 12, 32⟩, s) := rfl
  have hslot : (Clock.headSlot ⟨0, 12, 32⟩).run service s = (.ok 7, s) := by
    obtain ⟨⟨latest, replies, balances, failing, batchDelay, counts⟩, _⟩ := p
    cases hlatest
    rfl
  have hblock : (Task.ask (Query.beacon (.block 7))).run service s =
      (.ok (some ⟨7, 7, some 7⟩), { s with beacon := { s.beacon with queried := [7] } }) := by
    have hadded : s.beacon.blocks[(7 : UInt64)]? = some ⟨7, 7, some 7⟩ :=
      Std.HashMap.getElem?_insert_self
    rw [← hadded]
    rfl
  have hwindow : Clock.windowSize 7 Settings.default.maxSlotLookback = 7 + 1 := rfl
  rw [Request.headBlock, run_bind, hconfig]
  dsimp only
  rw [run_bind, hslot]
  dsimp only
  rw [Clock.latestProposedBlock, run_bind, hwindow, Clock.findBlock, run_bind, hblock]
  rfl

end Protocol

end Simulation

end StakeSnapshot
