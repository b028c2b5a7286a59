import StakeSnapshot.Proofs.Clock.Walk
import StakeSnapshot.Proofs.Clock.Window
import StakeSnapshot.Proofs.SingleNode
import StakeSnapshot.Simulation.CannedServer
import StakeSnapshot.Simulation.Gateway

/-!
# Overflows of the clock

A configuration in which time stands still is refused when it is read, so no time is divided by
zero. The arithmetic of epochs has no such guard: the slots up to the end of an epoch that is far
enough away are too many for a count (`BeaconConfig.LastSlot`). Over the web, the latest block
therefore ends in a block or in an error, whatever the servers reply, and the latest finalized block
ends in a fault exactly if the slots of the last finalized epoch overflow
(`Request.faults_on_overflow`).
-/

namespace StakeSnapshot

open StakeSnapshot.Task

/-! ## Slots and epochs -/

namespace BeaconConfig

/-- Time goes on: slots last, and epochs have slots. -/
structure Ticks (config : BeaconConfig) : Prop where
  seconds : 0 < config.secondsPerSlot
  slots : 0 < config.slotsPerEpoch

/-- The last slot of an epoch, or the step of the arithmetic that fails: the product of the epoch
with the slots of an epoch, or the sum with the rest of them. -/
inductive LastSlot (config : BeaconConfig) (epoch : UInt64) : Except Fault UInt64 → Prop where
  | slot {last : UInt64}
      (h : last.toNat + 1 = (epoch.toNat + 1) * config.slotsPerEpoch.toNat) :
      LastSlot config epoch (.ok last)
  | product (h : UInt64.size ≤ epoch.toNat * config.slotsPerEpoch.toNat) :
      LastSlot config epoch (.error .multiplyOverflow)
  | sum (hproduct : epoch.toNat * config.slotsPerEpoch.toNat < UInt64.size)
      (h : UInt64.size < (epoch.toNat + 1) * config.slotsPerEpoch.toNat) :
      LastSlot config epoch (.error .addOverflow)

variable {config : BeaconConfig}

theorem slotAt_eq (hconfig : config.Ticks) (time : UInt64) :
    ∃ slot, config.slotAt time = .ok slot ∧
      slot.toNat = (time.toNat - config.genesisTime.toNat) / config.secondsPerSlot.toNat := by
  have nonzero : config.secondsPerSlot ≠ 0 := by
    intro h
    have positive := hconfig.seconds
    rw [h] at positive
    exact absurd positive (by decide)
  refine ⟨_, if_neg nonzero, ?_⟩
  rw [UInt64.toNat_div, Count.toNat_monus]

theorem lastSlotOfEpoch_ends (hconfig : config.Ticks) (epoch : UInt64) :
    config.LastSlot epoch (config.lastSlotOfEpoch epoch) := by
  have positive : 0 < config.slotsPerEpoch.toNat := UInt64.lt_iff_toNat_lt.mp hconfig.slots
  by_cases hsize : (epoch.toNat + 1) * config.slotsPerEpoch.toNat ≤ UInt64.size
  · obtain ⟨last, hlast, h⟩ := lastSlotOfEpoch_eq hconfig.slots hsize
    rw [hlast]
    exact .slot h
  by_cases hproduct : epoch.toNat * config.slotsPerEpoch.toNat < UInt64.size
  · obtain ⟨first, hfirst⟩ : ∃ first, Count.mul? epoch config.slotsPerEpoch = some first :=
      ⟨_, if_pos hproduct⟩
    have one : 1 ≤ config.slotsPerEpoch := UInt64.le_iff_toNat_le.mpr positive
    have rest : Count.sub? config.slotsPerEpoch 1 = some (config.slotsPerEpoch - 1) := if_pos one
    have sum : Count.add? first (config.slotsPerEpoch - 1) = none := by
      have hfirst := Count.mul?_eq_some_iff.mp hfirst
      rw [Count.add?_eq_none_iff, UInt64.toNat_sub_of_le _ _ one, UInt64.toNat_one, ← hfirst]
      rw [Nat.succ_mul] at hsize
      omega
    have hend : config.lastSlotOfEpoch epoch = .error .addOverflow := by
      simp only [lastSlotOfEpoch, hfirst, rest, sum]
    rw [hend]
    exact .sum hproduct (Nat.lt_of_not_le hsize)
  · have first : Count.mul? epoch config.slotsPerEpoch = none := if_neg hproduct
    have hend : config.lastSlotOfEpoch epoch = .error .multiplyOverflow := by
      simp only [lastSlotOfEpoch, first]
    rw [hend]
    exact .product (Nat.le_of_not_lt hproduct)

end BeaconConfig

/-! ## Tasks without faults -/

namespace Task

variable {Q R : Type → Type} {α β : Type} {replies : Replies Q}

/-- The task may end in a value or in an error, but not in a fault. -/
def Faultless (replies : Replies Q) (t : Task Q α) : Prop :=
  ∀ fault, ¬t.MayEnd replies (.error (.fault fault))

theorem mayEnd_bind_error {t : Task Q α} {f : α → Task Q β} {e : Failure} :
    (t >>= f).MayEnd replies (.error e) ↔
      t.MayEnd replies (.error e) ∨
        ∃ a, t.MayEnd replies (.ok a) ∧ (f a).MayEnd replies (.error e) := by
  constructor
  · rintro ⟨r, hr, he⟩
    cases r with
    | ok a => exact .inr ⟨a, hr, he⟩
    | error e' =>
        cases he
        exact .inl hr
  · rintro (he | ⟨a, ha, he⟩)
    · exact ⟨.error e, he, rfl⟩
    · exact ⟨.ok a, ha, he⟩

theorem Faultless.bind {t : Task Q α} {f : α → Task Q β} (ht : t.Faultless replies)
    (hf : ∀ a, t.MayEnd replies (.ok a) → (f a).Faultless replies) :
    (t >>= f).Faultless replies := fun fault h =>
  (mayEnd_bind_error.mp h).elim (ht fault) fun ⟨a, ha, h⟩ => hf a ha fault h

theorem Faultless.context {t : Task Q α} (ht : t.Faultless replies) (c : String) :
    (t.context c).Faultless replies := by
  rintro fault ⟨r, hr, h⟩
  cases r with
  | ok a => cases h
  | error e =>
      cases e with
      | error e => cases h
      | fault f =>
          cases h
          exact ht _ hr

theorem Faultless.both {t : Task Q α} {u : Task Q β} (ht : t.Faultless replies)
    (hu : u.Faultless replies) : (Task.both t u).Faultless replies :=
  fun fault h => h.elim (ht fault) (hu fault)

theorem Faultless.within {t : Task Q α} (ht : t.Faultless replies) (seconds : Nat) (late : Error) :
    (Task.within seconds late t).Faultless replies :=
  fun fault h => h.elim (ht fault) fun h => by cases h

theorem faultless_pure (a : α) : (pure a : Task Q α).Faultless replies := fun _ h => by cases h

theorem faultless_failWith (e : Error) : (failWith e : Task Q α).Faultless replies :=
  fun _ h => by cases h

theorem faultless_ofExcept (r : Except Error α) : (ofExcept r : Task Q α).Faultless replies := by
  intro fault h
  cases r <;> cases h

theorem mayEnd_ofFaulty_fault {r : Except Fault α} {fault : Fault} :
    (ofFaulty r : Task Q α).MayEnd replies (.error (.fault fault)) ↔ r = .error fault := by
  cases r with
  | ok a =>
      constructor
      · rintro ⟨⟩
      · rintro ⟨⟩
  | error f =>
      constructor
      · rintro ⟨⟩
        rfl
      · rintro ⟨⟩
        rfl

theorem faultless_ofFaulty {r : Except Fault α} {a : α} (h : r = .ok a) :
    (ofFaulty r : Task Q α).Faultless replies := by
  subst h
  exact faultless_pure a

end Task

/-! ## Servers that keep to their replies -/

namespace Http

/-- A service that puts requests to servers and keeps a session. Its states show the reply that
each request has, which never changes, and what the session knows. -/
structure Fronts {σ : Type} (service : Service Exchange σ)
    (server : σ → Request → Option Reply) (session : σ → Session) : Prop where
  accept_server {α : Type} (q : Exchange α) (s : σ) : server (service.accept q s).1 = server s
  accept_session {α : Type} (q : Exchange α) (s : σ) : session (service.accept q s).1 = session s
  answer_server {α : Type} (q : Exchange α) (s : σ) : server (service.answer q s).2 = server s
  reply (r : Request) (s : σ) : (service.answer (.web (.send r)) s).1 = .ok (server s r)
  reply_session (r : Request) (s : σ) :
    session (service.answer (.web (.send r)) s).2 = session s
  told {α : Type} (q : SessionQuery α) (s : σ) :
    (service.answer (.session q) s).1 = .ok ((session s).answer q).1
  told_session {α : Type} (q : SessionQuery α) (s : σ) :
    session (service.answer (.session q) s).2 = ((session s).answer q).2

/-- The question goes to a server. -/
def Exchange.IsWeb : {α : Type} → Exchange α → Prop
  | _, .web _ => True
  | _, .session _ => False

/-- The answers of servers with one reply to each request, and of a new session. -/
def Exchange.answers (server : Request → Option Reply) : {α : Type} → Exchange α → Outcome α
  | _, .web (.send r) => .ok (server r)
  | _, .session q => .ok ((Session.new false).answer q).1

/-- Each request has its one reply, or none if its server is not reached. -/
def Serves (replies : Replies Exchange) (server : Request → Option Reply) : Prop :=
  ∀ r o, replies.answer (.web (.send r)) o → o = .ok (server r)

/-- The task asks servers only, without a permit, passes every failure on, and ends in no
fault. -/
structure Harmless {α : Type} (replies : Replies Exchange) (t : Task Exchange α) : Prop where
  asks : t.Asks replies Exchange.IsWeb
  permitless : t.Permitless
  strict : t.Strict
  faultless : t.Faultless replies

section Harmless

variable {α β : Type} {replies : Replies Exchange}

theorem Harmless.bind {t : Task Exchange α} {f : α → Task Exchange β} (ht : Harmless replies t)
    (hf : ∀ a, Harmless replies (f a)) : Harmless replies (t >>= f) where
  asks := ht.asks.bind fun a => (hf a).asks
  permitless := ht.permitless.bind fun a => (hf a).permitless
  strict := ht.strict.bind fun a => (hf a).strict
  faultless := ht.faultless.bind fun a _ => (hf a).faultless

theorem Harmless.context {t : Task Exchange α} (ht : Harmless replies t) (c : String) :
    Harmless replies (t.context c) where
  asks := (asks_context c t).mpr ht.asks
  permitless := ⟨ht.permitless, fun _ => trivial⟩
  strict := ht.strict.context c
  faultless := ht.faultless.context c

theorem Harmless.both {t : Task Exchange α} {u : Task Exchange β} (ht : Harmless replies t)
    (hu : Harmless replies u) : Harmless replies (.both t u) where
  asks := ⟨ht.asks, hu.asks⟩
  permitless := ⟨ht.permitless, hu.permitless⟩
  strict := ⟨ht.strict, hu.strict⟩
  faultless := ht.faultless.both hu.faultless

theorem harmless_pure (a : α) : Harmless replies (pure a) :=
  ⟨trivial, trivial, trivial, faultless_pure a⟩

theorem harmless_failWith (e : Error) : Harmless replies (failWith e : Task Exchange α) :=
  ⟨trivial, trivial, trivial, faultless_failWith e⟩

theorem harmless_ofExcept (r : Except Error α) : Harmless replies (ofExcept r) :=
  ⟨trivial, trivial, trivial, faultless_ofExcept r⟩

theorem harmless_ofFaulty {r : Except Fault α} {a : α} (h : r = .ok a) :
    Harmless replies (ofFaulty r) :=
  ⟨trivial, trivial, trivial, faultless_ofFaulty h⟩

variable {server : Request → Option Reply} (hserver : Serves replies server)

include hserver

theorem harmless_send (r : Request) : Harmless replies (send r) where
  asks := trivial
  permitless := trivial
  strict := trivial
  faultless _ h := by cases hserver r _ h

/-- What the replies to other questions are makes no difference to it. -/
theorem Harmless.mayEnd_fixed {t : Task Exchange α} (ht : Harmless replies t) {o : Outcome α}
    (ho : t.MayEnd replies o) : t.MayEnd (.fixed (Exchange.answers server)) o := by
  have served : t.MayEnd ⟨fun q o => o = Exchange.answers server q, fun _ => True, True⟩ o := by
    refine MayEnd.of_asks ?_ (fun _ _ => trivial) (fun _ => trivial) ht.asks ho
    intro _ q hq o ho
    cases q with
    | web question =>
        cases question
        exact hserver _ _ ho
    | session question => exact hq.elim
  refine ht.permitless.mayEnd ?_ served
  exact fun _ _ ho => ho

/-- A value that it may have is the only outcome. -/
theorem Harmless.eq_ok {t : Task Exchange α} (ht : Harmless replies t) {a : α}
    (ha : t.MayEnd replies (.ok a)) {o : Outcome α} (ho : t.MayEnd replies o) : o = .ok a :=
  ht.strict.eq_ok (ht.mayEnd_fixed hserver ha) (ht.mayEnd_fixed hserver ho)

theorem harmless_get? (ρ : Type) [RecordForm ρ] (base : Url) (path : String) :
    Harmless replies (BeaconApi.get? ρ base path) := by
  unfold BeaconApi.get?
  split
  · exact harmless_failWith _
  split
  · exact (harmless_send hserver _).bind fun _ => harmless_ofExcept _
  · exact harmless_failWith _

theorem harmless_get (ρ : Type) [RecordForm ρ] (base : Url) (path : String) :
    Harmless replies (BeaconApi.get ρ base path) := by
  refine (harmless_get? hserver ρ base path).bind fun found => ?_
  cases found with
  | some content => exact harmless_pure content
  | none => exact harmless_failWith _

theorem harmless_config (base : Url) : Harmless replies (BeaconApi.config base) := by
  have spec := harmless_get hserver SpecReply base BeaconApi.specPath
  have genesis := harmless_get hserver GenesisReply base BeaconApi.genesisPath
  exact (spec.both genesis).bind fun _ => harmless_ofExcept _

theorem harmless_beacon (base : Url) : ∀ {α : Type} (q : BeaconQuery α),
    Harmless replies (BeaconApi.ask base q)
  | _, .config => harmless_config hserver base
  | _, .head => (harmless_get hserver _ _ _).bind fun _ => harmless_pure _
  | _, .block _ => (harmless_get? hserver _ _ _).bind fun _ => harmless_pure _

theorem harmless_perform {url : Url} (call : RemoteCall) (read : Json.Reader α) :
    Harmless replies (call.perform url read) := by
  unfold RemoteCall.perform
  split
  · exact (harmless_send hserver _).bind fun _ => harmless_ofExcept _
  · exact harmless_failWith _

theorem harmless_latestBlock (url : Url) (helpers : HelperContracts) :
    Harmless replies (ExecutionApi.ask url helpers .latestBlock) := by
  refine ((harmless_perform hserver _ _).context _).bind fun found => ?_
  cases found with
  | some header => exact harmless_pure header
  | none => exact harmless_failWith _

variable (e : Endpoints)

theorem harmless_findBlock (count : Nat) :
    ∀ start : UInt64, Harmless replies (e.overWeb (Clock.findBlock start count)) := by
  induction count with
  | zero => exact fun _ => harmless_pure _
  | succ count ih =>
      intro start
      rw [Clock.findBlock, Endpoints.overWeb, substitute_bind]
      refine Harmless.bind (harmless_beacon hserver e.beacon (.block start)) fun found => ?_
      cases found with
      | some block => exact harmless_pure _
      | none => exact ih (start - 1)

theorem harmless_latestProposedBlock (start lookback : UInt64) :
    Harmless replies (e.overWeb (Clock.latestProposedBlock start lookback)) := by
  rw [Clock.latestProposedBlock, Endpoints.overWeb, substitute_bind]
  refine (harmless_findBlock hserver e _ start).bind fun found => ?_
  cases found with
  | some block => exact harmless_pure block
  | none => exact harmless_failWith _

/-- The slot of the latest execution block never overflows. -/
theorem harmless_headSlot {config : BeaconConfig} (hconfig : config.Ticks) :
    Harmless replies (e.overWeb (Clock.headSlot config)) := by
  rw [Clock.headSlot, Endpoints.overWeb, substitute_bind]
  refine Harmless.bind ((harmless_latestBlock hserver _ e.helpers).context _) fun header => ?_
  obtain ⟨slot, hslot, -⟩ := BeaconConfig.slotAt_eq hconfig header.timestamp
  exact harmless_ofFaulty hslot

/-- The search for the latest finalized block ends in no other fault than that of the last slot of
the finalized epoch. -/
theorem mayEnd_latestFinalizedBlock_fault {config : BeaconConfig} {lookback : UInt64}
    {fault : Fault} (h : (e.overWeb (Clock.latestFinalizedBlock config lookback)).MayEnd replies
      (.error (.fault fault))) :
    ∃ epoch, (e.overWeb (.ask (.beacon .head))).MayEnd replies (.ok ⟨epoch⟩) ∧
      config.lastSlotOfEpoch epoch = .error fault := by
  rw [Clock.latestFinalizedBlock, Endpoints.overWeb, substitute_bind] at h
  have head := (harmless_beacon hserver e.beacon .head).context "reading beacon head"
  rcases mayEnd_bind_error.mp h with h | ⟨⟨epoch⟩, hepoch, h⟩
  · exact (head.faultless fault h).elim
  rw [substitute_bind] at h
  rcases mayEnd_bind_error.mp h with h | ⟨slot, -, h⟩
  · exact ⟨epoch, (mayEnd_context_ok _ _ _).mp hepoch, mayEnd_ofFaulty_fault.mp h⟩
  · exact ((harmless_latestProposedBlock hserver e slot lookback).faultless fault h).elim

/-- It ends in that fault if there is one. -/
theorem latestFinalizedBlock_eq_fault {config : BeaconConfig} {lookback epoch : UInt64}
    {fault : Fault} (hepoch : (e.overWeb (.ask (.beacon .head))).MayEnd replies (.ok ⟨epoch⟩))
    (hfault : config.lastSlotOfEpoch epoch = .error fault) {o : Outcome BeaconBlock}
    (ho : (e.overWeb (Clock.latestFinalizedBlock config lookback)).MayEnd replies o) :
    o = .error (.fault fault) := by
  rw [Clock.latestFinalizedBlock, Endpoints.overWeb, substitute_bind] at ho
  have head := (harmless_beacon hserver e.beacon .head).context "reading beacon head"
  obtain ⟨r, hr, ho⟩ := ho
  cases head.eq_ok hserver ((mayEnd_context_ok _ _ _).mpr hepoch) hr
  obtain ⟨r, hr, ho⟩ := ho
  have overflow : r = (config.lastSlotOfEpoch epoch).mapError .fault := hr
  rw [hfault] at overflow
  subst overflow
  exact ho

end Harmless

/-! ## Sessions that learn the configuration -/

/-- A configuration that the beacon node at a base URL has, by the replies of its server. -/
def BeaconApi.Has (server : Request → Option Reply) (base : Url) (config : BeaconConfig) : Prop :=
  (BeaconApi.config base).MayEnd (.fixed (Exchange.answers server)) (.ok config)

/-- What a session knows that knew `known` before, and may have learned the configuration of the
beacon node since. -/
def BeaconApi.Learned (server : Request → Option Reply) (base : Url)
    (known now : Option BeaconConfig) : Prop :=
  now = known ∨ known = none ∧ ∃ config, Has server base config ∧ now = some config

/-- What a question may be answered by servers, and by a session that may be learning the
configuration. -/
def Exchange.Answered (server : Request → Option Reply) (base : Url)
    (known : Option BeaconConfig) : {α : Type} → Exchange α → Outcome α → Prop
  | _, .web (.send r), o => o = .ok (server r)
  | _, .session .knownConfig, o => ∃ now, BeaconApi.Learned server base known now ∧ o = .ok now
  | _, .session (.rememberConfig _), o => o = .ok ()
  | _, .session .countBatch, o => o = .ok ()
  | _, .session (.recordSnapshot _), o => o = .ok ()

def Exchange.learning (server : Request → Option Reply) (base : Url)
    (known : Option BeaconConfig) : Replies Exchange :=
  ⟨Exchange.Answered server base known, fun _ => True, True⟩

theorem learning_serves (server : Request → Option Reply) (base : Url)
    (known : Option BeaconConfig) : Serves (Exchange.learning server base known) server :=
  fun _ _ h => h

/-- If the session is told a configuration, it knew none, and it is that of the beacon node. -/
def Exchange.Remembers (server : Request → Option Reply) (base : Url)
    (known : Option BeaconConfig) : {α : Type} → Exchange α → Prop
  | _, .session (.rememberConfig config) => known = none ∧ BeaconApi.Has server base config
  | _, _ => True

theorem Exchange.IsWeb.remembers {α : Type} {q : Exchange α} (hq : q.IsWeb)
    (server : Request → Option Reply) (base : Url) (known : Option BeaconConfig) :
    q.Remembers server base known := by
  cases q with
  | web question => trivial
  | session question => exact hq.elim

theorem Harmless.remembers {α : Type} {replies : Replies Exchange} {t : Task Exchange α}
    (ht : Harmless replies t) {server : Request → Option Reply} {base : Url}
    {known : Option BeaconConfig} : t.Asks replies (Exchange.Remembers server base known) :=
  ht.asks.imp fun _ hq => Exchange.IsWeb.remembers hq server base known

section Learning

variable {σ : Type} {service : Service Exchange σ} {server : σ → Request → Option Reply}
  {session : σ → Session} {base : Url} {known : Option BeaconConfig}

theorem Fronts.matches_learning (h : Fronts service server session)
    (replied : Request → Option Reply) (base : Url) (known : Option BeaconConfig) :
    service.Matches service (Exchange.learning replied base known)
      (Exchange.Remembers replied base known)
      fun s s' => s = s' ∧ server s = replied ∧
        BeaconApi.Learned replied base known (session s).config where
  accept q s _ _ hs := by
    obtain ⟨rfl, hserver, hknown⟩ := hs
    exact ⟨rfl, (h.accept_server q s).trans hserver, (h.accept_session q s).symm ▸ hknown⟩
  outcome _ _ _ _ hs := by rw [hs.1]
  answer q s _ hq hs := by
    obtain ⟨rfl, hserver, hknown⟩ := hs
    refine ⟨rfl, (h.answer_server q s).trans hserver, ?_⟩
    cases q with
    | web question =>
        cases question with
        | send r => exact (h.reply_session r s).symm ▸ hknown
    | session question =>
        rw [h.told_session question s]
        cases question with
        | rememberConfig config => exact .inr ⟨hq.1, config, hq.2, rfl⟩
        | _ => exact hknown
  reply q s _ _ hs := by
    obtain ⟨rfl, hserver, hknown⟩ := hs
    cases q with
    | web question =>
        cases question with
        | send r => exact hserver ▸ h.reply r s
    | session question =>
        have told := h.told question s
        cases question with
        | knownConfig => exact ⟨_, hknown, told⟩
        | _ => exact told
  permit hs := by rw [hs.1]
  grant _ _ := trivial
  refusal _ _ := trivial

theorem BeaconApi.Has.ticks {server : Request → Option Reply} {config : BeaconConfig}
    (h : Has server base config) : config.Ticks := by
  obtain ⟨_, -, h⟩ := (mayEnd_bind_ok _ _ _).mp h
  have accepted := (mayEnd_ofExcept_ok _ _).mp h
  rw [checkConfig] at accepted
  split at accepted
  · next positive =>
      cases accepted
      exact ⟨positive.1, positive.2⟩
  · cases accepted

theorem BeaconApi.Has.eq_ok {server : Request → Option Reply} {config : BeaconConfig}
    (h : Has server base config) {o : Outcome BeaconConfig}
    (ho : (BeaconApi.config base).MayEnd (.fixed (Exchange.answers server)) o) :
    o = .ok config := by
  have serves : Serves (.fixed (Exchange.answers server)) server := fun _ _ h => h
  exact (harmless_config serves base).strict.eq_ok h ho

/-- A session has only one configuration to learn. -/
theorem BeaconApi.Learned.unique {server : Request → Option Reply} {config config' : BeaconConfig}
    (h : Learned server base known (some config)) (h' : Learned server base known (some config')) :
    config' = config := by
  rcases h with rfl | ⟨rfl, _, has, ⟨⟩⟩
  · rcases h' with h' | ⟨h', -⟩
    · exact Option.some.inj h'
    · cases h'
  · rcases h' with h' | ⟨-, _, has', ⟨⟩⟩
    · cases h'
    · exact Except.ok.inj (has.eq_ok has')

end Learning

end Http

namespace Simulation.CannedServer

open Http

/-- The reply to a request, if it reaches the server. -/
def reply? (s : CannedServer) (r : Http.Request) : Option Reply :=
  if s.isReached r then s.replyTo r else none

/-- A request that is received is noted, and nothing else changes. -/
theorem accept_eq {α : Type} (q : Exchange α) (s : CannedServer) :
    ∃ log, (accept q s).1 = { s with log } := by
  cases q with
  | web question =>
      cases question
      rw [accept]
      split
      · exact ⟨_, rfl⟩
      · exact ⟨_, rfl⟩
  | session question => exact ⟨_, rfl⟩

theorem fronts : Fronts service reply? session where
  accept_server q s := by
    obtain ⟨log, h⟩ := accept_eq q s
    exact (congrArg reply? h).trans rfl
  accept_session q s := by
    obtain ⟨log, h⟩ := accept_eq q s
    exact (congrArg session h).trans rfl
  answer_server q s := by
    cases q with
    | web question =>
        cases question
        rfl
    | session question => rfl
  reply _ _ := rfl
  reply_session _ _ := rfl
  told _ _ := rfl
  told_session _ _ := rfl

end Simulation.CannedServer

/-! ## Requests over the web -/

namespace Request

open Http Simulation

variable {server : Http.Request → Option Reply} {known : Option BeaconConfig} (e : Endpoints)

theorem harmless_learning_config :
    Harmless (Exchange.learning server e.beacon known) (BeaconApi.config e.beacon) :=
  harmless_config (learning_serves server e.beacon known) e.beacon

theorem has_of_learning {config : BeaconConfig}
    (h : (BeaconApi.config e.beacon).MayEnd (Exchange.learning server e.beacon known)
      (.ok config)) : BeaconApi.Has server e.beacon config :=
  (harmless_learning_config e).mayEnd_fixed (learning_serves server e.beacon known) h

theorem unknown_of_learned (h : BeaconApi.Learned server e.beacon known none) : known = none :=
  h.elim Eq.symm fun h => h.1

/-- The configuration is one that the session knows or learns, or it is none because the session
knows none and the beacon node fails. -/
theorem mayEnd_beaconConfig {o : Outcome BeaconConfig}
    (h : (e.overWeb beaconConfig).MayEnd (Exchange.learning server e.beacon known) o) :
    (∃ config, o = .ok config ∧ BeaconApi.Learned server e.beacon known (some config)) ∨
      ∃ failure, o = .error failure ∧ known = none ∧
        (BeaconApi.config e.beacon).MayEnd (Exchange.learning server e.beacon known)
          (.error failure) := by
  obtain ⟨r, ⟨now, hnow, rfl⟩, h⟩ := h
  cases now with
  | some config =>
      cases h
      exact .inl ⟨config, rfl, hnow⟩
  | none =>
      have unknown := unknown_of_learned e hnow
      obtain ⟨r, hr, h⟩ := h
      cases r with
      | error failure =>
          cases h
          exact .inr ⟨failure, rfl, unknown, hr⟩
      | ok config =>
          obtain ⟨_, rfl, h⟩ := h
          cases h
          exact .inl ⟨config, rfl, .inr ⟨unknown, config, has_of_learning e hr, rfl⟩⟩

theorem asks_beaconConfig :
    (e.overWeb beaconConfig).Asks (Exchange.learning server e.beacon known)
      (Exchange.Remembers server e.beacon known) := by
  rw [beaconConfig, Endpoints.overWeb, substitute_bind]
  refine (asks_bind _ _).mpr ⟨trivial, ?_⟩
  rintro now ⟨_, hnow, ⟨⟩⟩
  cases now with
  | some config => trivial
  | none =>
      dsimp only
      rw [substitute_bind]
      refine (asks_bind _ _).mpr ⟨(harmless_learning_config e).remembers, fun config h => ?_⟩
      rw [substitute_bind]
      exact Asks.bind ⟨unknown_of_learned e hnow, has_of_learning e h⟩ fun _ => trivial

theorem faultless_beaconConfig :
    (e.overWeb beaconConfig).Faultless (Exchange.learning server e.beacon known) := by
  intro fault h
  rcases mayEnd_beaconConfig e h with ⟨config, h, -⟩ | ⟨failure, h, -, hfailure⟩
  · cases h
  · cases h
    exact (harmless_learning_config e).faultless fault hfailure

/-- While a session learns the configuration, the configuration that it may come to is the only
one. -/
theorem beaconConfig_eq_ok {config : BeaconConfig}
    (hconfig : (e.overWeb beaconConfig).MayEnd (Exchange.learning server e.beacon known)
      (.ok config)) {o : Outcome BeaconConfig}
    (ho : (e.overWeb beaconConfig).MayEnd (Exchange.learning server e.beacon known) o) :
    o = .ok config := by
  rcases mayEnd_beaconConfig e hconfig with ⟨_, ⟨⟩, learned⟩ | ⟨_, h, -⟩
  · rcases mayEnd_beaconConfig e ho with ⟨config', rfl, learned'⟩ | ⟨failure, rfl, unknown, hfails⟩
    · rw [learned.unique learned']
    · have fails := (harmless_learning_config e).mayEnd_fixed (learning_serves _ _ _) hfails
      rcases learned with h | ⟨-, _, has, ⟨⟩⟩
      · cases h.trans unknown
      · cases has.eq_ok fails
  · cases h

theorem learned_of_beaconConfig {config : BeaconConfig}
    (h : (e.overWeb beaconConfig).MayEnd (Exchange.learning server e.beacon known) (.ok config)) :
    BeaconApi.Learned server e.beacon known (some config) := by
  rcases mayEnd_beaconConfig e h with ⟨_, ⟨⟩, learned⟩ | ⟨_, h, -⟩
  · exact learned
  · cases h

variable (hknown : ∀ config, known = some config → config.Ticks)

include hknown in
theorem ticks_of_beaconConfig {config : BeaconConfig}
    (h : (e.overWeb beaconConfig).MayEnd (Exchange.learning server e.beacon known) (.ok config)) :
    config.Ticks := by
  rcases learned_of_beaconConfig e h with h | ⟨-, _, has, ⟨⟩⟩
  · exact hknown config h.symm
  · exact has.ticks

include hknown in
/-- After the configuration, the search at the head ends in no fault. -/
theorem harmless_headSlot_search (settings : Settings) {config : BeaconConfig}
    (h : (e.overWeb beaconConfig).MayEnd (Exchange.learning server e.beacon known) (.ok config)) :
    Harmless (Exchange.learning server e.beacon known)
      (e.overWeb (Clock.headSlot config >>= fun slot =>
        Clock.latestProposedBlock slot settings.maxSlotLookback)) := by
  have serves := learning_serves server e.beacon known
  rw [Endpoints.overWeb, substitute_bind]
  exact (harmless_headSlot serves e (ticks_of_beaconConfig e hknown h)).bind fun slot =>
    harmless_latestProposedBlock serves e slot _

include hknown in
theorem faultless_headBlock (settings : Settings) :
    (e.overWeb (headBlock settings)).Faultless (Exchange.learning server e.beacon known) := by
  rw [headBlock, Endpoints.overWeb, substitute_bind]
  exact (faultless_beaconConfig e).bind fun config h =>
    (harmless_headSlot_search e hknown settings h).faultless

include hknown in
theorem asks_headBlock (settings : Settings) :
    (e.overWeb (headBlock settings)).Asks (Exchange.learning server e.beacon known)
      (Exchange.Remembers server e.beacon known) := by
  rw [headBlock, Endpoints.overWeb, substitute_bind]
  exact (asks_bind _ _).mpr ⟨asks_beaconConfig e, fun config h =>
    (harmless_headSlot_search e hknown settings h).remembers⟩

theorem asks_finalizedBlock (lookback : UInt64) :
    (e.overWeb (beaconConfig >>= fun config => Clock.latestFinalizedBlock config lookback)).Asks
      (Exchange.learning server e.beacon known) (Exchange.Remembers server e.beacon known) := by
  have serves := learning_serves server e.beacon known
  rw [Endpoints.overWeb, substitute_bind]
  refine (asks_beaconConfig e).bind fun config => ?_
  rw [Clock.latestFinalizedBlock, substitute_bind]
  refine Asks.bind ((harmless_beacon serves e.beacon .head).context _).remembers fun head => ?_
  rw [substitute_bind]
  exact Asks.bind trivial fun slot =>
    (harmless_latestProposedBlock serves e slot lookback).remembers

/-- Over servers with one reply to each request, whatever these replies are, and a session that
knows no configuration in which time stands still:

* the configuration has a slot for every time, and the last slot of an epoch as `LastSlot` says;
* the latest block ends in a block or an error;
* the latest finalized block ends in a fault exactly if the configuration and the finalized epoch
  are there and the last slot of that epoch is none, unless it is given up for its time. -/
theorem faults_on_overflow {σ : Type} {service : Service Exchange σ}
    {server : σ → Http.Request → Option Reply} {session : σ → Session}
    (hservice : Fronts service server session) (e : Endpoints) (settings : Settings) {s : σ}
    (hknown : ∀ config, (session s).config = some config → config.Ticks) :
    (∀ config, ((e.overWeb beaconConfig).run service s).1 = .ok config →
      (∀ time, ∃ slot, config.slotAt time = .ok slot ∧
        slot.toNat = (time.toNat - config.genesisTime.toNat) / config.secondsPerSlot.toNat) ∧
      ∀ epoch, config.LastSlot epoch (config.lastSlotOfEpoch epoch)) ∧
    (∀ last, (e.overWeb (latestBlock settings)).EndsIn service s last →
      ∀ fault, last.1 ≠ .error (.fault fault)) ∧
    ∀ last, (e.overWeb (latestFinalizedBlock settings)).EndsIn service s last →
      (∀ fault, last.1 = .error (.fault fault) → ∃ config epoch,
        ((e.overWeb beaconConfig).run service s).1 = .ok config ∧
        ((e.overWeb (.ask (.beacon .head))).run service s).1 = .ok ⟨epoch⟩ ∧
        config.lastSlotOfEpoch epoch = .error fault) ∧
      ∀ config epoch fault, ((e.overWeb beaconConfig).run service s).1 = .ok config →
        ((e.overWeb (.ask (.beacon .head))).run service s).1 = .ok ⟨epoch⟩ →
        config.lastSlotOfEpoch epoch = .error fault →
        last.1 = .error (.fault fault) ∨
          last.1 = .error (.error (late settings "latest finalized block")) := by
  have learning := hservice.matches_learning (server s) e.beacon (session s).config
  have start : server s = server s ∧
      BeaconApi.Learned (server s) e.beacon (session s).config (session s).config :=
    ⟨rfl, .inl rfl⟩
  have serves := learning_serves (server s) e.beacon (session s).config
  have config_iff (config : BeaconConfig) :
      ((e.overWeb beaconConfig).run service s).1 = .ok config ↔
        (e.overWeb beaconConfig).MayEnd
          (Exchange.learning (server s) e.beacon (session s).config) (.ok config) := by
    have run := (learning.mayEnd (asks_beaconConfig e) start (.inl rfl)).1
    exact ⟨fun h => h ▸ run, fun h => beaconConfig_eq_ok e h run⟩
  have head : Harmless (Exchange.learning (server s) e.beacon (session s).config)
      (e.overWeb (.ask (.beacon .head))) := harmless_beacon serves e.beacon .head
  have head_iff (epoch : UInt64) :
      ((e.overWeb (.ask (.beacon .head))).run service s).1 = .ok ⟨epoch⟩ ↔
        (e.overWeb (.ask (.beacon .head))).MayEnd
          (Exchange.learning (server s) e.beacon (session s).config) (.ok ⟨epoch⟩) := by
    have run := (learning.mayEnd head.remembers start (.inl rfl)).1
    exact ⟨fun h => h ▸ run, fun h => head.eq_ok serves h run⟩
  refine ⟨fun config h => ?_, fun last hlast fault h => ?_, fun last hlast => ?_⟩
  · have ticks := ticks_of_beaconConfig e hknown ((config_iff config).mp h)
    exact ⟨BeaconConfig.slotAt_eq ticks, BeaconConfig.lastSlotOfEpoch_ends ticks⟩
  · have hend := (learning.mayEnd ((asks_within _ _ _).mpr (asks_headBlock e hknown settings))
      start hlast).1
    rw [h] at hend
    exact (faultless_headBlock e hknown settings).within _ _ fault hend
  · have hend := (learning.mayEnd ((asks_within _ _ _).mpr (asks_finalizedBlock e _)) start hlast).1
    rw [Endpoints.overWeb, substitute_bind] at hend
    refine ⟨fun fault h => ?_, fun config epoch fault hconfig hepoch hfault => ?_⟩
    · rw [h] at hend
      rcases hend with hend | hend
      · rcases mayEnd_bind_error.mp hend with hend | ⟨config, hconfig, hend⟩
        · exact (faultless_beaconConfig e fault hend).elim
        obtain ⟨epoch, hepoch, hfault⟩ := mayEnd_latestFinalizedBlock_fault serves e hend
        exact ⟨config, epoch, (config_iff config).mpr hconfig, (head_iff epoch).mpr hepoch, hfault⟩
      · cases hend
    · refine hend.imp_left fun hend => ?_
      obtain ⟨r, hr, hend⟩ := hend
      cases beaconConfig_eq_ok e ((config_iff config).mp hconfig) hr
      exact latestFinalizedBlock_eq_fault serves e ((head_iff epoch).mp hepoch) hfault hend

/-- A beacon node whose slots last 12 seconds, with 32 of them in an epoch, in front of a new
session. -/
def beaconNode (finalized : UInt64) : CannedServer where
  place := Gateway.localServer 5052
  isDown := false
  replies :=
    [("/" ++ BeaconApi.specPath, .ofJson 200 (toJson (Envelope.mk (SpecReply.mk ⟨12⟩ ⟨32⟩)))),
      ("/" ++ BeaconApi.genesisPath, .ofJson 200 (toJson (Envelope.mk (GenesisReply.mk ⟨0⟩)))),
      ("/" ++ BeaconApi.finalityPath,
        .ofJson 200 (toJson (Envelope.mk (FinalityReply.mk ⟨⟨finalized⟩⟩))))]
  otherwise := Gateway.notFound
  log := []
  session := .new false

def beaconEndpoints : Endpoints :=
  (Gateway.onThisMachine ⟨.zero, .zero⟩).endpoints

/-- The epoch 2 ^ 59 begins one slot after the last that is a count. -/
theorem faults_at_firstOverflow :
    let node := beaconNode 576460752303423488
    let request := beaconEndpoints.overWeb (latestFinalizedBlock .default)
    Fronts CannedServer.service CannedServer.reply? CannedServer.session ∧
      node.session.config = none ∧
      (BeaconConfig.mk 0 12 32).LastSlot 576460752303423488 (.error .multiplyOverflow) ∧
      ((request.run CannedServer.service node).1 = .error (.fault .multiplyOverflow) ∨
        (request.run CannedServer.service node).1 =
          .error (.error (late .default "latest finalized block"))) := by
  intro node request
  have config : ((beaconEndpoints.overWeb beaconConfig).run CannedServer.service node).1 =
      .ok ⟨0, 12, 32⟩ := by
    decide +kernel
  have head : ((beaconEndpoints.overWeb (.ask (.beacon .head))).run CannedServer.service node).1 =
      .ok ⟨576460752303423488⟩ := by
    decide +kernel
  obtain ⟨slots, -, finalized⟩ := faults_on_overflow CannedServer.fronts beaconEndpoints .default
    (s := node) fun _ h => by cases h
  have last := (slots _ config).2 576460752303423488
  have overflow : (BeaconConfig.mk 0 12 32).lastSlotOfEpoch 576460752303423488 =
      .error .multiplyOverflow := by
    decide
  rw [overflow] at last
  exact ⟨CannedServer.fronts, rfl, last, (finalized _ (.inl rfl)).2 _ _ _ config head overflow⟩

/-- At the largest epoch, the request over a beacon node with a proper configuration ends in a
fault. -/
theorem latestFinalizedBlock_overflows :
    let node := beaconNode Count.largest
    ((beaconEndpoints.overWeb beaconConfig).run CannedServer.service node).1 = .ok ⟨0, 12, 32⟩ ∧
      ((beaconEndpoints.overWeb (.ask (.beacon .head))).run CannedServer.service node).1 =
        .ok ⟨Count.largest⟩ ∧
      ((beaconEndpoints.overWeb (latestFinalizedBlock .default)).run CannedServer.service node).1 =
        .error (.fault .multiplyOverflow) := by
  decide +kernel

end Request

end StakeSnapshot
