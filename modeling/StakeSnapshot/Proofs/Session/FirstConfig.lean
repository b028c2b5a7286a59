import Mathlib.Data.List.Chain
import StakeSnapshot.Proofs.SingleBlock
import StakeSnapshot.Proofs.Task.Guarantee

/-!
# The first configuration counts

A session asks the beacon chain for its configuration until it has been told it once, and uses that
configuration from then on, whatever the beacon chain would say later. A run is recorded request by
request (`Visit`): what the request came to, and the events that have to do with the configuration.
`Visit.UsesFirst` says what every request of a run keeps to, given the first configuration that was
told before it.
-/

namespace StakeSnapshot

open StakeSnapshot.Task

/-! ## What is recorded -/

/-- What a user can ask of a session. -/
inductive SessionRequest : Type → Type 1 where
  | beaconConfig : SessionRequest BeaconConfig
  | latestBlock : SessionRequest BeaconBlock
  | latestFinalizedBlock : SessionRequest BeaconBlock
  | pool {α : Type} (request : PoolRequest α) : SessionRequest α

def SessionRequest.task (settings : Settings) (storage : Address) {α : Type} :
    SessionRequest α → Task Query α
  | .beaconConfig => Request.beaconConfig
  | .latestBlock => Request.latestBlock settings
  | .latestFinalizedBlock => Request.latestFinalizedBlock settings
  | .pool request => request.task settings storage

/-- An event that has to do with the configuration. -/
inductive ConfigEvent where
  /-- The beacon chain is asked for its configuration. -/
  | asked
  /-- It has answered, with a configuration unless it failed. -/
  | answered (config : Option BeaconConfig)
  /-- The latest execution block has been read, for its time. -/
  | timeRead (header : BlockHeader)
  /-- The head of the beacon chain has been read, for its last finalized epoch. -/
  | epochRead (head : BeaconHead)
  /-- The beacon chain is asked for the block of a slot. -/
  | slotAsked (slot : UInt64)
  | blockFound (block : BeaconBlock)
deriving DecidableEq

namespace ConfigEvent

/-- The event of a question. -/
def ofQuery : {α : Type} → Query α → Option ConfigEvent
  | _, .beacon .config => some asked
  | _, .beacon (.block slot) => some (slotAsked slot)
  | _, _ => none

/-- The event of an answer. -/
def ofAnswer : {α : Type} → Query α → Outcome α → Option ConfigEvent
  | _, .beacon .config, r => some (answered r.toOption)
  | _, .beacon .head, r => r.toOption.map epochRead
  | _, .beacon (.block _), r => r.toOption.join.map blockFound
  | _, .execution .latestBlock, r => r.toOption.map timeRead
  | _, _, _ => none

/-- The configuration that was told. -/
def config? : ConfigEvent → Option BeaconConfig
  | answered config => config
  | _ => none

/-- How a slot is computed from what was read. -/
def slotOf? : ConfigEvent → Option (BeaconConfig → Except Fault UInt64)
  | timeRead header => some fun config => config.slotAt header.timestamp
  | epochRead head => some fun config => config.lastSlotOfEpoch head.finalizedEpoch
  | _ => none

/-- The first configuration that was told. -/
def first (events : List ConfigEvent) : Option BeaconConfig := events.findSome? config?

@[simp] theorem first_append (l l' : List ConfigEvent) :
    first (l ++ l') = (first l).or (first l') :=
  List.findSome?_append

/-- After what was read, the slot is asked for that `config` makes of it. -/
def Follows (config : Option BeaconConfig) (e e' : ConfigEvent) : Prop :=
  ∀ slotOf, e.slotOf? = some slotOf →
    ∃ c slot, config = some c ∧ slotOf c = .ok slot ∧ e' = .slotAsked slot

/-- The failure when a slot could not be computed, or no slots are looked at from there on. -/
def noBlock (lookback : UInt64) : Except Fault UInt64 → Failure
  | .ok slot =>
      .error (.of .sourceUnavailable
        s!"no proposed block in {lookback} slots at or before slot {slot}")
  | .error fault => .fault fault

/-- If nothing follows what was read, then the request has failed, at the slot that `config` makes
of it. -/
def Concludes (config : Option BeaconConfig) (lookback : UInt64) (e : ConfigEvent)
    (failure : Option Failure) : Prop :=
  ∀ slotOf, e.slotOf? = some slotOf →
    ∃ c, config = some c ∧ failure = some (noBlock lookback (slotOf c))

end ConfigEvent

namespace SessionRequest

/-- The request cannot do anything before it knows the configuration. -/
def startsWithConfig {α : Type} : SessionRequest α → Bool
  | .pool (.stateForSlot _) => false
  | _ => true

/-- The value is the configuration `c` if it is one, and carries it if it is a snapshot. -/
def Shows (c : BeaconConfig) : {α : Type} → SessionRequest α → α → Prop
  | _, .beaconConfig, config => config = c
  | _, .pool .headState, snapshot => snapshot.config = c
  | _, .pool (.headStateForNode _), snapshot => snapshot.config = c
  | _, .pool (.stateForSlot _), snapshot => snapshot.config = c
  | _, _, _ => True

/-- The request asks for nothing but the configuration. -/
def IsConfig {α : Type} : SessionRequest α → Prop
  | .beaconConfig => True
  | _ => False

end SessionRequest

/-- A request of a run. -/
structure Visit where
  {α : Type}
  request : SessionRequest α
  /-- What the request came to, unless it was dropped before its end. -/
  result : Option (Outcome α)
  /-- What was recorded meanwhile. -/
  events : List ConfigEvent

/-- The failure in which the request has ended, if it has failed. -/
def Visit.failure? (v : Visit) : Option Failure :=
  match v.result with
  | some (.error e) => some e
  | _ => none

open ConfigEvent in
/-- What a request keeps to, when `known` is the first configuration that was told before. -/
structure Visit.UsesFirst (known : Option BeaconConfig) (lookback : UInt64) (v : Visit) : Prop where
  atMostOnce : v.events.count .asked ≤ 1
  notAgain : known ≠ none → .asked ∉ v.events
  /-- A failure is not remembered: whoever needs the configuration asks for it again. -/
  asksAgain : known = none →
    (v.request.startsWithConfig = true ∨ ∃ block, .blockFound block ∈ v.events) →
      .asked ∈ v.events
  /-- The configuration itself is told unless the beacon chain fails at this very request. -/
  fails : v.failure? ≠ none → v.request.IsConfig → known = none ∧ .answered none ∈ v.events
  shows : ∀ a, v.result = some (.ok a) →
    ∃ c, known.or (first v.events) = some c ∧ v.request.Shows c a
  follows : v.events.IsChain (Follows (known.or (first v.events)))
  concludes : ∀ e ∈ v.events.getLast?, Concludes (known.or (first v.events)) lookback e v.failure?

/-! ## Events of a task -/

section Events

variable {ε β α γ : Type} (client : Service ExecutionQuery ε) (beacon : Service BeaconQuery β)

/-- Two chains and a session, with a record of what has to do with the configuration. -/
def Service.ofChainsRecorded : Service Query (Surroundings ε β × List ConfigEvent) :=
  (Service.ofChains client beacon).recording ConfigEvent.ofQuery ConfigEvent.ofAnswer

variable (known : Option BeaconConfig)

/-- The events `l` have been recorded, and the session knows the configuration that it knew before
or has been told first. -/
structure Recorded (l : List ConfigEvent) (s : Surroundings ε β × List ConfigEvent) : Prop where
  events : s.2 = l
  config : s.1.session.config = known.or (ConfigEvent.first l)

/-- After the events `l`, the task keeps to `G` whenever it waits, and ends as `Q` says. -/
def Task.Records (G : List ConfigEvent → Prop) (t : Task Query α)
    (Q : Outcome α → List ConfigEvent → Prop) (l : List ConfigEvent) : Prop :=
  ∀ s : Surroundings ε β × List ConfigEvent, Recorded known l s →
    t.Ensures (.ofChainsRecorded client beacon) (.alone fun s => ∃ l, Recorded known l s ∧ G l)
      (fun r s => ∃ l, Recorded known l s ∧ Q r l) s

/-- What the first part of a task has to end with: after a value the rest ends as `Q` says, and the
failure does otherwise. -/
def Task.LeadsTo (G : List ConfigEvent → Prop) (f : α → Task Query γ)
    (Q : Outcome γ → List ConfigEvent → Prop) : Outcome α → List ConfigEvent → Prop
  | .ok a, l => (f a).Records client beacon known G Q l
  | .error e, l => Q (.error e) l

/-- After the events `l`, the task serves a request that keeps to `Visit.UsesFirst`, whether the
request waits or ends. -/
abbrev Task.Serves (lookback : UInt64) (request : SessionRequest α) (t : Task Query α)
    (l : List ConfigEvent) : Prop :=
  t.Records client beacon known (fun l => Visit.UsesFirst known lookback ⟨request, none, l⟩)
    (fun r l => Visit.UsesFirst known lookback ⟨request, some r, l⟩) l

end Events

/-- The question does not touch the configuration. -/
def Query.Apart : {α : Type} → Query α → Prop
  | _, .beacon .config => False
  | _, .session .knownConfig => False
  | _, .session (.rememberConfig _) => False
  | _, _ => True

/-- Nothing is recorded of the question. -/
def Query.Quiet {α : Type} (q : Query α) : Prop :=
  q.Apart ∧ ConfigEvent.ofQuery q = none ∧ ∀ r, ConfigEvent.ofAnswer q r = none

section Rules

variable {ε β α γ : Type} {client : Service ExecutionQuery ε} {beacon : Service BeaconQuery β}
  {known : Option BeaconConfig} {l : List ConfigEvent} {G : List ConfigEvent → Prop}
  {Q : Outcome α → List ConfigEvent → Prop}

theorem ConfigEvent.first_ofQuery (q : Query α) : first (ofQuery q).toList = none := by
  cases q with
  | beacon q => cases q <;> rfl
  | _ => rfl

theorem ConfigEvent.first_ofAnswer {q : Query α} (hq : q.Apart) (r : Outcome α) :
    first (ofAnswer q r).toList = none := by
  cases q with
  | beacon q =>
      cases q with
      | config => exact hq.elim
      | head => cases r <;> rfl
      | block slot => rcases r with _ | _ | _ <;> rfl
  | execution q => cases q <;> cases r <;> rfl
  | session q => cases q <;> rfl

variable (client beacon) in
theorem Recorded.accept {s : Surroundings ε β × List ConfigEvent} (h : Recorded known l s)
    (q : Query α) :
    Recorded known (l ++ (ConfigEvent.ofQuery q).toList)
      ((Service.ofChainsRecorded client beacon).accept q s).1 where
  events := congrArg (· ++ _) h.events
  config := by
    rw [ConfigEvent.first_append, ConfigEvent.first_ofQuery, Option.or_none, ← h.config]
    cases q <;> rfl

variable (client beacon) in
theorem Recorded.answer {s : Surroundings ε β × List ConfigEvent} (h : Recorded known l s)
    {q : Query α} (hq : q.Apart) :
    Recorded known
      (l ++ (ConfigEvent.ofAnswer q
        ((Service.ofChainsRecorded client beacon).answer q s).1).toList)
      ((Service.ofChainsRecorded client beacon).answer q s).2 where
  events := congrArg (· ++ _) h.events
  config := by
    rw [ConfigEvent.first_append, ConfigEvent.first_ofAnswer hq, Option.or_none, ← h.config]
    cases q with
    | session q =>
        cases q with
        | knownConfig | rememberConfig => exact hq.elim
        | _ => rfl
    | _ => rfl

namespace Task.Records

theorem imp {Q' : Outcome α → List ConfigEvent → Prop} {t : Task Query α}
    (h : t.Records client beacon known G Q l) (hQ : ∀ r l, Q r l → Q' r l) :
    t.Records client beacon known G Q' l :=
  fun s hs => (h s hs).imp fun r _ ⟨l, hl, hr⟩ => ⟨l, hl, hQ r l hr⟩

theorem done {r : Outcome α} (h : Q r l) :
    (Task.done r : Task Query α).Records client beacon known G Q l :=
  fun _ hs => .done ⟨l, hs, h⟩

theorem ask {q : Query α} (hq : q.Apart) (hasked : G (l ++ (ConfigEvent.ofQuery q).toList))
    (h : ∀ r, Q r (l ++ (ConfigEvent.ofQuery q).toList ++ (ConfigEvent.ofAnswer q r).toList)) :
    (Task.ask q).Records client beacon known G Q l := by
  refine fun s hs => .ask ⟨_, hs.accept client beacon q, hasked⟩ fun s' hs' => ?_
  subst hs'
  exact ⟨_, (hs.accept client beacon q).answer client beacon hq, h _⟩

/-- A question that is recorded when it has been answered. -/
theorem ask_read {q : Query α} (hq : q.Apart) (hnone : ConfigEvent.ofQuery q = none) (hG : G l)
    (h : ∀ r, Q r (l ++ (ConfigEvent.ofAnswer q r).toList)) :
    (Task.ask q).Records client beacon known G Q l := by
  have same : l ++ (ConfigEvent.ofQuery q).toList = l := by
    rw [hnone, Option.toList_none, List.append_nil]
  exact ask hq (by rwa [same]) (by rwa [same])

theorem bind {t : Task Query α} {f : α → Task Query γ} {Q : Outcome γ → List ConfigEvent → Prop}
    (h : t.Records client beacon known G (LeadsTo client beacon known G f Q) l) :
    (t >>= f).Records client beacon known G Q l := by
  refine fun s hs => .bind ((h s hs).imp fun r s' ⟨l', hl', hr⟩ => ?_)
  cases r with
  | ok a => exact hr s' hl'
  | error e => exact ⟨l', hl', hr⟩

theorem context {c : String} {t : Task Query α}
    (h : t.Records client beacon known G (fun r => Q (r.context c)) l) :
    (t.context c).Records client beacon known G Q l :=
  fun s hs => .mapError (h s hs)

theorem within {seconds : Nat} {late : Error} {t : Task Query α}
    (hlate : ∀ l, G l → Q (.error (.error late)) l) (h : t.Records client beacon known G Q l) :
    (Task.within seconds late t).Records client beacon known G Q l :=
  fun s hs => .within (fun _ ⟨l, hl, hG⟩ => ⟨l, hl, hlate l hG⟩) (h s hs)

/-- While a task asks nothing that is recorded, nothing changes. -/
theorem quiet {t : Task Query α} (ht : t.Asks .any Query.Quiet) (hG : G l) (h : ∀ r, Q r l) :
    t.Records client beacon known G Q l := by
  have keeps : (Service.ofChainsRecorded client beacon).Keeps Query.Quiet (Recorded known l) := by
    constructor
    · intro _ q s hq hs
      have next := hs.accept client beacon q
      rwa [hq.2.1, Option.toList_none, List.append_nil] at next
    · intro _ q s hq hs
      have next := hs.answer client beacon hq.1
      rwa [hq.2.2, Option.toList_none, List.append_nil] at next
  intro s hs
  have ensured := keeps.ensures (w := .alone fun s => ∃ l, Recorded known l s ∧ G l)
    (fun s hs => ⟨l, hs, hG⟩) (fun s s' hs h => h ▸ hs) ht hs
  exact ensured.imp fun r s' hs' => ⟨l, hs', h r⟩

theorem quiet_bind {t : Task Query α} {f : α → Task Query γ}
    {Q : Outcome γ → List ConfigEvent → Prop} (ht : t.Asks .any Query.Quiet) (hG : G l)
    (herror : ∀ e, Q (.error e) l) (h : ∀ a, (f a).Records client beacon known G Q l) :
    (t >>= f).Records client beacon known G Q l := by
  refine .bind (.quiet ht hG fun r => ?_)
  cases r with
  | error e => exact herror e
  | ok a => exact h a

end Task.Records

/-! ## Order among the events -/

namespace ConfigEvent

variable {k k' : Option BeaconConfig} {e e' : ConfigEvent}

theorem Follows.mono (hk : ∀ c, k = some c → k' = some c) (h : Follows k e e') :
    Follows k' e e' := by
  intro slotOf he
  obtain ⟨c, slot, hc, hslot, he'⟩ := h slotOf he
  exact ⟨c, slot, hk c hc, hslot, he'⟩

/-- Nothing has been read last from which a slot is to be computed. -/
def Calm (l : List ConfigEvent) : Prop := ∀ e ∈ l.getLast?, e.slotOf? = none

theorem calm_concat (l : List ConfigEvent) (he : e.slotOf? = none) : Calm (l ++ [e]) := by
  intro e' h
  rw [List.getLast?_concat, Option.mem_some] at h
  rwa [← h]

theorem Calm.follows (h : Calm l) : ∀ e ∈ l.getLast?, Follows k e e' := by
  intro e he slotOf hslotOf
  rw [h e he] at hslotOf
  cases hslotOf

theorem isChain_concat (h : l.IsChain (Follows k)) (he : ∀ e' ∈ l.getLast?, Follows k e' e) :
    (l ++ [e]).IsChain (Follows k) := by
  rw [List.isChain_append]
  exact ⟨h, List.isChain_singleton e, fun e' he' y hy => Option.mem_some.mp hy ▸ he e' he'⟩

variable (known)

/-- The configuration is asked for once at most, and slots are computed from the first that was
told. -/
structure Orderly (l : List ConfigEvent) : Prop where
  once : l.count .asked ≤ 1
  notAgain : known ≠ none → .asked ∉ l
  follows : l.IsChain (Follows (known.or (first l)))

/-- The configuration has not been asked for meanwhile. -/
structure Untouched (l : List ConfigEvent) : Prop extends Orderly known l where
  notAsked : .asked ∉ l
  notTold : first l = none

/-- The configuration has been asked for, if it was not known before. -/
structure Asked (l : List ConfigEvent) : Prop extends Orderly known l where
  asked : known = none → .asked ∈ l

/-- The configuration is known to be `c`. -/
structure Ready (c : BeaconConfig) (l : List ConfigEvent) : Prop extends Asked known l where
  told : known.or (first l) = some c

variable {known}

theorem first_concat (l : List ConfigEvent) (h : e.config? = none) :
    first (l ++ [e]) = first l := by
  simp [first, h]

section Concat

variable (hconfig : e.config? = none) (hasked : e ≠ .asked)
  (hlast : ∀ e' ∈ l.getLast?, Follows (known.or (first l)) e' e)

include hconfig hasked hlast

theorem Orderly.concat (h : Orderly known l) : Orderly known (l ++ [e]) where
  once := by
    rw [List.count_append, List.count_singleton, if_neg (by simpa using hasked)]
    exact h.once
  notAgain hknown := by simp [h.notAgain hknown, hasked.symm]
  follows := by
    rw [first_concat l hconfig]
    exact isChain_concat h.follows hlast

theorem Untouched.concat (h : Untouched known l) : Untouched known (l ++ [e]) where
  toOrderly := h.toOrderly.concat hconfig hasked hlast
  notAsked := by simp [h.notAsked, hasked.symm]
  notTold := (first_concat l hconfig).trans h.notTold

theorem Ready.concat {c : BeaconConfig} (h : Ready known c l) : Ready known c (l ++ [e]) where
  toOrderly := h.toOrderly.concat hconfig hasked hlast
  asked hknown := List.mem_append_left _ (h.asked hknown)
  told := by
    rw [first_concat l hconfig]
    exact h.told

end Concat

/-- A configuration that is not known is asked for. -/
theorem Untouched.ask (h : Untouched none l) (calm : Calm l) : Asked none (l ++ [.asked]) where
  once := by
    rw [List.count_append, List.count_eq_zero_of_not_mem h.notAsked]
    rfl
  notAgain hknown := absurd rfl hknown
  follows := by
    rw [first_concat l rfl]
    exact isChain_concat h.follows calm.follows
  asked _ := by simp

/-- It may be told then, and is known from there on. -/
theorem Untouched.answer (h : Untouched none l) (calm : Calm l) (r : Option BeaconConfig) :
    Asked none (l ++ [.asked, .answered r]) ∧ first (l ++ [.asked, .answered r]) = r ∧
      Calm (l ++ [.asked, .answered r]) := by
  have told : first (l ++ [.asked, .answered r]) = r := by
    rw [first_append, h.notTold]
    cases r <;> rfl
  have events : l ++ [.asked, .answered r] = (l ++ [.asked]) ++ [.answered r] := by simp
  -- What was in order while no configuration was known, is in order with any.
  have before : l.IsChain (Follows r) := h.follows.imp fun e e' he => he.mono fun c hc => by
    rw [h.notTold] at hc
    cases hc
  have follows : List.IsChain (Follows r) (l ++ [.asked, .answered r]) := by
    rw [events]
    exact isChain_concat (isChain_concat before calm.follows) (calm_concat l rfl).follows
  refine ⟨⟨⟨?_, fun hknown => absurd rfl hknown, ?_⟩, fun _ => by simp⟩, told, ?_⟩
  · rw [List.count_append, List.count_eq_zero_of_not_mem h.notAsked]
    rfl
  · rwa [told, Option.none_or]
  · rw [events]
    exact calm_concat _ rfl

theorem Ready.of_told {c : BeaconConfig} (h : (∃ c, Ready known c l) ∨ Untouched known l)
    (hc : known.or (first l) = some c) : Ready known c l := by
  rcases h with ⟨c', h⟩ | h
  · obtain rfl : c' = c := Option.some.inj (h.told.symm.trans hc)
    exact h
  · refine ⟨⟨h.toOrderly, fun hknown => ?_⟩, hc⟩
    rw [hknown, h.notTold] at hc
    cases hc

theorem Untouched.of_untold (h : (∃ c, Ready known c l) ∨ Untouched known l)
    (hc : known.or (first l) = none) : known = none ∧ Untouched known l := by
  rcases h with ⟨c, h⟩ | h
  · rw [h.told] at hc
    cases hc
  · exact ⟨(Option.or_eq_none_iff.mp hc).1, h⟩

end ConfigEvent

/-! ## Parts of a request -/

open ConfigEvent

theorem records_knownConfig {Q : Outcome (Option BeaconConfig) → List ConfigEvent → Prop}
    (h : Q (.ok (known.or (first l))) l) :
    (Task.ask (.session .knownConfig)).Records client beacon known G Q l := by
  intro s hs
  have config : s.1.session.config = known.or (first l) := hs.config
  have events : s.2 ++ [] ++ [] = l := by rw [List.append_nil, List.append_nil, hs.events]
  rw [← config] at h
  exact .ask_now rfl ⟨l, ⟨events, config⟩, h⟩

/-- The beacon chain is asked, and what it tells is remembered. -/
theorem records_learn {Q : Outcome BeaconConfig → List ConfigEvent → Prop}
    (hl : known.or (first l) = none) (hG : G (l ++ [.asked]))
    (hok : ∀ c, Q (.ok c) (l ++ [.asked, .answered (some c)]))
    (herror : ∀ e, Q (.error e) (l ++ [.asked, .answered none])) :
    Task.Records client beacon known G
      (do
        let config ← Task.ask (.beacon .config)
        Task.ask (.session (.rememberConfig config))
        pure config) Q l := by
  intro s hs
  have asked := hs.accept client beacon (.beacon .config)
  have told (r : Option BeaconConfig) : known.or (first (l ++ [.asked, .answered r])) = r := by
    rw [first_append, ← Option.or_assoc, hl]
    cases r <;> rfl
  refine .bind (.ask ⟨_, asked, hG⟩ fun s' hs' => ?_)
  subst hs'
  generalize hlast : (Service.ofChainsRecorded client beacon).answer (.beacon .config) _ = last
  obtain ⟨r, s'⟩ := last
  have events : s'.2 = l ++ [.asked, .answered r.toOption] := by
    cases hlast
    rw [← hs.events]
    exact List.append_assoc s.2 _ _
  have untold : s'.1.session.config = none := by
    cases hlast
    exact hs.config.trans hl
  -- The answer is recorded before the session remembers it, in the same look.
  cases r with
  | error e => exact ⟨_, ⟨events, untold.trans (told none).symm⟩, herror e⟩
  | ok c =>
      refine .bind (.ask_now rfl (.done ⟨_, ⟨?_, (told (some c)).symm⟩, hok c⟩))
      exact (List.append_nil _).trans ((List.append_nil _).trans events)

theorem records_beaconConfig {Q : Outcome BeaconConfig → List ConfigEvent → Prop}
    (hl : (∃ c, Ready known c l) ∨ Untouched known l) (calm : Calm l)
    (hG : ∀ l, Asked known l → Calm l → G l) (hok : ∀ c l, Ready known c l → Calm l → Q (.ok c) l)
    (herror : ∀ e l, known = none → .answered none ∈ l → Asked known l → Calm l → Q (.error e) l) :
    Request.beaconConfig.Records client beacon known G Q l := by
  refine .bind (records_knownConfig ?_)
  cases hc : known.or (first l) with
  | some c => exact .done (hok c l (.of_told hl hc) calm)
  | none =>
      obtain ⟨rfl, untouched⟩ := Untouched.of_untold hl hc
      refine records_learn hc (hG _ (untouched.ask calm) (calm_concat l rfl)) (fun c => ?_)
        fun e => ?_
      · obtain ⟨answered, told, calm⟩ := untouched.answer calm (some c)
        exact hok c _ ⟨answered, by rw [told, Option.none_or]⟩ calm
      · obtain ⟨answered, -, calm⟩ := untouched.answer calm none
        exact herror e _ rfl (by simp) answered calm

/-! ### Looking for a block -/

section Search

variable {P : List ConfigEvent → Prop}
  (hP : ∀ l slot, P l → (∀ e ∈ l.getLast?, Follows (known.or (first l)) e (.slotAsked slot)) →
    P (l ++ [.slotAsked slot]))
  (hG : ∀ l, P l → Calm l → G l)

include hP hG

theorem records_findBlock {Q : Outcome (Option BeaconBlock) → List ConfigEvent → Prop}
    (hfound : ∀ block l, P l → Calm l → Q (.ok (some block)) (l ++ [.blockFound block]))
    (hnone : ∀ l, P l → Calm l → Q (.ok none) l)
    (herror : ∀ e l, P l → Calm l → Q (.error e) l) (count : Nat) :
    ∀ start l, P l → (∀ e ∈ l.getLast?, Follows (known.or (first l)) e (.slotAsked start)) →
      Q (.ok none) l →
        (Clock.findBlock start count).Records client beacon known G Q l := by
  induction count with
  | zero => exact fun start l _ _ hl => .done hl
  | succ count ih =>
      intro start l hl hlast _
      have asked := hP l start hl hlast
      have calm := calm_concat l (e := .slotAsked start) rfl
      have same := List.append_nil (l ++ [.slotAsked start])
      refine .bind (.ask trivial (hG _ asked calm) fun r => ?_)
      rcases r with e | _ | block
      · exact same.symm ▸ herror e _ asked calm
      · exact same.symm ▸ ih (start - 1) _ asked calm.follows (hnone _ asked calm)
      · exact .done (hfound block _ asked calm)

/-- A search that fails after it has asked for slots, or before if it may ask for none. -/
theorem records_latestProposedBlock {Q : Outcome BeaconBlock → List ConfigEvent → Prop}
    (hfound : ∀ block l, P l → Calm l → Q (.ok block) (l ++ [.blockFound block]))
    (herror : ∀ e l, P l → Calm l → Q (.error e) l) (start lookback : UInt64) (hl : P l)
    (hlast : ∀ e ∈ l.getLast?, Follows (known.or (first l)) e (.slotAsked start))
    (hnone : Q (.error (noBlock lookback (.ok start))) l) :
    (Clock.latestProposedBlock start lookback).Records client beacon known G Q l := by
  refine .bind (records_findBlock hP hG (fun block l hl calm => ?_) (fun l hl calm => ?_) herror _
    start l hl hlast ?_)
  · exact .done (hfound block l hl calm)
  · exact .done (herror _ l hl calm)
  · exact .done hnone

end Search

/-- The request has failed, after it had asked for the configuration if that was not known. -/
def Fails (known : Option BeaconConfig) (lookback : UInt64) (e : Failure)
    (l : List ConfigEvent) : Prop :=
  Asked known l ∧ ∀ e' ∈ l.getLast?, Concludes (known.or (first l)) lookback e' (some e)

/-- A block has been found with the configuration that is known now, or the request has failed. -/
def Located (known : Option BeaconConfig) (lookback : UInt64) :
    Outcome BeaconBlock → List ConfigEvent → Prop
  | .ok _, l => (∃ c, Ready known c l) ∧ Calm l
  | .error e, l => Fails known lookback e l

theorem ConfigEvent.Calm.concludes {lookback : UInt64} {failure : Option Failure} (h : Calm l) :
    ∀ e ∈ l.getLast?, Concludes known lookback e failure := by
  intro e he slotOf hslotOf
  rw [h e he] at hslotOf
  cases hslotOf

theorem fails_of_calm {lookback : UInt64} {e : Failure} (h : Asked known l) (calm : Calm l) :
    Fails known lookback e l :=
  ⟨h, calm.concludes⟩

section Located

variable (hG : ∀ l, Asked known l → Calm l → G l) {lookback : UInt64}

include hG

/-- From what has been read, a slot is computed with the configuration, and blocks are looked for
from there on. -/
theorem records_search {c : BeaconConfig} {e : ConfigEvent}
    {slotOf : BeaconConfig → Except Fault UInt64} (he : e.slotOf? = some slotOf)
    (hl : Ready known c l) (calm : Calm l) :
    (Task.ofFaulty (slotOf c) : Task Query UInt64).Records client beacon known G
      (LeadsTo client beacon known G (Clock.latestProposedBlock · lookback)
        (Located known lookback)) (l ++ [e]) := by
  have read : Ready known c (l ++ [e]) :=
    hl.concat (by cases e <;> first | rfl | cases he) (by rintro rfl; cases he) calm.follows
  have concludes (failure : Failure) (h : failure = noBlock lookback (slotOf c)) :
      Located known lookback (.error failure) (l ++ [e]) := by
    refine ⟨read.toAsked, fun e' he' slotOf' hslotOf' => ⟨c, read.told, ?_⟩⟩
    rw [List.getLast?_concat, Option.mem_some] at he'
    rw [← he', he, Option.some_inj] at hslotOf'
    rw [h, hslotOf']
  cases hslot : slotOf c with
  | error fault =>
      refine .done (concludes _ ?_)
      rw [hslot]
      rfl
  | ok slot =>
      refine .done
        (records_latestProposedBlock (P := Ready known c) ?_ ?_ ?_ ?_ slot lookback read ?_ ?_)
      · exact fun l slot hl hlast => hl.concat rfl (by simp) hlast
      · exact fun l hl calm => hG l hl.toAsked calm
      · exact fun block l hl calm =>
          ⟨⟨c, hl.concat rfl (by simp) calm.follows⟩, calm_concat l rfl⟩
      · exact fun e l hl calm => fails_of_calm hl.toAsked calm
      · intro e' he' slotOf' hslotOf'
        rw [List.getLast?_concat, Option.mem_some] at he'
        rw [← he', he, Option.some_inj] at hslotOf'
        exact ⟨c, slot, read.told, hslotOf' ▸ hslot, rfl⟩
      · exact concludes _ (by rw [hslot])

variable (hl : (∃ c, Ready known c l) ∨ Untouched known l) (calm : Calm l)

include hl calm

theorem records_headBlock (settings : Settings) :
    (Request.headBlock settings).Records client beacon known G
      (Located known settings.maxSlotLookback) l := by
  refine .bind (records_beaconConfig hl calm hG (fun c l hl calm => ?_)
    fun e l _ _ hl calm => fails_of_calm hl calm)
  refine .bind (.bind (.context (.ask_read trivial rfl (hG l hl.toAsked calm) fun r => ?_)))
  cases r with
  | error e => exact (List.append_nil l).symm ▸ fails_of_calm hl.toAsked calm
  | ok header => exact records_search hG (e := .timeRead header) rfl hl calm

theorem records_latestFinalizedBlock (lookback : UInt64) :
    Task.Records client beacon known G (do
      Clock.latestFinalizedBlock (← Request.beaconConfig) lookback) (Located known lookback) l := by
  refine .bind (records_beaconConfig hl calm hG (fun c l hl calm => ?_)
    fun e l _ _ hl calm => fails_of_calm hl calm)
  refine .bind (.context (.ask_read trivial rfl (hG l hl.toAsked calm) fun r => ?_))
  cases r with
  | error e => exact (List.append_nil l).symm ▸ fails_of_calm hl.toAsked calm
  | ok head => exact .bind (records_search hG (e := .epochRead head) rfl hl calm)

/-- The execution block of a beacon block comes with the configuration that is known then. -/
theorem records_executionBlock (block : BeaconBlock)
    {Q : Outcome (BeaconConfig × UInt64) → List ConfigEvent → Prop}
    (hok : ∀ c number l, Ready known c l → Calm l → Q (.ok (c, number)) l)
    (herror : ∀ e l, Asked known l → Calm l → Q (.error e) l) :
    (Request.executionBlock block).Records client beacon known G Q l := by
  refine .bind (records_beaconConfig hl calm hG (fun c l hl calm => ?_)
    fun e l _ _ hl calm => herror e l hl calm)
  split
  · exact .done (hok c _ l hl calm)
  · exact .done (herror _ l hl.toAsked calm)

end Located

/-! ## Requests -/

theorem reading_quiet (number : UInt64) : Reading Query.Quiet number where
  execution q hq := by
    cases q with
    | latestBlock => cases hq
    | _ => exact ⟨trivial, rfl, fun _ => rfl⟩
  countBatch := ⟨trivial, rfl, fun _ => rfl⟩

section Requests

variable {lookback : UInt64} {request : SessionRequest α}

/-- A request that waits keeps to what it should. -/
theorem ConfigEvent.Orderly.waits (h : Orderly known l) (calm : Calm l)
    (hasks : known = none →
      (request.startsWithConfig = true ∨ ∃ block, .blockFound block ∈ l) → .asked ∈ l) :
    Visit.UsesFirst known lookback ⟨request, none, l⟩ where
  atMostOnce := h.once
  notAgain := h.notAgain
  asksAgain := hasks
  fails h := absurd rfl h
  shows _ h := by cases h
  follows := h.follows
  concludes := calm.concludes

theorem ConfigEvent.Asked.waits (h : Asked known l) (calm : Calm l) :
    Visit.UsesFirst known lookback ⟨request, none, l⟩ :=
  h.toOrderly.waits calm fun hknown _ => h.asked hknown

/-- It may also fail then. -/
theorem Visit.UsesFirst.fail (h : UsesFirst known lookback ⟨request, none, l⟩)
    (hrequest : ¬ request.IsConfig) (e : Failure) :
    UsesFirst known lookback ⟨request, some (.error e), l⟩ where
  atMostOnce := h.atMostOnce
  notAgain := h.notAgain
  asksAgain := h.asksAgain
  fails _ hconfig := absurd hconfig hrequest
  shows _ h := by cases h
  follows := h.follows
  concludes e' he' slotOf hslotOf := by
    obtain ⟨c, -, hc⟩ := h.concludes e' he' slotOf hslotOf
    cases hc

theorem Fails.usesFirst {e : Failure} (h : Fails known lookback e l)
    (hrequest : ¬ request.IsConfig) :
    Visit.UsesFirst known lookback ⟨request, some (.error e), l⟩ where
  atMostOnce := h.1.once
  notAgain := h.1.notAgain
  asksAgain hknown _ := h.1.asked hknown
  fails _ hconfig := absurd hconfig hrequest
  shows _ h := by cases h
  follows := h.1.follows
  concludes := h.2

theorem ConfigEvent.Ready.usesFirst {c : BeaconConfig} (h : Ready known c l) (calm : Calm l)
    {a : α} (ha : request.Shows c a) :
    Visit.UsesFirst known lookback ⟨request, some (.ok a), l⟩ where
  atMostOnce := h.once
  notAgain := h.notAgain
  asksAgain hknown _ := h.asked hknown
  fails h := absurd rfl h
  shows a' h' := by
    cases h'
    exact ⟨c, h.told, ha⟩
  follows := h.follows
  concludes := calm.concludes

/-- A block shows no configuration, so whatever a request for one comes to is in order. -/
theorem usesFirst_of_located (request : SessionRequest BeaconBlock)
    (hrequest : ¬ request.IsConfig) (hshows : ∀ c block, request.Shows c block)
    {r : Outcome BeaconBlock} (h : Located known lookback r l) :
    Visit.UsesFirst known lookback ⟨request, some r, l⟩ := by
  cases r with
  | error e => exact h.usesFirst hrequest
  | ok block =>
      obtain ⟨⟨c, ready⟩, calm⟩ := h
      exact ready.usesFirst calm (hshows c block)

end Requests

section Rest

variable {lookback : UInt64} (hl : (∃ c, Ready known c l) ∨ Untouched known l) (calm : Calm l)

include hl calm

/-- After the beacon block, a request learns the configuration if it does not know it yet, and asks
for nothing else that is recorded. -/
theorem records_loaded (request : SessionRequest α) (hrequest : ¬ request.IsConfig)
    (storage : Address) (block : BeaconBlock)
    {t : BeaconConfig × UInt64 → Registry → Task Query α}
    (ht : ∀ c number registry l, Ready known c l → Calm l →
      (t (c, number) registry).Serves client beacon known lookback request l) :
    (Request.executionBlock block >>= fun c => Registry.load storage c.2 >>= t c).Serves client
      beacon known lookback request l := by
  refine .bind (records_executionBlock (fun l hl calm => hl.waits calm) hl calm block
    (fun c number l hl calm => ?_) fun e l hl calm => (hl.waits calm).fail hrequest e)
  have waits : Visit.UsesFirst known lookback ⟨request, none, l⟩ := hl.toAsked.waits calm
  exact .quiet_bind ((reading_quiet number).asks_load storage) waits
    (fun e => waits.fail hrequest e) fun registry => ht c number registry l hl calm

theorem records_snapshotAt (request : SessionRequest Snapshot) (hrequest : ¬ request.IsConfig)
    (hshows : ∀ c snapshot, snapshot.config = c → request.Shows c snapshot) (storage : Address)
    (block : BeaconBlock) :
    (Request.snapshotAt storage block).Serves client beacon known lookback request l := by
  refine records_loaded hl calm request hrequest storage block fun c number registry l hl calm => ?_
  have waits : Visit.UsesFirst known lookback ⟨request, none, l⟩ := hl.toAsked.waits calm
  have fails := fun e => waits.fail hrequest e
  have reading := reading_quiet number
  refine .quiet_bind ⟨reading.asks_assembleAll registry,
    reading.asks_totalEffectiveRplStake registry⟩ waits fails fun _ => ?_
  refine .quiet_bind ⟨trivial, rfl, fun _ => rfl⟩ waits fails fun _ => ?_
  exact .done (hl.usesFirst calm (hshows c _ rfl))

/-- A request of the queue shows no configuration, so whatever it comes to is in order. -/
theorem records_queue (request : SessionRequest α) (hrequest : ¬ request.IsConfig)
    (hshows : ∀ c a, request.Shows c a) (storage : Address) (block : BeaconBlock)
    {body : Registry → UInt64 → Task Query α}
    (hbody : ∀ registry number, (body registry number).Asks .any Query.Quiet) :
    (Request.executionBlock block >>= fun c =>
      Registry.load storage c.2 >>= fun registry => body registry c.2).Serves client beacon known
        lookback request l := by
  refine records_loaded hl calm request hrequest storage block fun c number registry l hl calm => ?_
  have waits : Visit.UsesFirst known lookback ⟨request, none, l⟩ := hl.toAsked.waits calm
  refine .quiet (hbody registry number) waits fun r => ?_
  cases r with
  | error e => exact waits.fail hrequest e
  | ok a => exact hl.usesFirst calm (hshows c a)

theorem records_rest (request : PoolRequest α) (storage : Address) (block : BeaconBlock) :
    (request.rest storage block).Serves client beacon known lookback (.pool request) l := by
  have reading := reading_quiet
  cases request with
  | headState =>
      exact records_snapshotAt hl calm (.pool .headState) id (fun _ _ h => h) storage block
  | stateForSlot slot =>
      exact records_snapshotAt hl calm (.pool (.stateForSlot slot)) id (fun _ _ h => h) storage
        block
  | headStateForNode address =>
      refine records_loaded hl calm (.pool (.headStateForNode address)) id storage block
        fun c number registry l hl calm => ?_
      have waits : Visit.UsesFirst known lookback ⟨.pool (.headStateForNode address), none, l⟩ :=
        hl.toAsked.waits calm
      refine .quiet_bind ⟨(reading number).asks_assembleOne registry address,
        (reading number).asks_totalEffectiveRplStake registry⟩ waits (fun e => waits.fail id e)
        fun _ => ?_
      exact .done (hl.usesFirst calm rfl)
  | queuePosition minipool =>
      exact records_queue hl calm (.pool (.queuePosition minipool)) id (fun _ _ => trivial) storage
        block fun registry number => (reading number).asks_atBlock registry _
  | minipoolAtQueuePosition position =>
      exact records_queue hl calm (.pool (.minipoolAtQueuePosition position)) id
        (fun _ _ => trivial) storage block
        fun registry number => (reading number).asks_atBlock registry _
  | queueStatus =>
      exact records_queue hl calm (.pool .queueStatus) id (fun _ _ => trivial) storage block
        fun registry number => (reading number).asks_status registry

end Rest

/-- Nothing has been recorded before a request begins. -/
theorem untouched_nil (known : Option BeaconConfig) : Untouched known [] where
  once := Nat.zero_le 1
  notAgain _ := List.not_mem_nil
  follows := .nil
  notAsked := List.not_mem_nil
  notTold := rfl

theorem calm_nil : Calm [] := fun _ h => by cases h

/-- The block of a slot is looked for before the configuration is needed. -/
theorem records_stateForSlot (settings : Settings) (storage : Address) (slot : UInt64) :
    (Clock.latestProposedBlock slot settings.maxSlotLookback >>=
      PoolRequest.rest storage (.stateForSlot slot)).Serves client beacon known
        settings.maxSlotLookback (.pool (.stateForSlot slot)) [] := by
  have waits {l : List ConfigEvent} (hl : Untouched known l ∧ ∀ block, .blockFound block ∉ l)
      (calm : Calm l) : Visit.UsesFirst known settings.maxSlotLookback
        ⟨.pool (.stateForSlot slot), none, l⟩ :=
    hl.1.toOrderly.waits calm fun _ h =>
      h.elim (fun h => by cases h) fun ⟨block, hblock⟩ => absurd hblock (hl.2 block)
  refine .bind (records_latestProposedBlock
    (P := fun l => Untouched known l ∧ ∀ block, .blockFound block ∉ l) ?_ ?_ ?_ ?_ slot _
    ⟨untouched_nil known, fun _ => List.not_mem_nil⟩ calm_nil.follows ?_)
  · intro l slot hl hlast
    exact ⟨hl.1.concat rfl (by simp) hlast, fun block => by simp [hl.2 block]⟩
  · exact fun l hl calm => waits hl calm
  · exact fun block l hl calm => records_rest (.inr (hl.1.concat rfl (by simp) calm.follows))
      (calm_concat l rfl) (.stateForSlot slot) storage block
  · exact fun e l hl calm => (waits hl calm).fail id e
  · exact (waits ⟨untouched_nil known, fun _ => List.not_mem_nil⟩ calm_nil).fail id _

variable (client beacon) in
/-- Every request, from its beginning on. -/
theorem records_task (settings : Settings) (storage : Address) (request : SessionRequest α) :
    (request.task settings storage).Serves client beacon known settings.maxSlotLookback request
      [] := by
  have fresh : (∃ c, Ready known c []) ∨ Untouched known [] := .inr (untouched_nil known)
  have hG {α : Type} (request : SessionRequest α) (l : List ConfigEvent) (hl : Asked known l)
      (calm : Calm l) : Visit.UsesFirst known settings.maxSlotLookback ⟨request, none, l⟩ :=
    hl.waits calm
  cases request with
  | beaconConfig =>
      refine records_beaconConfig fresh calm_nil (hG _) (fun c l hl calm => hl.usesFirst calm rfl)
        fun e l hknown answered hl calm => ?_
      exact
        { atMostOnce := hl.once
          notAgain := hl.notAgain
          asksAgain := fun hknown _ => hl.asked hknown
          fails := fun _ _ => ⟨hknown, answered⟩
          shows := fun _ h => by cases h
          follows := hl.follows
          concludes := calm.concludes }
  | latestBlock =>
      refine .within (fun l hl => hl.fail id _) ?_
      exact (records_headBlock (hG .latestBlock) fresh calm_nil settings).imp
        fun r l hl => usesFirst_of_located .latestBlock id (fun _ _ => trivial) hl
  | latestFinalizedBlock =>
      refine .within (fun l hl => hl.fail id _) ?_
      exact (records_latestFinalizedBlock (hG .latestFinalizedBlock) fresh calm_nil _).imp
        fun r l hl => usesFirst_of_located .latestFinalizedBlock id (fun _ _ => trivial) hl
  | pool request =>
      obtain ⟨name, htask⟩ := request.task_eq settings storage
      have head : (Request.headBlock settings >>= request.rest storage).Serves client beacon known
          settings.maxSlotLookback (.pool request) [] := by
        refine .bind ((records_headBlock (hG (.pool request)) fresh calm_nil settings).imp
          fun r l hl => ?_)
        cases r with
        | error e => exact hl.usesFirst id
        | ok block => exact records_rest (.inl hl.1) hl.2 request storage block
      rw [SessionRequest.task, htask]
      refine .within (fun l hl => hl.fail id _) ?_
      cases request with
      | stateForSlot slot => exact records_stateForSlot settings storage slot
      | _ => exact head

end Rules

/-! ## Runs -/

section Runs

variable {ε β : Type} (client : Service ExecutionQuery ε) (beacon : Service BeaconQuery β)
  (settings : Settings) (storage : Address)

/-- The runs of a session that knows no configuration at first, up to a moment at which no request
is under way. A request is run in order, or it is started and looked at for a while, and dropped if
it has not ended by then. -/
inductive Session.Runs : List Visit → Surroundings ε β → Prop where
  | new {s : Surroundings ε β} (h : s.session.config = none) : Runs [] s
  | inOrder {visits : List Visit} {s : Surroundings ε β} (h : Runs visits s) {α : Type}
      (request : SessionRequest α) {r : Outcome α} {last : Surroundings ε β × List ConfigEvent}
      (hrun : (request.task settings storage).run (.ofChainsRecorded client beacon) (s, [])
        = (r, last)) :
      Runs (visits ++ [⟨request, some r, last.2⟩]) last.1
  | inTime {visits : List Visit} {s : Surroundings ε β} (h : Runs visits s) {α : Type}
      (request : SessionRequest α) {x : Running Query α}
      {last : Surroundings ε β × List ConfigEvent}
      (hx : (request.task settings storage).ComesTo (.ofChainsRecorded client beacon) (s, []) x
        last) :
      Runs (visits ++ [⟨request, x.outcome?, last.2⟩]) last.1

/-- What is known after some requests: the first configuration that was told in them. -/
def Visit.told (visits : List Visit) : Option BeaconConfig :=
  ConfigEvent.first (visits.flatMap (·.events))

variable {client beacon settings storage}

theorem Visit.told_concat (visits : List Visit) (v : Visit) :
    told (visits ++ [v]) = (told visits).or (ConfigEvent.first v.events) := by
  simp [told]

/-- A session knows what it was told first, and every request of its run has used that. -/
structure Session.UsesFirst (lookback : UInt64) (visits : List Visit) (s : Surroundings ε β) :
    Prop where
  config : s.session.config = Visit.told visits
  each : ∀ before v after, visits = before ++ v :: after →
    v.UsesFirst (Visit.told before) lookback

/-- One more request. -/
theorem Session.UsesFirst.concat {lookback : UInt64} {visits : List Visit} {s : Surroundings ε β}
    (h : Session.UsesFirst lookback visits s) {α : Type} (request : SessionRequest α)
    (result : Option (Outcome α)) {last : Surroundings ε β × List ConfigEvent}
    (hlast : ∃ l, Recorded (Visit.told visits) l last ∧
      Visit.UsesFirst (Visit.told visits) lookback ⟨request, result, l⟩) :
    Session.UsesFirst lookback (visits ++ [⟨request, result, last.2⟩]) last.1 := by
  obtain ⟨l, ⟨rfl, config⟩, uses⟩ := hlast
  refine ⟨?_, fun before w after hvisits => ?_⟩
  · rw [Visit.told_concat]
    exact config
  rcases List.eq_nil_or_concat after with rfl | ⟨after', w', rfl⟩
  · obtain ⟨rfl, hw⟩ := List.append_inj' hvisits rfl
    cases hw
    exact uses
  · rw [List.concat_eq_append, ← List.cons_append, ← List.append_assoc] at hvisits
    exact h.each before w after' (List.append_inj' hvisits rfl).1

/-- Over any run of a session, however its chains answer and whenever they fail: a request asks for
the configuration once at most and never after it was told, one that needs it asks again after a
failure, and all configurations that are shown and all slots that are computed go back to the first
configuration that was told. -/
theorem Session.uses_first_config {visits : List Visit} {s : Surroundings ε β}
    (h : Session.Runs client beacon settings storage visits s) :
    Session.UsesFirst settings.maxSlotLookback visits s := by
  induction h with
  | new h => exact ⟨h, fun before v after hvisits => by simp at hvisits⟩
  | @inOrder visits s _ α request r last hrun ih =>
      have fresh : Recorded (Visit.told visits) [] (s, []) :=
        ⟨rfl, ih.config.trans Option.or_none.symm⟩
      have ended := (records_task client beacon settings storage request _ fresh).run
      rw [hrun] at ended
      exact ih.concat request _ ended
  | @inTime visits s _ α request x last hx ih =>
      have fresh : Recorded (Visit.told visits) [] (s, []) :=
        ⟨rfl, ih.config.trans Option.or_none.symm⟩
      have ensured := records_task client beacon settings storage request _ fresh
      refine ih.concat request _ ?_
      cases hr : x.outcome? with
      | none => exact ensured.waiting hx hr
      | some r => exact ensured.ended hx hr

end Runs

/-! ### After an outage -/

/-- A beacon chain that fails first, and then has another configuration each time it is asked. -/
def BeaconQuery.unsteady : {α : Type} → BeaconQuery α → Nat → Outcome α × Nat
  | _, .config, 0 => (.error (.error (.bare .sourceUnavailable)), 1)
  | _, .config, n + 1 => (.ok ⟨0, 12 * UInt64.ofNat (n + 1), 32⟩, n + 2)
  | _, q, n => (q.sample, n)

def Service.unsteady : Service BeaconQuery Nat where
  accept _ n := (n, 0)
  answer := BeaconQuery.unsteady
  permit _ := .ok ()

/-- The configuration is asked for in vain, then for the latest block, and needed once more. -/
def Visit.afterOutage : List Visit :=
  [⟨.beaconConfig, some (.error (.error (.bare .sourceUnavailable))), [.asked, .answered none]⟩,
    ⟨.latestBlock, some (.ok ⟨7, 0, some 7⟩),
      [.asked, .answered (some ⟨0, 12, 32⟩), .timeRead ⟨7, 84⟩, .slotAsked 7,
        .blockFound ⟨7, 0, some 7⟩]⟩,
    ⟨.beaconConfig, some (.ok ⟨0, 12, 32⟩), []⟩]

/-- The request after the one that failed has asked again, and what it was told has stayed. -/
theorem Session.uses_first_config_afterOutage :
    let known : Surroundings Unit Nat := ⟨(), 2, ⟨some ⟨0, 12, 32⟩, none, false⟩⟩
    Session.Runs (.fixed (ExecutionQuery.sample fun _ => 2)) .unsteady .default .zero
        Visit.afterOutage known ∧
      Session.UsesFirst Settings.default.maxSlotLookback Visit.afterOutage known := by
  intro known
  let service := Service.ofChainsRecorded (.fixed (ExecutionQuery.sample fun _ => 2)) .unsteady
  let failed : Surroundings Unit Nat := ⟨(), 1, .new false⟩
  have first : Request.beaconConfig.run service (⟨(), 0, .new false⟩, [])
      = (.error (.error (.bare .sourceUnavailable)), failed, [.asked, .answered none]) := rfl
  have second : (Request.latestBlock .default).run service (failed, [])
      = (.ok ⟨7, 0, some 7⟩, known,
          [.asked, .answered (some ⟨0, 12, 32⟩), .timeRead ⟨7, 84⟩, .slotAsked 7,
            .blockFound ⟨7, 0, some 7⟩]) := rfl
  have third : Request.beaconConfig.run service (known, [])
      = (.ok ⟨0, 12, 32⟩, known, []) := rfl
  have runs : Session.Runs (.fixed (ExecutionQuery.sample fun _ => 2)) .unsteady .default .zero
      Visit.afterOutage known :=
    .inOrder (.inOrder (.inOrder (.new rfl) .beaconConfig first) .latestBlock second)
      .beaconConfig third
  exact ⟨runs, Session.uses_first_config runs⟩

end StakeSnapshot
