import StakeSnapshot.Proofs.Answers

/-!
# Learning the configuration

A session asks the beacon chain for its configuration once and remembers it. To a request it makes
no difference whether that has happened yet: what the request comes to while the session may be
learning the configuration (`Answers.replies`), it also comes to on surroundings that knew it from
the start (`Answers.learned`). This is said by `Answers.Learns`, for every task that does not touch
the configuration but by `Request.beaconConfig`.
-/

namespace StakeSnapshot

/-- The question neither reads nor changes the configuration that the session knows. -/
def Query.LeavesConfig : {α : Type} → Query α → Prop
  | _, .session (.knownConfig) => False
  | _, .session (.rememberConfig _) => False
  | _, _ => True

theorem reading_leavesConfig (block : UInt64) : Reading Query.LeavesConfig block :=
  ⟨fun _ _ => trivial, trivial⟩

namespace Answers

variable (a : Answers)

/-- The same answers when the configuration has been asked for. -/
def learned : Answers := { a with known := a.known.or (a.beacon .config).toOption }

/-- What chains and a session reply that may learn the configuration at any moment, and whose
permits may have been withdrawn. -/
def replies (closed : Bool) : Replies Query where
  answer q o := o = a.query q ∨ o = a.learned.query q
  refusal _ := closed = true
  grants := closed = false

/-- If the session is told a configuration, it is the one that the beacon chain has. -/
def Remembers : {α : Type} → Query α → Prop
  | _, .session (.rememberConfig config) => a.learned.known = some config
  | _, _ => True

variable {a} {ε β : Type} {I : ε → Prop} {J : β → Prop} {closed : Bool}

/-- Surroundings that give these answers, and whose session knows no other configuration than the
one that it may learn. -/
structure LearnIn (a : Answers) (I : ε → Prop) (J : β → Prop) (closed : Bool)
    (s : Surroundings ε β) : Prop where
  execution : I s.execution
  beacon : J s.beacon
  known : s.session.config = a.known ∨ s.session.config = a.learned.known
  closed : s.session.closed = closed

/-- Two steady chains make surroundings that reply as expected, as long as the session is told no
other configuration to remember. -/
theorem matches_learning {client : Service ExecutionQuery ε} {beacon : Service BeaconQuery β}
    {P : {α : Type} → Query α → Prop}
    (hclient : client.Steady a.execution (fun q => P (.execution q)) I)
    (hbeacon : beacon.Steady a.beacon (fun q => P (.beacon q)) J)
    (hremember : ∀ config, P (.session (.rememberConfig config)) → a.learned.known = some config)
    (closed : Bool) :
    (Service.ofChains client beacon).Matches (.ofChains client beacon) (a.replies closed) P
      fun s s' => s = s' ∧ a.LearnIn I J closed s where
  accept q s _ hq hs := by
    obtain ⟨rfl, hs⟩ := hs
    refine ⟨rfl, ?_⟩
    cases q with
    | execution q => exact ⟨hclient.accept q hq hs.execution, hs.beacon, hs.known, hs.closed⟩
    | beacon q => exact ⟨hs.execution, hbeacon.accept q hq hs.beacon, hs.known, hs.closed⟩
    | session q => exact hs
  outcome _ _ _ _ hs := by rw [hs.1]
  answer q s _ hq hs := by
    obtain ⟨rfl, hs⟩ := hs
    refine ⟨rfl, ?_⟩
    cases q with
    | execution q => exact ⟨hclient.answer q hq hs.execution, hs.beacon, hs.known, hs.closed⟩
    | beacon q => exact ⟨hs.execution, hbeacon.answer q hq hs.beacon, hs.known, hs.closed⟩
    | session q =>
        cases q with
        | rememberConfig config =>
            exact ⟨hs.execution, hs.beacon, .inr (hremember config hq).symm, hs.closed⟩
        | _ => exact ⟨hs.execution, hs.beacon, hs.known, hs.closed⟩
  reply q s _ hq hs := by
    obtain ⟨rfl, hs⟩ := hs
    cases q with
    | execution q => exact .inl (hclient.outcome q hq hs.execution)
    | beacon q => exact .inl (hbeacon.outcome q hq hs.beacon)
    | session q =>
        cases q with
        | knownConfig => exact hs.known.imp (congrArg Except.ok) (congrArg Except.ok)
        | _ => exact .inl rfl
  permit hs := by rw [hs.1]
  grant {s _} hs hp := by
    rw [replies, ← hs.2.closed]
    cases h : s.session.closed with
    | false => rfl
    | true => simp [Service.ofChains, Session.permit, h] at hp
  refusal {s _ _} hs hp := by
    rw [replies, ← hs.2.closed]
    cases h : s.session.closed with
    | false => simp [Service.ofChains, Session.permit, h] at hp
    | true => rfl

theorem learned_query {α : Type} {q : Query α} (hq : q.LeavesConfig) :
    a.learned.query q = a.query q := by
  cases q with
  | session q =>
      cases q with
      | knownConfig => exact hq.elim
      | _ => rfl
  | _ => rfl

/-- What the task comes to while the configuration is being learned, it also comes to when the
configuration has been learned before. -/
structure Learns (a : Answers) (closed : Bool) {α : Type} (t : Task Query α) : Prop where
  asks : t.Asks (a.replies closed) a.Remembers
  mayEnd (o : Outcome α) : closed = false → t.MayEnd (a.replies closed) o →
    t.MayEnd (.fixed a.learned.query) o

variable {α α' : Type}

theorem learns_of_asks {t : Task Query α} (h : t.Asks (a.replies closed) Query.LeavesConfig) :
    a.Learns closed t where
  asks := h.imp fun q hq => by
    cases q with
    | session q =>
        cases q with
        | rememberConfig config => exact hq.elim
        | _ => trivial
    | _ => trivial
  mayEnd o hclosed := by
    refine Task.MayEnd.of_asks (P := Query.LeavesConfig) (fun q hq o ho => ?_) (fun e he => ?_)
      (fun _ => trivial) h
    · exact ho.elim (·.trans (learned_query hq).symm) id
    · rw [hclosed] at he
      cases he

theorem Learns.bind {t : Task Query α} {f : α → Task Query α'} (ht : a.Learns closed t)
    (hf : ∀ v, a.Learns closed (f v)) : a.Learns closed (t >>= f) where
  asks := ht.asks.bind fun v => (hf v).asks
  mayEnd o hclosed ho := by
    obtain ⟨r, hr, ho⟩ := ho
    refine ⟨r, ht.mayEnd r hclosed hr, ?_⟩
    cases r with
    | ok v => exact (hf v).mayEnd o hclosed ho
    | error e => exact ho

theorem learned_of_unknown (h : a.known = none) :
    a.learned.known = (a.beacon .config).toOption := by
  rw [learned, h, Option.none_or]

/-- A session that may be learning the configuration either knows it, or the beacon chain has still
to be asked for it. -/
theorem mayEnd_knownConfig {r : Outcome (Option BeaconConfig)}
    (h : Task.MayEnd (a.replies closed) (.ask (.session .knownConfig)) r) :
    (∃ config, r = .ok (some config) ∧ a.learned.known = some config) ∨
      r = .ok none ∧ a.known = none := by
  have unknown : a.learned.known = none → a.known = none := fun h =>
    (Option.or_eq_none_iff.mp h).1
  rcases h with rfl | rfl
  · cases h : a.known with
    | none => exact .inr ⟨congrArg Except.ok h, rfl⟩
    | some config =>
        refine .inl ⟨config, congrArg Except.ok h, ?_⟩
        rw [learned, h, Option.some_or]
  · cases h : a.learned.known with
    | none => exact .inr ⟨congrArg Except.ok h, unknown h⟩
    | some config => exact .inl ⟨config, congrArg Except.ok h, rfl⟩

theorem learns_beaconConfig : a.Learns closed Request.beaconConfig where
  asks := by
    refine (Task.asks_bind _ _).mpr ⟨trivial, fun known hknown => ?_⟩
    rcases mayEnd_knownConfig hknown with ⟨config, h, -⟩ | ⟨h, unknown⟩
    · cases h
      trivial
    · cases h
      refine (Task.asks_bind _ _).mpr ⟨trivial, fun config hconfig => ?_⟩
      have told : a.beacon .config = .ok config := hconfig.elim Eq.symm Eq.symm
      have learned : a.learned.known = some config := by
        rw [learned_of_unknown unknown, told]
        rfl
      exact Task.Asks.bind learned fun _ => trivial
  mayEnd o _ ho := by
    obtain ⟨r, hr, ho⟩ := ho
    -- What the session does not know yet, it will have learned from the beacon chain.
    rcases mayEnd_knownConfig hr with ⟨config, rfl, known⟩ | ⟨rfl, unknown⟩
    · exact ⟨_, congrArg Except.ok known.symm, ho⟩
    · obtain ⟨r, hr, ho⟩ := ho
      have told : r = a.beacon .config := hr.elim id id
      have known := learned_of_unknown unknown
      rw [← told] at known
      cases r with
      | error e => exact ⟨_, congrArg Except.ok known.symm, _, told, ho⟩
      | ok config =>
          obtain ⟨r, hr, ho⟩ := ho
          have noted : r = .ok () := hr.elim id id
          cases noted
          exact ⟨_, congrArg Except.ok known.symm, ho⟩

/-! ## The requests -/

theorem learns_headBlock (settings : Settings) : a.Learns closed (Request.headBlock settings) := by
  refine learns_beaconConfig.bind fun config => learns_of_asks ?_
  refine Task.Asks.bind (Task.Asks.bind ?_ fun _ => trivial) fun slot => ?_
  · exact (Task.asks_context _ _).mpr trivial
  · exact asks_latestProposedBlock (fun _ => trivial) slot _

theorem learns_executionBlock (block : BeaconBlock) :
    a.Learns closed (Request.executionBlock block) := by
  refine learns_beaconConfig.bind fun config => learns_of_asks ?_
  split <;> trivial

theorem learns_load (storage : Address) (block : UInt64) :
    a.Learns closed (Registry.load storage block) :=
  learns_of_asks ((reading_leavesConfig block).asks_load storage)

theorem learns_snapshotAt (storage : Address) (block : BeaconBlock) :
    a.Learns closed (Request.snapshotAt storage block) := by
  refine (learns_executionBlock block).bind fun (config, number) => ?_
  refine (learns_load storage number).bind fun registry => learns_of_asks ?_
  have reading := reading_leavesConfig number
  refine Task.Asks.bind ⟨reading.asks_assembleAll registry,
    reading.asks_totalEffectiveRplStake registry⟩ fun _ => ?_
  exact Task.Asks.bind (Q := Query) trivial fun _ => trivial

end Answers

end StakeSnapshot
