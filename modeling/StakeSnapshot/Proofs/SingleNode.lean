import StakeSnapshot.Proofs.Configuration
import StakeSnapshot.Proofs.Fetch.Records

/-!
# The snapshot of a single node

A full snapshot reads all nodes and minipools in batches and gives each node the minipools that
name it. The snapshot of one node reads its fields with single calls, and the minipools that the
registry lists for it. On chains that keep to their answers both come to the same record of the
node, and to the same minipools up to their order (`Request.headStateForNode_agrees`).
-/

namespace StakeSnapshot

open StakeSnapshot.Task

section Assemble

variable {replies : Replies Query} (registry : Registry) (block : UInt64)

/-- Two things that are fetched at once, and a result that is made of both. -/
theorem mayEnd_assemble_ok {α β γ : Type} (t : Task Query α) (u : Task Query β)
    (make : α → β → Except Error γ) (c : γ) (y : β) :
    MayEnd replies (.both t u >>= fun p => .ofExcept (make p.1 p.2) >>= fun c => pure (c, p.2))
        (.ok (c, y)) ↔
      ∃ x, MayEnd replies t (.ok x) ∧ MayEnd replies u (.ok y) ∧ make x y = .ok c := by
  rw [mayEnd_bind_ok]
  constructor
  · rintro ⟨⟨x, y'⟩, ⟨hx, hy⟩, h⟩
    obtain ⟨c', hc, hend⟩ := (mayEnd_bind_ok _ _ _).mp h
    cases hend
    exact ⟨x, hx, hy, (mayEnd_ofExcept_ok _ _).mp hc⟩
  · rintro ⟨x, hx, hy, hc⟩
    refine ⟨(x, y), ⟨hx, hy⟩, (mayEnd_bind_ok _ _ _).mpr ⟨c, ?_, rfl⟩⟩
    exact (mayEnd_ofExcept_ok _ _).mpr hc

theorem mayEnd_assembleAll_ok (nodes : List Node) (minipools : List Minipool) :
    MayEnd replies (Request.assembleAll registry block) (.ok (nodes, minipools)) ↔
      ∃ fetched, MayEnd replies (Fetch.allNodes registry block) (.ok fetched) ∧
        MayEnd replies (Fetch.allMinipools registry block) (.ok minipools) ∧
        settleNodes fetched minipools = .ok nodes :=
  mayEnd_assemble_ok _ _ settleNodes nodes minipools

theorem mayEnd_assembleOne_ok (address : Address) (n : Node) (minipools : List Minipool) :
    MayEnd replies (Request.assembleOne registry block address) (.ok (n, minipools)) ↔
      ∃ fetched, MayEnd replies (Fetch.node registry block address) (.ok fetched) ∧
        MayEnd replies (Fetch.nodeMinipools registry block address) (.ok minipools) ∧
        fetched.settled minipools = .ok n :=
  mayEnd_assemble_ok _ _ Node.settled n minipools

variable {a : Answers} {nodes : List Node} {minipools : List Minipool} {own : List Address}

/-- A node that is fetched alone comes out as it does among all nodes. -/
theorem assembleOne_of_assembleAll (hcalls : ExecutionQuery.BatchesCalls a.execution)
    (hbalances : ExecutionQuery.BatchesBalances a.execution)
    (h : MayEnd (.fixed a.query) (Request.assembleAll registry block) (.ok (nodes, minipools)))
    (hnodup : (nodes.map Node.address).Nodup) {n : Node} (hn : n ∈ nodes)
    (hlists : Fetch.Lists a.execution registry block n.address own)
    (hown : own.Perm ((minipools.filter (·.nodeAddress = n.address)).map Minipool.address))
    (hmemory : 32 * minipools.length ≤ Memory.limit) :
    ∃ ms, MayEnd (.fixed a.query) (Request.assembleOne registry block n.address) (.ok (n, ms)) ∧
      ms.Perm (minipools.filter (·.nodeAddress = n.address)) ∧
      (own = (minipools.filter (·.nodeAddress = n.address)).map Minipool.address →
        ms = minipools.filter (·.nodeAddress = n.address)) := by
  obtain ⟨fetched, hfetched, hminipools, hsettled⟩ := (mayEnd_assembleAll_ok _ _ _ _).mp h
  rw [settleNodes_address hsettled] at hnodup
  obtain ⟨raw, hraw, hsettle⟩ := Fetch.forall₂_mem_right (settleNodes_ok hnodup hsettled) hn
  have hnode := Fetch.node_of_mem_allNodes registry block hcalls hbalances hfetched hraw
  rw [← Node.settled_address hsettle] at hsettle hnode
  generalize hof : minipools.filter (·.nodeAddress = n.address) = theirs at *
  have hrecords : List.Forall₂ (Fetch.MinipoolAt a registry block)
      (theirs.map Minipool.address) theirs := by
    rw [List.forall₂_map_left_iff, List.forall₂_same]
    intro m hm
    rw [← hof] at hm
    exact Fetch.minipoolAt_of_mem_allMinipools registry block hcalls hminipools
      (List.mem_of_mem_filter hm)
  have hbound : 32 * own.length ≤ Memory.limit := by
    have hlength : own.length = theirs.length := by rw [hown.length_eq, List.length_map]
    have hle : theirs.length ≤ minipools.length := by
      rw [← hof]
      exact List.length_filter_le ..
    omega
  have hone : ∀ ms, List.Forall₂ (Fetch.MinipoolAt a registry block) own ms → ms.Perm theirs →
      MayEnd (.fixed a.query) (Request.assembleOne registry block n.address) (.ok (n, ms)) := by
    intro ms hms hperm
    refine (mayEnd_assembleOne_ok _ _ _ _ _).mpr ⟨raw, hnode, ?_, ?_⟩
    · exact Fetch.mayEnd_nodeMinipools registry block hcalls hlists hbound hms
    · rw [raw.settled_perm hperm]
      exact hsettle
  -- The records follow the order in which the registry lists their addresses.
  by_cases horder : own = theirs.map Minipool.address
  · exact ⟨theirs, hone theirs (horder ▸ hrecords) (.refl _), .refl _, fun _ => rfl⟩
  · obtain ⟨ms, hms, hperm⟩ := List.perm_comp_forall₂ hown hrecords
    exact ⟨ms, hone ms hms hperm, hperm, fun h => absurd h horder⟩

end Assemble

/-! ## Failures are passed on -/

section Strict

theorem strict_beaconConfig : Request.beaconConfig.Strict := by
  refine (strict_ask _).bind fun known => ?_
  cases known with
  | some config => trivial
  | none => exact (strict_ask _).bind fun _ => (strict_ask _).bind fun _ => trivial

theorem strict_findBlock (count : Nat) :
    ∀ start : UInt64, (Clock.findBlock start count).Strict := by
  induction count with
  | zero => intro _; trivial
  | succ count ih =>
      intro start
      refine (strict_ask _).bind fun found => ?_
      cases found with
      | none => exact ih (start - 1)
      | some block => trivial

theorem strict_headBlock (settings : Settings) : (Request.headBlock settings).Strict := by
  refine strict_beaconConfig.bind fun config => ?_
  have slot : (Clock.headSlot config).Strict := ((strict_ask _).context _).bind fun _ => trivial
  refine slot.bind fun slot => (strict_findBlock _ slot).bind fun found => ?_
  cases found <;> trivial

theorem strict_executionBlock (block : BeaconBlock) : (Request.executionBlock block).Strict := by
  refine strict_beaconConfig.bind fun config => ?_
  split <;> trivial

theorem strict_load (storage : Address) (block : UInt64) :
    (Registry.load storage block).Strict :=
  ((strict_ask _).context _).bind fun _ => trivial

theorem strict_nodeStateAt (storage address : Address) (block : BeaconBlock) :
    (Request.nodeStateAt storage address block).Strict := by
  refine (strict_executionBlock block).bind fun (config, number) => ?_
  refine (strict_load storage number).bind fun registry => ?_
  have one : (Request.assembleOne registry number address).Strict :=
    Strict.bind ⟨Fetch.strict_node registry number address,
      Fetch.strict_nodeMinipools registry number address⟩ fun _ =>
        Strict.bind trivial fun _ => trivial
  exact Strict.bind ⟨one, strict_read _ _ _ _⟩ fun _ => trivial

end Strict

/-! ## The two requests -/

/-- The error of a request that was given up. -/
def Request.late (settings : Settings) (name : String) : Error :=
  .of .sourceUnavailable
    s!"{name} timed out after {durationText settings.requestTimeoutSecs}"

/-- A request comes to an outcome with the property `P`, in order, and in time unless it is given
up. -/
structure Request.ComesTo {σ α : Type} (service : Service Query σ) (s : σ) (late : Error)
    (request : Task Query α) (P : Outcome α → Prop) : Prop where
  run : P (request.run service s).1
  ends : ∀ last, request.EndsIn service s last → P last.1 ∨ last.1 = .error (.error late)

theorem Request.ComesTo.imp {σ α : Type} {service : Service Query σ} {s : σ} {late : Error}
    {request : Task Query α} {P P' : Outcome α → Prop} (h : ComesTo service s late request P)
    (himp : ∀ o, P o → P' o) : ComesTo service s late request P' :=
  ⟨himp _ h.run, fun last hlast => (h.ends last hlast).imp_left (himp last.1)⟩

theorem Request.headState_eq (settings : Settings) (storage : Address) :
    headState settings storage =
      .within settings.requestTimeoutSecs.toNat (late settings "head state")
        (headBlock settings >>= snapshotAt storage) := rfl

theorem Request.headStateForNode_eq (settings : Settings) (storage address : Address) :
    headStateForNode settings storage address =
      .within settings.requestTimeoutSecs.toNat (late settings "node state")
        (headBlock settings >>= nodeStateAt storage address) := rfl

theorem mayEnd_snapshotAt_ok {replies : Replies Query} {storage : Address} {block : BeaconBlock}
    {full : Snapshot} (h : MayEnd replies (Request.snapshotAt storage block) (.ok full)) :
    full.slot = block.slot ∧
      MayEnd replies (Request.executionBlock block) (.ok (full.config, full.executionBlock)) ∧
      ∃ registry, MayEnd replies (Registry.load storage full.executionBlock) (.ok registry) ∧
        MayEnd replies (Request.assembleAll registry full.executionBlock)
          (.ok (full.nodes, full.minipools)) ∧
        MayEnd replies (Request.totalEffectiveRplStake registry full.executionBlock)
          (.ok full.totalEffectiveRplStake) := by
  obtain ⟨⟨config, number⟩, hblock, h⟩ := (mayEnd_bind_ok _ _ _).mp h
  obtain ⟨registry, hregistry, h⟩ := (mayEnd_bind_ok _ _ _).mp h
  obtain ⟨⟨⟨nodes, minipools⟩, stake⟩, ⟨hassemble, hstake⟩, h⟩ := (mayEnd_bind_ok _ _ _).mp h
  obtain ⟨_, -, h⟩ := (mayEnd_bind_ok _ _ _).mp h
  cases h
  exact ⟨rfl, hblock, registry, hregistry, hassemble, hstake⟩

theorem mayEnd_nodeStateAt_ok {replies : Replies Query} {storage address : Address}
    {block : BeaconBlock} {config : BeaconConfig} {number : UInt64} {registry : Registry}
    {n : Node} {minipools : List Minipool} {stake : Amount}
    (hblock : MayEnd replies (Request.executionBlock block) (.ok (config, number)))
    (hregistry : MayEnd replies (Registry.load storage number) (.ok registry))
    (hone : MayEnd replies (Request.assembleOne registry number address) (.ok (n, minipools)))
    (hstake : MayEnd replies (Request.totalEffectiveRplStake registry number) (.ok stake)) :
    MayEnd replies (Request.nodeStateAt storage address block)
      (.ok ⟨number, block.slot, config, stake, [n], minipools⟩) := by
  refine (mayEnd_bind_ok _ _ _).mpr ⟨_, hblock, ?_⟩
  refine (mayEnd_bind_ok _ _ _).mpr ⟨_, hregistry, ?_⟩
  exact (mayEnd_bind_ok _ _ _).mpr ⟨((n, minipools), stake), ⟨hone, hstake⟩, rfl⟩

/-- A full snapshot with a node needs a permit. -/
theorem grants_of_snapshotAt {replies : Replies Query} {storage : Address} {block : BeaconBlock}
    {full : Snapshot} (h : MayEnd replies (Request.snapshotAt storage block) (.ok full)) {n : Node}
    (hn : n ∈ full.nodes) : replies.grants := by
  obtain ⟨-, -, registry, -, hassemble, -⟩ := mayEnd_snapshotAt_ok h
  obtain ⟨fetched, hfetched, -, hsettled⟩ := (mayEnd_assembleAll_ok _ _ _ _).mp hassemble
  have haddress : n.address ∈ fetched.map Node.address := by
    rw [← settleNodes_address hsettled]
    exact List.mem_map_of_mem hn
  obtain ⟨m, hm, -⟩ := List.mem_map.mp haddress
  exact Fetch.grants_of_allNodes registry _ hfetched hm

theorem Answers.learns_nodeStateAt {a : Answers} {closed : Bool} (storage address : Address)
    (block : BeaconBlock) : a.Learns closed (Request.nodeStateAt storage address block) := by
  refine (learns_executionBlock block).bind fun (config, number) => ?_
  refine (learns_load storage number).bind fun registry => learns_of_asks ?_
  have reading := reading_leavesConfig number
  exact Task.Asks.bind ⟨reading.asks_assembleOne registry address,
    reading.asks_totalEffectiveRplStake registry⟩ fun _ => trivial

theorem Snapshot.node?_address {s : Snapshot} (hnodup : (s.nodes.map Node.address).Nodup) {n : Node}
    (hn : n ∈ s.nodes) : s.node? n.address = some n := by
  rw [node?]
  have hsome : (s.nodes.find? (·.address = n.address)).isSome := by
    rw [List.find?_isSome]
    exact ⟨n, hn, decide_eq_true rfl⟩
  obtain ⟨m, hm⟩ := Option.isSome_iff_exists.mp hsome
  have hfound := List.find?_some hm
  have haddress : m.address = n.address := of_decide_eq_true hfound
  rw [hm, List.inj_on_of_nodup_map hnodup (List.mem_of_find?_eq_some hm) hn haddress]

/-- The snapshot of a node says about the node, and about the network, what the full snapshot says,
up to the order of the node's minipools. -/
structure Snapshot.IsPartOf (single full : Snapshot) (address : Address) : Prop where
  executionBlock : single.executionBlock = full.executionBlock
  slot : single.slot = full.slot
  config : single.config = full.config
  totalEffectiveRplStake : single.totalEffectiveRplStake = full.totalEffectiveRplStake
  nodes : ∃ n, full.node? address = some n ∧ single.nodes = [n]
  minipools : single.minipools.Perm (full.minipoolsOf address)

/-- On surroundings that keep to their answers, a full snapshot comes with that of each node. -/
theorem nodeStateAt_of_snapshotAt {a : Answers}
    (hcalls : ExecutionQuery.BatchesCalls a.execution)
    (hbalances : ExecutionQuery.BatchesBalances a.execution) {storage : Address}
    {block : BeaconBlock} {full : Snapshot}
    (hfull : MayEnd (.fixed a.query) (Request.snapshotAt storage block) (.ok full))
    (hnodup : (full.nodes.map Node.address).Nodup) {n : Node} (hn : n ∈ full.nodes)
    {registry : Registry}
    (hregistry : MayEnd (.fixed a.query) (Registry.load storage full.executionBlock)
      (.ok registry))
    {own : List Address}
    (hlists : Fetch.Lists a.execution registry full.executionBlock n.address own)
    (hown : own.Perm ((full.minipoolsOf n.address).map Minipool.address))
    (hmemory : 32 * full.minipools.length ≤ Memory.limit) :
    ∃ single : Snapshot,
      MayEnd (.fixed a.query) (Request.nodeStateAt storage n.address block) (.ok single) ∧
      single.IsPartOf full n.address ∧
      (own = (full.minipoolsOf n.address).map Minipool.address →
        single.minipools = full.minipoolsOf n.address) := by
  obtain ⟨hslot, hblock, found, hfound, hassemble, hstake⟩ := mayEnd_snapshotAt_ok hfull
  cases (strict_load storage full.executionBlock).eq_ok hregistry hfound
  obtain ⟨minipools, hone, hperm, horder⟩ := assembleOne_of_assembleAll registry full.executionBlock
    hcalls hbalances hassemble hnodup hn hlists hown hmemory
  refine ⟨_, mayEnd_nodeStateAt_ok hblock hregistry hone hstake, ?_, horder⟩
  exact ⟨rfl, hslot.symm, rfl, rfl, ⟨n, full.node?_address hnodup hn, rfl⟩, hperm⟩

section Requests

variable {ε β : Type} {client : Service ExecutionQuery ε} {beacon : Service BeaconQuery β}
  {answers : {α : Type} → ExecutionQuery α → Outcome α}
  {beaconAnswers : {α : Type} → BeaconQuery α → Outcome α} {I : ε → Prop} {J : β → Prop}

/-- After a full snapshot, the snapshot of a node that it contains succeeds, unless it is given up
for its time, and is a part of the full one, if the registry lists the node's minipools in some
order. The full snapshot is one that memory can hold, at no less than 32 bytes for a minipool. -/
theorem Request.headStateForNode_agrees (hclient : client.Steady answers (fun _ => True) I)
    (hbeacon : beacon.Steady beaconAnswers (fun _ => True) J)
    (hcalls : ExecutionQuery.BatchesCalls answers)
    (hbalances : ExecutionQuery.BatchesBalances answers) (settings : Settings) (storage : Address)
    {s s' : Surroundings ε β} (hexecution : I s.execution) (hbeaconState : J s.beacon)
    {full : Snapshot}
    (hfull : (headState settings storage).EndsIn (.ofChains client beacon) s (.ok full, s'))
    (hnodup : (full.nodes.map Node.address).Nodup) {address : Address}
    (haddress : address ∈ full.nodes.map Node.address) {registry : Registry}
    (hregistry : ((Registry.load storage full.executionBlock).run (.ofChains client beacon) s').1 =
      .ok registry)
    {own : List Address} (hlists : Fetch.Lists answers registry full.executionBlock address own)
    (hown : own.Perm ((full.minipoolsOf address).map Minipool.address))
    (hmemory : 32 * full.minipools.length ≤ Memory.limit) :
    ∃ single,
      ((headStateForNode settings storage address).run (.ofChains client beacon) s').1 =
        .ok single ∧
      (∀ last, (headStateForNode settings storage address).EndsIn (.ofChains client beacon) s'
          last →
        last.1 = .ok single ∨ last.1 = .error (.error (late settings "node state"))) ∧
      single.IsPartOf full address ∧
      (own = (full.minipoolsOf address).map Minipool.address →
        single.minipools = full.minipoolsOf address) := by
  let a : Answers := ⟨answers, beaconAnswers, s.session.config⟩
  have learning : (Service.ofChains client beacon).Matches (.ofChains client beacon)
      (a.replies s.session.closed) a.Remembers _ :=
    Answers.matches_learning hclient hbeacon (fun _ h => h) s.session.closed
  have start : a.LearnIn I J s.session.closed s := ⟨hexecution, hbeaconState, .inl rfl, rfl⟩
  have stateLearns : a.Learns s.session.closed (headBlock settings >>= snapshotAt storage) :=
    (Answers.learns_headBlock settings).bind (Answers.learns_snapshotAt storage)
  have nodeLearns : a.Learns s.session.closed
      (headBlock settings >>= nodeStateAt storage address) :=
    (Answers.learns_headBlock settings).bind (Answers.learns_nodeStateAt storage address)
  have loadLearns : a.Learns s.session.closed (Registry.load storage full.executionBlock) :=
    Answers.learns_load storage full.executionBlock
  -- The first request has ended before its time, on a session that gives out permits.
  rw [headState_eq] at hfull
  obtain ⟨hend, hlearn⟩ :=
    learning.mayEnd ((asks_within _ _ _).mpr stateLearns.asks) start hfull
  have hstate : MayEnd _ (headBlock settings >>= snapshotAt storage) (.ok full) :=
    hend.resolve_right fun h => by cases h
  obtain ⟨n, hn, rfl⟩ := List.mem_map.mp haddress
  have hclosed : s.session.closed = false := by
    obtain ⟨block, -, hsnapshot⟩ := (mayEnd_bind_ok _ _ _).mp hstate
    exact grants_of_snapshotAt hsnapshot hn
  have hregistry' := loadLearns.mayEnd _ hclosed
    (learning.mayEnd loadLearns.asks hlearn (.inl rfl)).1
  rw [hregistry] at hregistry'
  obtain ⟨block, hblock, hsnapshot⟩ :=
    (mayEnd_bind_ok _ _ _).mp (stateLearns.mayEnd _ hclosed hstate)
  obtain ⟨single, hsingle, hpart, horder⟩ := nodeStateAt_of_snapshotAt hcalls hbalances hsnapshot
    hnodup hn hregistry' hlists hown hmemory
  -- So the second request can end in nothing else, apart from its time.
  have ends : ∀ o, MayEnd (a.replies s.session.closed)
      (headBlock settings >>= nodeStateAt storage n.address) o → o = .ok single := fun o ho =>
    ((strict_headBlock settings).bind (strict_nodeStateAt storage n.address)).eq_ok
      ((mayEnd_bind_ok _ _ _).mpr ⟨block, hblock, hsingle⟩) (nodeLearns.mayEnd o hclosed ho)
  refine ⟨single, ?_, fun last hlast => ?_, hpart, horder⟩
  · rw [headStateForNode_eq, run_within]
    exact ends _ (learning.mayEnd nodeLearns.asks hlearn (.inl rfl)).1
  · rw [headStateForNode_eq] at hlast
    have hlast := (learning.mayEnd ((asks_within _ _ _).mpr nodeLearns.asks) hlearn hlast).1
    exact hlast.imp_left (ends last.1)

end Requests

/-! ## A small pool -/

namespace SmallPool

/-- The call is one of the given function. -/
def isOf {inputs : List Abi.Ty} {output : Abi.Ty} (call : ContractCall)
    (m : Abi.Method inputs output) : Bool :=
  call.calldata.take 4 = m.selector

open Contract in
/-- What the contracts return. The storage contract is number 1, all others are number 2. The nodes
are 100 and 101, and the minipools 200 to 202, of which 201 belongs to node 101. The registry lists
those of node 100 from the last to the first. -/
def reply (call : ContractCall) : Bytes :=
  let first := Bytes.toNat ((call.calldata.drop 4).take 32)
  match call.target.toNat, call.calldata.length with
  | 1, _ => Bytes.ofNat 32 2
  | 2, 4 => Bytes.ofNat 32 (if isOf call NodeManager.getNodeCount then 2 else 3)
  | 2, 36 =>
    if first < 3 then
      Bytes.ofNat 32 (first + if isOf call NodeManager.getNodeAt then 100 else 200)
    else if isOf call NodeManager.getNodeTimezoneLocation then
      NodeManager.getNodeTimezoneLocation.encodeResult "Etc/UTC"
    else
      Bytes.ofNat 32 <|
        if isOf call MinipoolManager.getNodeMinipoolCount then 102 - first else 2 * 10 ^ 18
  | 2, _ =>
    Bytes.ofNat 32 (if first = 100 then 202 - 2 * Bytes.toNat (call.calldata.drop 36) else 201)
  | minipool, _ =>
    Bytes.ofNat 32 <|
      if isOf call MinipoolDelegate.getNodeAddress then 100 + minipool % 2
      else if isOf call MinipoolDelegate.getFinalised then 0
      else if isOf call MinipoolDelegate.getNodeFee then 10 ^ 15 * minipool
      else 2

def answers : {α : Type} → ExecutionQuery α → Outcome α
  | _, .latestBlock => .ok ⟨7, 84⟩
  | _, .call call _ => .ok (reply call)
  | _, .batchCall calls _ => .ok (calls.map reply)
  | _, .balance _ _ => .ok Amount.one
  | _, .bulkBalances accounts _ => .ok (accounts.map fun _ => Amount.one)

theorem batchesCalls : ExecutionQuery.BatchesCalls answers := by
  intro calls block replies
  simp only [answers, Except.ok.injEq]
  rw [← List.forall₂_map_left_iff (R := (· = ·)), List.forall₂_eq_eq_eq]

theorem batchesBalances : ExecutionQuery.BatchesBalances answers := by
  intro accounts block amounts
  simp only [answers, Except.ok.injEq]
  rw [← List.forall₂_map_left_iff (R := (· = ·)) (f := fun _ => Amount.one), List.forall₂_eq_eq_eq]

def registry : Registry :=
  ⟨.ofNat 1, .ofNat 2, .ofNat 2, .ofNat 2, .ofNat 2, .ofNat 2, .ofNat 2, .ofNat 2, .ofNat 2,
    .ofNat 2, .ofNat 2⟩

theorem lists : Fetch.Lists answers registry 7 (.ofNat 100) [.ofNat 202, .ofNat 200] where
  count := ⟨Bytes.ofNat 32 2, congrArg Except.ok (by decide +kernel), rfl⟩
  item
    | 0, _ => ⟨Bytes.ofNat 32 202, congrArg Except.ok (by decide +kernel), rfl⟩
    | 1, _ => ⟨Bytes.ofNat 32 200, congrArg Except.ok (by decide +kernel), rfl⟩

/-- The full snapshot of the small pool. -/
theorem headState_ok :
    ∃ full s', (Request.headState .default (.ofNat 1)).run
        (.ofChains (.fixed answers) (.fixed BeaconQuery.sample)) ⟨(), (), .new false⟩ =
          (.ok full, s') ∧
      full.executionBlock = 7 ∧
      full.nodes.map Node.address = [.ofNat 100, .ofNat 101] ∧
      full.minipools.length = 3 ∧
      (full.minipoolsOf (.ofNat 100)).map Minipool.address = [.ofNat 200, .ofNat 202] := by
  have check : (match ((Request.headState .default (.ofNat 1)).run
      (.ofChains (.fixed answers) (.fixed BeaconQuery.sample)) ⟨(), (), .new false⟩).1 with
      | .ok full => decide (full.executionBlock = 7 ∧
          full.nodes.map Node.address = [.ofNat 100, .ofNat 101] ∧
          full.minipools.length = 3 ∧
          (full.minipoolsOf (.ofNat 100)).map Minipool.address = [.ofNat 200, .ofNat 202])
      | .error _ => false) = true := by decide +kernel
  generalize (Request.headState .default (.ofNat 1)).run _ _ = last at check
  obtain ⟨e | full, s'⟩ := last
  · cases check
  · exact ⟨full, s', rfl, of_decide_eq_true check⟩

end SmallPool

/-- The snapshot of node 100 at block 7 is a part of the full snapshot, with its two minipools in
the other order. -/
theorem Request.headStateForNode_of_smallPool :
    let service := Service.ofChains (.fixed SmallPool.answers) (.fixed BeaconQuery.sample)
    ∃ full s' single,
      (headState .default (.ofNat 1)).run service ⟨(), (), .new false⟩ = (.ok full, s') ∧
      full.nodes.map Node.address = [.ofNat 100, .ofNat 101] ∧
      (full.minipoolsOf (.ofNat 100)).map Minipool.address = [.ofNat 200, .ofNat 202] ∧
      ((headStateForNode .default (.ofNat 1) (.ofNat 100)).run service s').1 = .ok single ∧
      single.IsPartOf full (.ofNat 100) := by
  intro service
  obtain ⟨full, s', hfull, hblock, hnodes, hlength, hminipools⟩ := SmallPool.headState_ok
  have hnodup : (full.nodes.map Node.address).Nodup := by
    rw [hnodes]
    decide
  have haddress : .ofNat 100 ∈ full.nodes.map Node.address := by
    rw [hnodes]
    decide
  have hregistry : ((Registry.load (.ofNat 1) full.executionBlock).run service s').1 =
      .ok SmallPool.registry := by
    rw [hblock]
    rfl
  have hlists : Fetch.Lists SmallPool.answers SmallPool.registry full.executionBlock (.ofNat 100)
      [.ofNat 202, .ofNat 200] := by
    rw [hblock]
    exact SmallPool.lists
  have hown : [.ofNat 202, .ofNat 200].Perm
      ((full.minipoolsOf (.ofNat 100)).map Minipool.address) := by
    rw [hminipools]
    decide
  have hmemory : 32 * full.minipools.length ≤ Memory.limit := by
    rw [hlength]
    decide
  obtain ⟨single, hsingle, -, hpart, -⟩ := headStateForNode_agrees
    (Service.fixed_steady SmallPool.answers fun _ => True)
    (Service.fixed_steady BeaconQuery.sample fun _ => True) SmallPool.batchesCalls
    SmallPool.batchesBalances .default (.ofNat 1) trivial trivial (.inl hfull.symm) hnodup
    haddress hregistry hlists hown hmemory
  exact ⟨full, s', single, hfull, hnodes, hminipools, hsingle, hpart⟩

end StakeSnapshot
