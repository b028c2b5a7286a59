import StakeSnapshot.Proofs.Contract.Selectors
import StakeSnapshot.Proofs.Fetch.Fields
import StakeSnapshot.Simulation.Protocol

/-!
# The calls that a deployment answers

A deployment in memory keeps a reply for each of many calls (`Slot`). Two calls are told apart by
the selector, by the contract if both are of a function that several contracts have, and otherwise
by the arguments (`Slot.call_injective`). So a reply stays until its own call is given another one,
and what a list of writes leaves behind can be read off the list (`reply_writeAll`).
-/

namespace StakeSnapshot

namespace Abi.Method

variable {inputs : List Ty} {output : Ty} (m : Method inputs output)

theorem take_calldata (target : Address) (args : Values inputs) :
    (m.call target args).calldata.take 4 = m.selector :=
  List.take_left' m.length_selector

variable {m}

/-- Calls of one function tell their arguments, if these are words. -/
theorem args_eq {target target' : Address} {args args' : Values inputs}
    (h : m.call target args = m.call target' args') (hwords : ∀ t ∈ inputs, t.isWord = true)
    (hlength : 32 * inputs.length < UInt64.size) : args = args' :=
  encode_injective hwords hlength (call_eq_iff.mp h).2.2

end Abi.Method

namespace Simulation

open Contract

/-- The functions whose calls a deployment answers, by what they are read for. -/
inductive SlotKind where
  | contract
  | nodeCount
  | nodeAt
  | node (g : NodeGetter)
  | minipoolCount
  | minipoolAt
  | nodeMinipoolAt
  | minipool (g : MinipoolGetter)
  | totalStake
  | totalCapacity
  | effectiveCapacity
  | nextCapacity
  | length
  | totalLength
  | item
  | indexOf
deriving DecidableEq

namespace SlotKind

def all : List SlotKind :=
  [.contract, .nodeCount, .nodeAt, .minipoolCount, .minipoolAt, .nodeMinipoolAt, .totalStake,
    .totalCapacity, .effectiveCapacity, .nextCapacity, .length, .totalLength, .item, .indexOf] ++
  NodeGetter.all.map .node ++ MinipoolGetter.all.map .minipool

theorem mem_all (k : SlotKind) : k ∈ all := by
  cases k with
  | node g => exact List.mem_append_left _ (List.mem_append_right _ (List.mem_map_of_mem g.mem_all))
  | minipool g => exact List.mem_append_right _ (List.mem_map_of_mem g.mem_all)
  | _ => decide

/-- The fields that are read by one function of different contracts. -/
def tokens : List NodeGetter := [.balanceReth, .balanceRpl, .balanceOldRpl]

def owner : NodeGetter → String
  | .feeDistributorAddress => "RocketNodeDistributorFactory"
  | .rplStake | .effectiveRplStake | .minimumRplStake | .maximumRplStake | .ethMatched
  | .ethMatchedLimit | .collateralisationRatio => "RocketNodeStaking"
  | .minipoolCount => "RocketMinipoolManager"
  | .balanceReth | .balanceRpl | .balanceOldRpl => "ERC20"
  | .withdrawalAddress | .pendingWithdrawalAddress => "RocketStorage"
  | .depositCreditBalance => "RocketNodeDeposit"
  | _ => "RocketNodeManager"

def entry : SlotKind → Entry
  | .contract => .of "RocketStorage" Storage.getAddress
  | .nodeCount => .of "RocketNodeManager" NodeManager.getNodeCount
  | .nodeAt => .of "RocketNodeManager" NodeManager.getNodeAt
  | .node g => .of (owner g) g.method
  | .minipoolCount => .of "RocketMinipoolManager" MinipoolManager.getMinipoolCount
  | .minipoolAt => .of "RocketMinipoolManager" MinipoolManager.getMinipoolAt
  | .nodeMinipoolAt => .of "RocketMinipoolManager" MinipoolManager.getNodeMinipoolAt
  | .minipool g => .of "RocketMinipool" g.method
  | .totalStake => .of "RocketNodeStaking" NodeStaking.getTotalEffectiveRplStake
  | .totalCapacity => .of "RocketMinipoolQueue" MinipoolQueue.getTotalCapacity
  | .effectiveCapacity => .of "RocketMinipoolQueue" MinipoolQueue.getEffectiveCapacity
  | .nextCapacity => .of "RocketMinipoolQueue" MinipoolQueue.getNextCapacity
  | .length => .of "RocketMinipoolQueue" MinipoolQueue.getLength
  | .totalLength => .of "RocketMinipoolQueue" MinipoolQueue.getTotalLength
  | .item => .of "AddressQueueStorage" AddressQueueStorage.getItem
  | .indexOf => .of "AddressQueueStorage" AddressQueueStorage.getIndexOf

theorem entry_mem_catalogue (k : SlotKind) : k.entry ∈ catalogue := by
  cases k with
  | node g => cases g <;> simp [catalogue, entry, owner, NodeGetter.method, NodeGetter.output]
  | minipool g => cases g <;> simp [catalogue, entry, MinipoolGetter.method, MinipoolGetter.output]
  | _ => simp [catalogue, entry]

/-- Functions of one name are one function, which may be that of several tokens. -/
theorem eq_or_tokens_of_name : ∀ k ∈ all, ∀ k' ∈ all, k.entry.method.name = k'.entry.method.name →
    k = k' ∨ ∃ g ∈ tokens, ∃ g' ∈ tokens, k = .node g ∧ k' = .node g' := by
  decide +kernel

theorem eq_or_tokens {k k' : SlotKind} (h : k.entry.method.selector = k'.entry.method.selector) :
    k = k' ∨ ∃ g ∈ tokens, ∃ g' ∈ tokens, k = .node g ∧ k' = .node g' := by
  have hentry := entry_eq_of_selector k.entry_mem_catalogue k'.entry_mem_catalogue h
  exact eq_or_tokens_of_name k k.mem_all k' k'.mem_all (congrArg (·.method.name) hentry)

end SlotKind

/-- The calls that a deployment answers. -/
inductive Slot where
  /-- The address of a contract. -/
  | contract (name : ContractName)
  | nodeCount
  | nodeAt (index : Amount)
  /-- A field of a node. -/
  | node (g : NodeGetter) (address : Address)
  | minipoolCount
  | minipoolAt (index : Amount)
  | nodeMinipoolAt (owner : Address) (index : Amount)
  /-- A field of a minipool. -/
  | minipool (g : MinipoolGetter) (address : Address)
  | totalStake
  | totalCapacity
  | effectiveCapacity
  | nextCapacity
  | length (partition : Partition)
  | totalLength
  | item (partition : Partition) (index : Amount)
  | indexOf (partition : Partition) (minipool : Address)
deriving DecidableEq

namespace Slot

def kind : Slot → SlotKind
  | .contract _ => .contract
  | .nodeCount => .nodeCount
  | .nodeAt _ => .nodeAt
  | .node g _ => .node g
  | .minipoolCount => .minipoolCount
  | .minipoolAt _ => .minipoolAt
  | .nodeMinipoolAt _ _ => .nodeMinipoolAt
  | .minipool g _ => .minipool g
  | .totalStake => .totalStake
  | .totalCapacity => .totalCapacity
  | .effectiveCapacity => .effectiveCapacity
  | .nextCapacity => .nextCapacity
  | .length _ => .length
  | .totalLength => .totalLength
  | .item _ _ => .item
  | .indexOf _ _ => .indexOf

def call (r : Registry) : Slot → ContractCall
  | .contract name => Storage.getAddress.call r.storage (name.storageKey, ())
  | .nodeCount => NodeManager.getNodeCount.call r.nodeManager ()
  | .nodeAt index => NodeManager.getNodeAt.call r.nodeManager (index, ())
  | .node g address => g.method.call (g.target r) (address, ())
  | .minipoolCount => MinipoolManager.getMinipoolCount.call r.minipoolManager ()
  | .minipoolAt index => MinipoolManager.getMinipoolAt.call r.minipoolManager (index, ())
  | .nodeMinipoolAt owner index =>
      MinipoolManager.getNodeMinipoolAt.call r.minipoolManager (owner, index, ())
  | .minipool g address => g.method.call address ()
  | .totalStake => NodeStaking.getTotalEffectiveRplStake.call r.nodeStaking ()
  | .totalCapacity => MinipoolQueue.getTotalCapacity.call r.minipoolQueue ()
  | .effectiveCapacity => MinipoolQueue.getEffectiveCapacity.call r.minipoolQueue ()
  | .nextCapacity => MinipoolQueue.getNextCapacity.call r.minipoolQueue ()
  | .length partition =>
      MinipoolQueue.getLength.call r.minipoolQueue (partition.depositType.number, ())
  | .totalLength => MinipoolQueue.getTotalLength.call r.minipoolQueue ()
  | .item partition index =>
      AddressQueueStorage.getItem.call r.addressQueueStorage (partition.storageKey, index, ())
  | .indexOf partition m =>
      AddressQueueStorage.getIndexOf.call r.addressQueueStorage (partition.storageKey, m, ())

theorem take_call (r : Registry) (s : Slot) :
    (s.call r).calldata.take 4 = s.kind.entry.method.selector := by
  cases s <;> exact Abi.Method.take_calldata _ _ _

variable {r : Registry} {s s' : Slot}

/-- Calls of one kind are told apart by the contract and by the arguments. -/
theorem eq_of_kind : ∀ {s s' : Slot}, s.kind = s'.kind → s.call r = s'.call r → s = s'
  | .contract _, .contract _, _, h => by
      have hargs := Abi.Method.args_eq h (by decide) (by decide)
      rw [ContractName.storageKey_injective (congrArg Prod.fst hargs)]
  | .nodeCount, .nodeCount, _, _ => rfl
  | .nodeAt _, .nodeAt _, _, h => by
      cases Abi.Method.args_eq h (by decide) (by decide)
      rfl
  | .node _ _, .node _ _, hkind, h => by
      cases hkind
      cases Abi.Method.args_eq h (by decide) (by decide)
      rfl
  | .minipoolCount, .minipoolCount, _, _ => rfl
  | .minipoolAt _, .minipoolAt _, _, h => by
      cases Abi.Method.args_eq h (by decide) (by decide)
      rfl
  | .nodeMinipoolAt _ _, .nodeMinipoolAt _ _, _, h => by
      cases Abi.Method.args_eq h (by decide) (by decide)
      rfl
  | .minipool _ _, .minipool _ _, hkind, h => by
      cases hkind
      rw [(Abi.Method.call_eq_iff.mp h).1]
  | .totalStake, .totalStake, _, _ => rfl
  | .totalCapacity, .totalCapacity, _, _ => rfl
  | .effectiveCapacity, .effectiveCapacity, _, _ => rfl
  | .nextCapacity, .nextCapacity, _, _ => rfl
  | .length p, .length p', _, h => by
      have hargs := Abi.Method.args_eq h (by decide) (by decide)
      cases p <;> cases p' <;> first | rfl | cases hargs
  | .totalLength, .totalLength, _, _ => rfl
  | .item _ _, .item _ _, _, h => by
      obtain ⟨hkey, hindex⟩ := Prod.mk.inj (Abi.Method.args_eq h (by decide) (by decide))
      rw [Partition.storageKey_injective hkey, (Prod.mk.inj hindex).1]
  | .indexOf _ _, .indexOf _ _, _, h => by
      obtain ⟨hkey, hminipool⟩ := Prod.mk.inj (Abi.Method.args_eq h (by decide) (by decide))
      rw [Partition.storageKey_injective hkey, (Prod.mk.inj hminipool).1]

/-- The tokens are different contracts. -/
def TokensDiffer (r : Registry) : Prop :=
  ∀ g ∈ SlotKind.tokens, ∀ g' ∈ SlotKind.tokens, g.target r = g'.target r → g = g'

theorem target_call_of_node {g : NodeGetter} (h : s.kind = .node g) :
    (s.call r).target = g.target r := by
  cases s <;> cases h
  rfl

theorem call_injective (htokens : TokensDiffer r) : Function.Injective (call r) := by
  intro s s' h
  have hselector : s.kind.entry.method.selector = s'.kind.entry.method.selector := by
    rw [← take_call r s, ← take_call r s', h]
  refine eq_of_kind ?_ h
  rcases SlotKind.eq_or_tokens hselector with hkind | ⟨g, hg, g', hg', hkind, hkind'⟩
  · exact hkind
  · have htarget : g.target r = g'.target r := by
      rw [← target_call_of_node hkind, ← target_call_of_node hkind', h]
    rw [hkind, hkind', htokens g hg g' hg' htarget]

end Slot

namespace Protocol

/-- Sets the reply to a call. -/
def put (p : Protocol) (call : ContractCall) (data : Bytes) : Protocol :=
  { p with chain := p.chain.setReply call data }

/-- The reply to the call of a slot. -/
def reply (p : Protocol) (s : Slot) : Option Bytes := p.chain.replies[s.call p.registry]?

def write (p : Protocol) (w : Slot × Bytes) : Protocol := p.put (w.1.call p.registry) w.2

def writeAll (p : Protocol) (ws : List (Slot × Bytes)) : Protocol := ws.foldl write p

variable {p : Protocol} {s : Slot} {data : Bytes} {ws : List (Slot × Bytes)}

theorem writeAll_append (ws ws' : List (Slot × Bytes)) :
    p.writeAll (ws ++ ws') = (p.writeAll ws).writeAll ws' :=
  List.foldl_append

/-- Writes change nothing but the replies. -/
theorem writeAll_eq :
    p.writeAll ws =
      { p with chain := { p.chain with replies := (p.writeAll ws).chain.replies } } := by
  induction ws generalizing p with
  | nil => rfl
  | cons w ws ih => exact ih

theorem reply_write (htokens : Slot.TokensDiffer p.registry) (w : Slot × Bytes) (s : Slot) :
    (p.write w).reply s = if w.1 = s then some w.2 else p.reply s := by
  change (p.chain.replies.insert (w.1.call p.registry) w.2)[s.call p.registry]? = _
  rw [Std.HashMap.getElem?_insert]
  simp only [beq_iff_eq, (Slot.call_injective htokens).eq_iff]
  rfl

/-- After some writes that agree on a slot, the slot has what they say, or what it had before if
none of them is about it. -/
theorem reply_writeAll (htokens : Slot.TokensDiffer p.registry)
    (hagree : ∀ w ∈ ws, w.1 = s → w.2 = data) (h : (∃ w ∈ ws, w.1 = s) ∨ p.reply s = some data) :
    (p.writeAll ws).reply s = some data := by
  induction ws generalizing p with
  | nil => exact h.resolve_left fun ⟨w, hw, _⟩ => by cases hw
  | cons w ws ih =>
      refine ih (p := p.write w) htokens (fun w' hw' => hagree w' (List.mem_cons_of_mem _ hw')) ?_
      rw [reply_write htokens]
      by_cases hw : w.1 = s
      · rw [if_pos hw, hagree w (List.mem_cons_self ..) hw]
        exact .inr rfl
      · rw [if_neg hw]
        refine h.imp_left fun ⟨w', hw', heq⟩ => ⟨w', ?_, heq⟩
        exact (List.mem_cons.mp hw').resolve_left fun h => hw (h ▸ heq)

end Protocol

end Simulation

end StakeSnapshot
