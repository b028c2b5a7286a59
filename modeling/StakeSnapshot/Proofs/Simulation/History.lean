import StakeSnapshot.Proofs.Simulation.Ledger

/-!
# Deployments answer as their ledgers

After every history of steps a deployment has the replies that are due by the ledger of the history
(`shows_after`), however the steps are interleaved. It is enough to see for each step that what it
writes is due after it, and that it writes whatever becomes due (`Shows.step`).
-/

namespace StakeSnapshot.Simulation

open Contract Protocol

theorem toNat_amountOfNat {n : Nat} (h : n < UInt64.size) : (amountOfNat n).toNat = n := by
  have hsize : UInt64.size < 2 ^ 256 := by decide
  rw [amountOfNat, BitVec.toNat_ofNat, Nat.mod_eq_of_lt (h.trans hsize)]

theorem amountOfNat_eq {n : Nat} (h : n < UInt64.size) :
    amountOfNat n = Amount.ofCount (UInt64.ofNat n) := by
  rw [amountOfNat, Amount.ofCount, UInt64.toNat_ofNat_of_lt' h]

theorem amountOfNat_toNat (a : Amount) : amountOfNat a.toNat = a := BitVec.ofNat_toNat 256 a

/-- What is found in a list with another item at its end is that item, or was found before. -/
theorem index_concat {α β : Type} {xs : List α} {x : α} {f : α → β} {i : Amount} {b : β}
    (h : ((xs ++ [x])[i.toNat]?).map f = some b) :
    i = amountOfNat xs.length ∨ (xs[i.toNat]?).map f = some b := by
  rcases Nat.lt_trichotomy i.toNat xs.length with hlt | heq | hgt
  · rw [List.getElem?_append_left hlt] at h
    exact .inr h
  · rw [← heq, amountOfNat_toNat]
    exact .inl rfl
  · rw [List.getElem?_eq_none (by rw [List.length_append, List.length_singleton]; omega)] at h
    cases h

namespace Protocol

/-- A deployment lists what a ledger does. -/
structure Lists (p : Protocol) (storage : Address) (l : Ledger) : Prop where
  registry : p.registry = deployed storage
  nodes : p.nodes = l.nodes.map Node.address
  minipools : p.minipools = l.minipools.map Minipool.address
  place : ∀ a, p.place a = l.ownedCount a
  owned : ∀ a, (l.owned a).length ≤ l.minipools.length
  queue : p.queue = l.waiting
  balance : ∀ a, p.chain.balanceOf a = l.balance a
  latest : p.chain.latest = l.latest
  failing : p.chain.failing = ∅

/-- A deployment lists what a ledger does, and has the replies that are due by it. -/
structure Shows (p : Protocol) (storage : Address) (l : Ledger) : Prop extends
    p.Lists storage l where
  reply : ∀ s data, l.due s = some data → p.reply s = some data

variable {p q : Protocol} {storage : Address} {l l' : Ledger}

theorem Lists.writeAll (h : p.Lists storage l) (ws : List (Slot × Bytes)) :
    (p.writeAll ws).Lists storage l := by
  rw [writeAll_eq]
  refine ⟨h.registry, h.nodes, h.minipools, h.place, h.owned, ?_, h.balance, h.latest, h.failing⟩
  rw [← h.queue]
  funext partition
  cases partition <;> rfl

/-- A step that moves some lists, and then writes what is due and nothing else, and among it all
that has become due. -/
theorem Shows.step (h : p.Shows storage l) (hlists : q.Lists storage l')
    (hreplies : q.chain.replies = p.chain.replies) {ws : List (Slot × Bytes)}
    (hdue : ∀ w ∈ ws, ∀ data, l'.due w.1 = some data → w.2 = data)
    (hnew : ∀ s data, l'.due s = some data → (∃ w ∈ ws, w.1 = s) ∨ l.due s = some data) :
    (q.writeAll ws).Shows storage l' := by
  refine ⟨hlists.writeAll ws, fun s data hs => ?_⟩
  have htokens : Slot.TokensDiffer q.registry := by
    rw [hlists.registry]
    exact deployed_tokensDiffer storage
  refine reply_writeAll htokens (fun w hw heq => hdue w hw data (heq ▸ hs)) ?_
  refine (hnew s data hs).imp_right fun hold => ?_
  rw [Protocol.reply, hreplies, hlists.registry, ← h.registry]
  exact h.reply s data hold

theorem Lists.countWrites_due (h : q.Lists storage l') :
    ∀ w ∈ q.countWrites, ∀ data, l'.due w.1 = some data → w.2 = data := by
  intro w hw data hdue
  simp only [countWrites, List.mem_cons, List.not_mem_nil, or_false] at hw
  rcases hw with rfl | rfl
  · rw [h.nodes, List.length_map]
    exact Option.some.inj hdue
  · rw [h.minipools, List.length_map]
    exact Option.some.inj hdue

theorem Lists.indexWrite_due (h : q.Lists storage l') (partition : Partition) (a : Address) :
    ∀ data, l'.due (.indexOf partition a) = some data → (q.indexWrite partition a).2 = data := by
  intro data hdue
  rw [Ledger.due, Option.ite_none_right_eq_some] at hdue
  rw [indexWrite, h.queue]
  exact Option.some.inj hdue.2

/-! ## Adding a node -/

theorem node?_addNode (l : Ledger) (n : Node) (a : Address) :
    (l.apply (.addNode n)).node? a =
      if n.address = a then some { n with minipoolCount := 0 } else l.node? a := by
  have hlast : (l.apply (.addNode n)).nodes.reverse = n :: l.nodes.reverse :=
    List.reverse_concat
  rw [Ledger.node?, hlast, List.find?_cons]
  by_cases ha : n.address = a
  · subst ha
    simp only [decide_true, if_true, Option.map_some, Ledger.ownedCount, Ledger.apply,
      Function.update_self]
    rfl
  · have howned : (l.apply (.addNode n)).ownedCount a = l.ownedCount a := by
      simp only [Ledger.ownedCount, Ledger.apply, Function.update_of_ne (Ne.symm ha)]
    rw [if_neg ha, howned]
    simp only [ha, decide_false]
    rfl

theorem Lists.listNode (h : p.Lists storage l) (n : Node) :
    (p.listNode n.address).Lists storage (l.apply (.addNode n)) where
  registry := h.registry
  nodes := by
    change p.nodes ++ [n.address] = (l.nodes ++ [n]).map Node.address
    rw [h.nodes, List.map_append, List.map_singleton]
  minipools := h.minipools
  place a := by
    change (p.nodeMinipools.insert n.address 0).getD a 0 =
      UInt64.ofNat (Function.update l.owned n.address [] a).length
    rw [Std.HashMap.getD_insert]
    by_cases ha : n.address = a
    · rw [if_pos (beq_iff_eq.mpr ha), ha, Function.update_self]
      rfl
    · rw [if_neg (mt beq_iff_eq.mp ha), Function.update_of_ne (Ne.symm ha)]
      exact h.place a
  owned a := by
    change (Function.update l.owned n.address [] a).length ≤ l.minipools.length
    by_cases ha : a = n.address
    · rw [ha, Function.update_self]
      exact Nat.zero_le _
    · rw [Function.update_of_ne ha]
      exact h.owned a
  queue := h.queue
  balance := h.balance
  latest := h.latest
  failing := h.failing

theorem Shows.addNode (h : p.Shows storage l) (n : Node) (hfits : l.nodes.length < UInt64.size) :
    (p.addNode n).Shows storage (l.apply (.addNode n)) := by
  have hindex : (amountOfNat p.nodes.length).toNat = l.nodes.length := by
    rw [h.nodes, List.length_map, toNat_amountOfNat hfits]
  have hlists := h.toLists.listNode n
  rw [addNode_eq]
  refine h.step hlists rfl (fun w hw => ?_) (fun s data hs => ?_)
  · rcases List.mem_append.mp hw with hw | hw
    · intro data hdue
      rw [nodeWrites, List.mem_cons, List.mem_map] at hw
      rcases hw with rfl | ⟨g, -, rfl⟩
      · change ((l.nodes ++ [n])[(amountOfNat p.nodes.length).toNat]?).map _ = some data at hdue
        rw [hindex, List.getElem?_concat_length] at hdue
        exact Option.some.inj hdue
      · rw [Ledger.due, node?_addNode, if_pos rfl] at hdue
        exact Option.some.inj hdue
    · exact hlists.countWrites_due w hw
  · cases s with
    | nodeCount => exact .inl ⟨_, List.mem_append_right _ (List.mem_cons_self ..), rfl⟩
    | nodeAt i =>
        change ((l.nodes ++ [n])[i.toNat]?).map _ = some data at hs
        refine (index_concat hs).imp_left fun hi => ?_
        refine ⟨_, List.mem_append_left _ (List.mem_cons_self ..), ?_⟩
        rw [hi, h.nodes, List.length_map]
    | node g a =>
        rw [Ledger.due, node?_addNode] at hs
        by_cases ha : n.address = a
        · subst ha
          exact .inl ⟨(.node g n.address, _), List.mem_append_left _
            (List.mem_cons_of_mem _ (List.mem_map_of_mem g.mem_all)), rfl⟩
        · rw [if_neg ha] at hs
          exact .inr hs
    | nodeMinipoolAt owner i =>
        change ((Function.update l.owned n.address [] owner)[i.toNat]?).map _ = some data at hs
        by_cases ha : owner = n.address
        · rw [ha, Function.update_self] at hs
          cases hs
        · rw [Function.update_of_ne ha] at hs
          exact .inr hs
    | _ => exact .inr hs

/-! ## Adding a minipool -/

theorem reply_withMinipoolCount {g : NodeGetter} (hg : g ≠ .minipoolCount) (n : Node)
    (count : Amount) : g.reply { n with minipoolCount := count } = g.reply n := by
  cases g with
  | minipoolCount => exact absurd rfl hg
  | _ => rfl

theorem minipool?_addMinipool (l : Ledger) (m : Minipool) (a : Address) :
    (l.apply (.addMinipool m)).minipool? a = if m.address = a then some m else l.minipool? a := by
  have hlast : (l.apply (.addMinipool m)).minipools.reverse = m :: l.minipools.reverse :=
    List.reverse_concat
  rw [Ledger.minipool?, hlast, List.find?_cons]
  by_cases ha : m.address = a
  · simp only [ha, decide_true, if_true]
  · simp only [ha, decide_false, if_false]
    rfl

theorem Lists.listMinipool (h : p.Lists storage l) (m : Minipool) :
    (p.listMinipool m).Lists storage (l.apply (.addMinipool m)) where
  registry := h.registry
  nodes := h.nodes
  minipools := by
    change p.minipools ++ [m.address] = (l.minipools ++ [m]).map Minipool.address
    rw [h.minipools, List.map_append, List.map_singleton]
  place a := by
    change (p.nodeMinipools.insert m.nodeAddress (p.place m.nodeAddress + 1)).getD a 0 =
      UInt64.ofNat (Function.update l.owned m.nodeAddress
        (l.owned m.nodeAddress ++ [m.address]) a).length
    rw [Std.HashMap.getD_insert]
    by_cases ha : m.nodeAddress = a
    · subst ha
      rw [if_pos (beq_iff_eq.mpr rfl), Function.update_self, List.length_append,
        List.length_singleton, h.place, Ledger.ownedCount]
      exact (UInt64.ofNat_add _ _).symm
    · rw [if_neg (mt beq_iff_eq.mp ha), Function.update_of_ne (Ne.symm ha)]
      exact h.place a
  owned a := by
    change (Function.update l.owned m.nodeAddress (l.owned m.nodeAddress ++ [m.address]) a).length ≤
      (l.minipools ++ [m]).length
    rw [List.length_append, List.length_singleton]
    by_cases ha : a = m.nodeAddress
    · rw [ha, Function.update_self, List.length_append, List.length_singleton]
      exact Nat.succ_le_succ (h.owned m.nodeAddress)
    · rw [Function.update_of_ne ha]
      exact Nat.le_succ_of_le (h.owned a)
  queue := h.queue
  balance := h.balance
  latest := h.latest
  failing := h.failing

/-- The number of a node's minipools changes when one is added, and nothing else that is due for
nodes. -/
theorem node?_addMinipool (l : Ledger) (m : Minipool) (a : Address) :
    (l.apply (.addMinipool m)).node? a =
      (l.node? a).map fun n => { n with
        minipoolCount := Amount.ofCount ((l.apply (.addMinipool m)).ownedCount a) } := by
  rw [Ledger.node?, Ledger.node?, Option.map_map]
  rfl

theorem ownedCount_addMinipool (l : Ledger) (m : Minipool) (a : Address) :
    (l.apply (.addMinipool m)).ownedCount a =
      if a = m.nodeAddress then l.ownedCount a + 1 else l.ownedCount a := by
  change UInt64.ofNat (Function.update l.owned m.nodeAddress
    (l.owned m.nodeAddress ++ [m.address]) a).length = _
  by_cases ha : a = m.nodeAddress
  · rw [if_pos ha, ha, Function.update_self, List.length_append, List.length_singleton]
    exact UInt64.ofNat_add _ _
  · rw [if_neg ha, Function.update_of_ne ha]
    rfl

theorem Lists.ofCount_place (h : p.Lists storage l) (hfits : l.minipools.length < UInt64.size)
    (a : Address) : Amount.ofCount (p.place a) = amountOfNat (l.owned a).length := by
  rw [h.place, Ledger.ownedCount, amountOfNat_eq (Nat.lt_of_le_of_lt (h.owned a) hfits)]

theorem addMinipool_due (h : p.Shows storage l) (m : Minipool)
    (hfits : l.minipools.length < UInt64.size) :
    ∀ w ∈ minipoolWrites p.minipools.length (p.place m.nodeAddress) m, ∀ data,
      (l.apply (.addMinipool m)).due w.1 = some data → w.2 = data := by
  have hindex : (amountOfNat p.minipools.length).toNat = l.minipools.length := by
    rw [h.minipools, List.length_map, toNat_amountOfNat hfits]
  intro w hw data hdue
  rw [minipoolWrites, List.mem_cons, List.mem_cons, List.mem_cons, List.mem_map] at hw
  rcases hw with rfl | rfl | rfl | ⟨g, -, rfl⟩
  · change ((l.minipools ++ [m])[(amountOfNat p.minipools.length).toNat]?).map _ = _ at hdue
    rw [hindex, List.getElem?_concat_length] at hdue
    exact Option.some.inj hdue
  · change ((Function.update l.owned m.nodeAddress (l.owned m.nodeAddress ++ [m.address])
      m.nodeAddress)[(Amount.ofCount (p.place m.nodeAddress)).toNat]?).map _ = _ at hdue
    rw [Function.update_self, h.ofCount_place hfits,
      toNat_amountOfNat (Nat.lt_of_le_of_lt (h.owned _) hfits), List.getElem?_concat_length] at hdue
    exact Option.some.inj hdue
  · rw [Ledger.due, node?_addMinipool, ownedCount_addMinipool, if_pos rfl] at hdue
    rw [h.place]
    cases hnode : l.node? m.nodeAddress with
    | none =>
        rw [hnode] at hdue
        cases hdue
    | some n =>
        rw [hnode] at hdue
        exact Option.some.inj hdue
  · rw [Ledger.due, minipool?_addMinipool, if_pos rfl] at hdue
    exact Option.some.inj hdue

/-- What is due for a node stays, but for the number of its minipools. -/
theorem due_node_of_addMinipool {m : Minipool} {g : NodeGetter} {a : Address} {data : Bytes}
    (h : ¬(g = .minipoolCount ∧ a = m.nodeAddress))
    (hs : (l.apply (.addMinipool m)).due (.node g a) = some data) :
    l.due (.node g a) = some data := by
  rw [Ledger.due, node?_addMinipool, ownedCount_addMinipool, Option.map_map] at hs
  by_cases hg : g = .minipoolCount
  · rw [if_neg fun ha => h ⟨hg, ha⟩, Ledger.node?, Option.map_map] at hs
    rw [Ledger.due, Ledger.node?, Option.map_map]
    exact hs
  · rw [Ledger.due, ← hs]
    exact congrArg (Option.map · _) (funext fun n => (reply_withMinipoolCount hg n _).symm)

theorem Shows.addMinipool (h : p.Shows storage l) (m : Minipool)
    (hfits : l.minipools.length < UInt64.size) :
    (p.addMinipool m).Shows storage (l.apply (.addMinipool m)) := by
  have hlists := h.toLists.listMinipool m
  rw [addMinipool_eq]
  refine h.step hlists rfl (fun w hw => ?_) (fun s data hs => ?_)
  · rcases List.mem_append.mp hw with hw | hw
    · rcases List.mem_append.mp hw with hw | hw
      · exact addMinipool_due h m hfits w hw
      · obtain ⟨partition, -, rfl⟩ := List.mem_map.mp hw
        exact hlists.indexWrite_due partition m.address
    · exact hlists.countWrites_due w hw
  · have hfirst : ∀ {w}, w ∈ minipoolWrites p.minipools.length (p.place m.nodeAddress) m →
        w ∈ minipoolWrites p.minipools.length (p.place m.nodeAddress) m ++
          Partition.drainOrder.map ((p.listMinipool m).indexWrite · m.address) ++
          (p.listMinipool m).countWrites :=
      fun hw => List.mem_append_left _ (List.mem_append_left _ hw)
    cases s with
    | minipoolCount =>
        exact .inl ⟨_, List.mem_append_right _ (List.mem_cons_of_mem _ (List.mem_cons_self ..)),
          rfl⟩
    | minipoolAt i =>
        change ((l.minipools ++ [m])[i.toNat]?).map _ = some data at hs
        refine (index_concat hs).imp_left fun hi => ⟨_, hfirst (List.mem_cons_self ..), ?_⟩
        rw [hi, h.minipools, List.length_map]
    | nodeMinipoolAt owner i =>
        change ((Function.update l.owned m.nodeAddress (l.owned m.nodeAddress ++ [m.address])
          owner)[i.toNat]?).map _ = some data at hs
        by_cases ha : owner = m.nodeAddress
        · subst ha
          rw [Function.update_self] at hs
          refine (index_concat hs).imp_left fun hi => ?_
          refine ⟨_, hfirst (List.mem_cons_of_mem _ (List.mem_cons_self ..)), ?_⟩
          rw [hi, h.ofCount_place hfits]
        · rw [Function.update_of_ne ha] at hs
          exact .inr hs
    | node g a =>
        by_cases hcount : g = .minipoolCount ∧ a = m.nodeAddress
        · obtain ⟨rfl, rfl⟩ := hcount
          exact .inl ⟨_, hfirst (List.mem_cons_of_mem _ (List.mem_cons_of_mem _
            (List.mem_cons_self ..))), rfl⟩
        · exact .inr (due_node_of_addMinipool hcount hs)
    | minipool g a =>
        rw [Ledger.due, minipool?_addMinipool] at hs
        by_cases ha : m.address = a
        · subst ha
          exact .inl ⟨(.minipool g m.address, _), hfirst (List.mem_cons_of_mem _
            (List.mem_cons_of_mem _ (List.mem_cons_of_mem _
              (List.mem_map_of_mem g.mem_all)))), rfl⟩
        · rw [if_neg ha] at hs
          exact .inr hs
    | indexOf partition a =>
        by_cases ha : a = m.address
        · subst ha
          refine .inl ⟨(p.listMinipool m).indexWrite partition m.address, ?_, rfl⟩
          exact List.mem_append_left _ (List.mem_append_right _
            (List.mem_map_of_mem partition.mem_drainOrder))
        · have hmem : a ∈ (l.minipools ++ [m]).map Minipool.address ↔
              a ∈ l.minipools.map Minipool.address := by
            simp [ha]
          change (if a ∈ (l.minipools ++ [m]).map Minipool.address then _ else none) = _ at hs
          rw [if_congr hmem rfl rfl] at hs
          exact .inr hs
    | _ => exact .inr hs

/-! ## The queue -/

theorem Lists.totalLength (h : p.Lists storage l) :
    p.totalLength = (Queue.whole l.waiting).length := by
  rw [← h.queue, Queue.whole, List.length_append, List.length_append]
  rfl

theorem Lists.queueWrites_due (h : q.Lists storage l') {partition : Partition}
    (hfits : (l'.waiting partition).length < UInt64.size) :
    ∀ w ∈ q.queueWrites partition, ∀ data, l'.due w.1 = some data → w.2 = data := by
  intro w hw data hdue
  rw [queueWrites, List.mem_append, List.mem_append, List.mem_map] at hw
  rcases hw with (hw | hw) | ⟨a, -, rfl⟩
  · simp only [List.mem_cons, List.not_mem_nil, or_false] at hw
    rcases hw with rfl | rfl
    · rw [h.queue]
      exact Option.some.inj hdue
    · rw [h.totalLength]
      exact Option.some.inj hdue
  · obtain ⟨⟨a, i⟩, hmem, rfl⟩ := List.mem_map.mp hw
    have hitem : (l'.waiting partition)[i]? = some a := by
      rw [← h.queue]
      exact List.mk_mem_zipIdx_iff_getElem?.mp hmem
    have hi := (List.getElem?_eq_some_iff.mp hitem).1
    rw [Ledger.due, toNat_amountOfNat (hi.trans hfits), hitem] at hdue
    exact Option.some.inj hdue
  · exact h.indexWrite_due partition a data hdue

theorem Lists.push (h : p.Lists storage l) (partition : Partition) (a : Address) :
    (p.push partition a).Lists storage (l.apply (.enqueue partition a)) := by
  have hqueue : (p.push partition a).queue = (l.apply (.enqueue partition a)).waiting := by
    rw [Ledger.apply, ← h.queue]
    funext other
    cases partition <;> cases other <;> rfl
  cases partition <;>
    exact ⟨h.registry, h.nodes, h.minipools, h.place, h.owned, hqueue, h.balance, h.latest,
      h.failing⟩

theorem Shows.enqueue (h : p.Shows storage l) (partition : Partition) (a : Address)
    (hfits : ((l.apply (.enqueue partition a)).waiting partition).length < UInt64.size) :
    (p.enqueue partition a).Shows storage (l.apply (.enqueue partition a)) := by
  have hlists := h.toLists.push partition a
  have hreplies : (p.push partition a).chain.replies = p.chain.replies := by
    cases partition <;> rfl
  rw [enqueue_eq]
  refine h.step hlists hreplies (hlists.queueWrites_due hfits) fun s data hs => ?_
  -- Only what is due for the partition itself changes, and that is all written.
  have hother : ∀ {other}, other ≠ partition →
      (l.apply (.enqueue partition a)).waiting other = l.waiting other :=
    fun hne => Function.update_of_ne hne _ _
  cases s with
  | length other =>
      by_cases hp : other = partition
      · exact .inl ⟨_, List.mem_append_left _ (List.mem_append_left _ (List.mem_cons_self ..)),
          congrArg Slot.length hp.symm⟩
      · rw [Ledger.due, hother hp] at hs
        exact .inr hs
  | totalLength =>
      exact .inl ⟨_, List.mem_append_left _ (List.mem_append_left _
        (List.mem_cons_of_mem _ (List.mem_cons_self ..))), rfl⟩
  | item other i =>
      by_cases hp : other = partition
      · subst hp
        obtain ⟨b, hb, -⟩ := Option.map_eq_some_iff.mp hs
        rw [← hlists.queue] at hb
        refine .inl ⟨_, List.mem_append_left _ (List.mem_append_right _
          (List.mem_map_of_mem (List.mk_mem_zipIdx_iff_getElem?.mpr hb))), ?_⟩
        exact congrArg (Slot.item _) (amountOfNat_toNat i)
      · rw [Ledger.due, hother hp] at hs
        exact .inr hs
  | indexOf other b =>
      by_cases hp : other = partition
      · subst hp
        rw [Ledger.due, Option.ite_none_right_eq_some, ← hlists.minipools] at hs
        exact .inl ⟨_, List.mem_append_right _ (List.mem_map_of_mem hs.1), rfl⟩
      · rw [Ledger.due, hother hp] at hs
        exact .inr hs
  | _ => exact .inr hs

/-! ## Settings -/

theorem Lists.of_settings (h : p.Lists storage l) (hnodes : l'.nodes = l.nodes)
    (hminipools : l'.minipools = l.minipools) (howned : l'.owned = l.owned)
    (hwaiting : l'.waiting = l.waiting) (hbalance : l'.balance = l.balance)
    (hlatest : l'.latest = l.latest) :
    p.Lists storage l' where
  registry := h.registry
  nodes := hnodes ▸ h.nodes
  minipools := hminipools ▸ h.minipools
  place a := by
    rw [Ledger.ownedCount, howned]
    exact h.place a
  owned a := by
    rw [howned, hminipools]
    exact h.owned a
  queue := hwaiting ▸ h.queue
  balance := hbalance ▸ h.balance
  latest := hlatest ▸ h.latest
  failing := h.failing

theorem Shows.setTotalStake (h : p.Shows storage l) (stake : Amount) :
    (p.setTotalEffectiveRplStake stake).Shows storage (l.apply (.setTotalStake stake)) := by
  have hlists : p.Lists storage (l.apply (.setTotalStake stake)) :=
    h.toLists.of_settings rfl rfl rfl rfl rfl rfl
  rw [setTotalStake_eq]
  refine h.step hlists rfl (fun w hw data hdue => ?_) (fun s data hs => ?_)
  · cases List.mem_singleton.mp hw
    exact Option.some.inj hdue
  · cases s with
    | totalStake => exact .inl ⟨_, List.mem_singleton_self _, rfl⟩
    | _ => exact .inr hs

theorem capacityWrites_due :
    ∀ w ∈ capacityWrites l.capacity, ∀ data, l.due w.1 = some data → w.2 = data := by
  intro w hw data hdue
  simp only [capacityWrites, List.mem_cons, List.not_mem_nil, or_false] at hw
  rcases hw with rfl | rfl | rfl <;> exact Option.some.inj hdue

theorem Shows.setCapacity (h : p.Shows storage l) (capacity : QueueCapacity) :
    (p.setCapacity capacity).Shows storage (l.apply (.setCapacity capacity)) := by
  have hlists : p.Lists storage (l.apply (.setCapacity capacity)) :=
    h.toLists.of_settings rfl rfl rfl rfl rfl rfl
  rw [setCapacity_eq]
  refine h.step hlists rfl
    (capacityWrites_due (l := l.apply (.setCapacity capacity))) fun s data hs => ?_
  cases s with
  | totalCapacity => exact .inl ⟨_, List.mem_cons_self .., rfl⟩
  | effectiveCapacity => exact .inl ⟨_, List.mem_cons_of_mem _ (List.mem_cons_self ..), rfl⟩
  | nextCapacity =>
      exact .inl ⟨_, List.mem_cons_of_mem _ (List.mem_cons_of_mem _ (List.mem_cons_self ..)), rfl⟩
  | _ => exact .inr hs

theorem Shows.setBalance (h : p.Shows storage l) (account : Address) (balance : Amount) :
    (p.apply (.setBalance account balance)).Shows storage
      (l.apply (.setBalance account balance)) := by
  refine ⟨⟨h.registry, h.nodes, h.minipools, h.place, h.owned, h.queue, fun a => ?_, h.latest,
    h.failing⟩, h.reply⟩
  change (p.chain.balances.insert account balance).getD a 0 =
    Function.update l.balance account balance a
  rw [Std.HashMap.getD_insert]
  by_cases ha : account = a
  · rw [if_pos (beq_iff_eq.mpr ha), ha, Function.update_self]
  · rw [if_neg (mt beq_iff_eq.mp ha), Function.update_of_ne (Ne.symm ha)]
    exact h.balance a

/-! ## Histories -/

theorem lists_unwritten (storage : Address) : (unwritten storage).Lists storage .empty where
  registry := rfl
  nodes := rfl
  minipools := rfl
  place _ := Std.HashMap.getD_empty
  owned _ := Nat.le_refl 0
  queue := funext fun partition => by cases partition <;> rfl
  balance _ := Std.HashMap.getD_empty
  latest := rfl
  failing := rfl

theorem firstWrites_due (storage : Address) :
    ∀ w ∈ firstWrites storage, ∀ data, Ledger.empty.due w.1 = some data → w.2 = data := by
  have hlists := lists_unwritten storage
  intro w hw data hdue
  simp only [firstWrites, List.mem_append] at hw
  rcases hw with (((hw | hw) | hw) | hw) | hw
  · obtain ⟨k, hk, rfl⟩ := List.mem_map.mp hw
    have hindex : ∀ k ∈ ContractName.all.zipIdx, k.2 = ContractName.all.idxOf k.1 := by decide
    rw [contractWrite, hindex k hk]
    exact Option.some.inj hdue
  · exact hlists.countWrites_due w hw data hdue
  · cases List.mem_singleton.mp hw
    exact Option.some.inj hdue
  · exact capacityWrites_due (l := .empty) w hw data hdue
  · obtain ⟨partition, -, hw⟩ := List.mem_flatMap.mp hw
    exact hlists.queueWrites_due (by decide : 0 < UInt64.size) w hw data hdue

theorem shows_new (storage : Address) : (new storage).Shows storage .empty := by
  rw [new_eq]
  refine ⟨(lists_unwritten storage).writeAll _, fun s data hs => ?_⟩
  refine reply_writeAll (deployed_tokensDiffer storage)
    (fun w hw heq => firstWrites_due storage w hw data (heq ▸ hs)) (.inl ?_)
  simp only [firstWrites, List.mem_append]
  cases s with
  | contract name =>
      have hname : (name, ContractName.all.idxOf name) ∈ ContractName.all.zipIdx := by
        cases name <;> decide
      exact ⟨_, .inl (.inl (.inl (.inl (List.mem_map_of_mem hname)))), rfl⟩
  | nodeCount => exact ⟨_, .inl (.inl (.inl (.inr (List.mem_cons_self ..)))), rfl⟩
  | minipoolCount =>
      exact ⟨_, .inl (.inl (.inl (.inr (List.mem_cons_of_mem _ (List.mem_cons_self ..))))), rfl⟩
  | totalStake => exact ⟨_, .inl (.inl (.inr (List.mem_singleton_self _))), rfl⟩
  | totalCapacity => exact ⟨_, .inl (.inr (List.mem_cons_self ..)), rfl⟩
  | effectiveCapacity =>
      exact ⟨_, .inl (.inr (List.mem_cons_of_mem _ (List.mem_cons_self ..))), rfl⟩
  | nextCapacity =>
      exact ⟨_, .inl (.inr (List.mem_cons_of_mem _ (List.mem_cons_of_mem _
        (List.mem_cons_self ..)))), rfl⟩
  | length partition =>
      exact ⟨_, .inr (List.mem_flatMap.mpr ⟨partition, partition.mem_drainOrder,
        List.mem_append_left _ (List.mem_append_left _ (List.mem_cons_self ..))⟩), rfl⟩
  | totalLength =>
      exact ⟨_, .inr (List.mem_flatMap.mpr ⟨.half, List.mem_cons_self ..,
        List.mem_append_left _ (List.mem_append_left _ (List.mem_cons_of_mem _
          (List.mem_cons_self ..)))⟩), rfl⟩
  | indexOf => simp [Ledger.due, Ledger.empty] at hs
  | nodeAt | node | minipoolAt | nodeMinipoolAt | minipool | item => cases hs

theorem Shows.apply (h : p.Shows storage l) (step : Step) (hfits : (l.apply step).Fits) :
    (p.apply step).Shows storage (l.apply step) := by
  cases step with
  | addNode n => exact h.addNode n hfits.of_apply.nodes
  | addMinipool m => exact h.addMinipool m hfits.of_apply.minipools
  | enqueue partition a => exact h.enqueue partition a (hfits.waiting partition)
  | setTotalStake stake => exact h.setTotalStake stake
  | setCapacity capacity => exact h.setCapacity capacity
  | setBalance account balance => exact h.setBalance account balance
  | setLatest =>
      exact ⟨⟨h.registry, h.nodes, h.minipools, h.place, h.owned, h.queue, h.balance, rfl,
        h.failing⟩, h.reply⟩
  | setDelay =>
      exact ⟨⟨h.registry, h.nodes, h.minipools, h.place, h.owned, h.queue, h.balance, h.latest,
        h.failing⟩, h.reply⟩

end Protocol

/-- After any history that fits, the deployment lists what the ledger does, and replies to every
call what is due. -/
theorem Protocol.shows_after (storage : Address) (steps : List Step)
    (hfits : (Ledger.after steps).Fits) :
    (Protocol.after storage steps).Shows storage (Ledger.after steps) := by
  induction steps using List.reverseRecOn with
  | nil =>
      rw [Protocol.after, Ledger.after, List.foldl_nil, List.foldl_nil]
      exact shows_new storage
  | append_singleton steps step ih =>
      have hledger : Ledger.after (steps ++ [step]) = (Ledger.after steps).apply step :=
        List.foldl_append
      have hprotocol : Protocol.after storage (steps ++ [step]) =
          (Protocol.after storage steps).apply step := List.foldl_append
      rw [hledger] at hfits ⊢
      rw [hprotocol]
      exact (ih hfits.of_apply).apply step hfits

end StakeSnapshot.Simulation
