import Mathlib.Data.Prod.Basic
import StakeSnapshot.Proofs.Contract.Selectors
import StakeSnapshot.Proofs.Task.Steady
import StakeSnapshot.Proofs.Task.Trails
import StakeSnapshot.Request

/-!
# Loading the registry

The lookups of the contracts, their replies and the places in the registry are paired by position
alone. What is proved here is that the pairing is right, and that there is no registry with a place
left out: `Registry.load` sends one batch, and ends with a registry exactly if each contract has a
reply of its own which tells an address that is not zero. That address is then in the contract's own
place. In all other cases it ends in an error.
-/

namespace StakeSnapshot.Registry

variable {block : UInt64} {storage : Address}

/-- The registry that has the given address in the place of each contract. -/
def ofAddresses (storage : Address) (address : ContractName → Address) : Registry where
  storage := storage
  nodeManager := address .nodeManager
  nodeDistributorFactory := address .nodeDistributorFactory
  nodeStaking := address .nodeStaking
  nodeDeposit := address .nodeDeposit
  minipoolManager := address .minipoolManager
  minipoolQueue := address .minipoolQueue
  addressQueueStorage := address .addressQueueStorage
  tokenReth := address .tokenReth
  tokenRpl := address .tokenRpl
  tokenRplFixedSupply := address .tokenRplFixedSupply

theorem get_ofAddresses (address : ContractName → Address) (name : ContractName) :
    (ofAddresses storage address).get name = address name := by
  cases name <;> rfl

theorem eq_ofAddresses (r : Registry) : r = ofAddresses r.storage r.get := rfl

/-- Different contracts are looked up by different calls. -/
theorem lookup_injective (storage : Address) : Function.Injective (lookup storage) := by
  intro name name' h
  have hargs := (Abi.Method.call_eq_iff.mp h).2.2
  have hkeys := Abi.encode_injective (by decide) (by decide) hargs
  exact ContractName.storageKey_injective (congrArg Prod.fst hkeys)

/-! ## Reading the replies -/

/-- The reply tells the address of a contract that is registered. -/
def Tells (data : Bytes) (a : Address) : Prop :=
  Contract.Storage.getAddress.decodeResult data = .ok a ∧ a ≠ .zero

/-- What is wrong with the reply to the lookup of a contract. -/
inductive Unread (block : UInt64) (name : ContractName) (data : Bytes) : Error → Prop where
  | undecodable {e : Abi.DecodeError}
      (h : Contract.Storage.getAddress.decodeResult data = .error e) :
      Unread block name data e.toError
  | unregistered (h : Contract.Storage.getAddress.decodeResult data = .ok .zero) :
      Unread block name data
        (.of .decodeMismatch s!"contract {name.text} is not registered at block {block}")

theorem Unread.kind_eq {name : ContractName} {data : Bytes} {e : Error}
    (h : Unread block name data e) : e.kind = .decodeMismatch := by
  cases h <;> rfl

theorem Unread.not_tells {name : ContractName} {data : Bytes} {e : Error}
    (h : Unread block name data e) (a : Address) : ¬ Tells data a := by
  rintro ⟨hdata, ha⟩
  cases h with
  | undecodable h => cases h.symm.trans hdata
  | unregistered h =>
      cases h.symm.trans hdata
      exact ha rfl

theorem readAddress_eq_ok {name : ContractName} {data : Bytes} {a : Address} :
    readAddress block name data = .ok a ↔ Tells data a := by
  unfold readAddress Tells
  cases hdata : Contract.Storage.getAddress.decodeResult data with
  | error e => simp
  | ok a' =>
      by_cases ha' : a' = .zero
      · simp only [ha', if_true, fail]
        exact ⟨fun h => (by cases h), fun ⟨h, ha⟩ => absurd (Except.ok.inj h).symm ha⟩
      · simp only [ha', if_false, Except.ok.injEq]
        exact ⟨fun h => ⟨h, h ▸ ha'⟩, And.left⟩

theorem readAddress_eq_error {name : ContractName} {data : Bytes} {e : Error}
    (h : readAddress block name data = .error e) : Unread block name data e := by
  unfold readAddress at h
  cases hdata : Contract.Storage.getAddress.decodeResult data with
  | error e' =>
      rw [hdata] at h
      cases h
      exact .undecodable hdata
  | ok a =>
      rw [hdata] at h
      dsimp only at h
      split at h
      · next ha =>
          cases h
          exact .unregistered (ha ▸ hdata)
      · cases h

theorem enter_cons_eq_ok {r r' : Registry} {name : ContractName} {data : Bytes}
    {entries : List (ContractName × Bytes)} :
    enter block r ((name, data) :: entries) = .ok r' ↔
      ∃ a, Tells data a ∧ enter block (r.set name a) entries = .ok r' := by
  have told (a : Address) : Tells data a ↔ readAddress block name data = .ok a :=
    readAddress_eq_ok.symm
  simp only [enter, told]
  cases readAddress block name data with
  | ok a => simp
  | error e => simp

/-- Each address is entered in the place of its own contract, and no other place is touched. -/
theorem enter_eq_ok {entries : List (ContractName × Bytes)}
    (hnodup : (entries.map Prod.fst).Nodup) {r r' : Registry} :
    enter block r entries = .ok r' ↔
      r'.storage = r.storage ∧ (∀ entry ∈ entries, Tells entry.2 (r'.get entry.1)) ∧
        ∀ name ∉ entries.map Prod.fst, r'.get name = r.get name := by
  induction entries generalizing r with
  | nil =>
      refine ⟨fun h => ?_, fun ⟨hstorage, _, hget⟩ => ?_⟩
      · cases h
        exact ⟨rfl, fun _ hentry => (List.not_mem_nil hentry).elim, fun _ _ => rfl⟩
      · have get_eq : r'.get = r.get := funext fun name => hget name List.not_mem_nil
        rw [enter, r.eq_ofAddresses, r'.eq_ofAddresses, hstorage, get_eq]
  | cons entry entries ih =>
      obtain ⟨name, data⟩ := entry
      obtain ⟨hname, hnodup⟩ := List.nodup_cons.mp hnodup
      simp only [enter_cons_eq_ok, ih hnodup, storage_set]
      constructor
      · rintro ⟨a, ha, hstorage, htells, hget⟩
        have entered : r'.get name = a := (hget name hname).trans (r.get_set_self name a)
        refine ⟨hstorage, List.forall_mem_cons.mpr ⟨entered ▸ ha, htells⟩, fun other hother => ?_⟩
        obtain ⟨hne, hother⟩ := not_or.mp (List.mem_cons.not.mp hother)
        exact (hget other hother).trans (r.get_set_of_ne a hne)
      · rintro ⟨hstorage, htells, hget⟩
        obtain ⟨htold, htells⟩ := List.forall_mem_cons.mp htells
        refine ⟨r'.get name, htold, hstorage, htells, fun other hother => ?_⟩
        by_cases h : other = name
        · rw [h, get_set_self]
        · rw [r.get_set_of_ne _ h]
          exact hget other (List.mem_cons.not.mpr (not_or.mpr ⟨h, hother⟩))

/-- The first reply that tells no address is the one that is reported. -/
theorem enter_eq_error {entries : List (ContractName × Bytes)} {r : Registry} {e : Error}
    (h : enter block r entries = .error e) :
    ∃ before name data after, entries = before ++ (name, data) :: after ∧
      (∀ entry ∈ before, ∃ a, Tells entry.2 a) ∧ Unread block name data e := by
  induction entries generalizing r with
  | nil => cases h
  | cons entry entries ih =>
      obtain ⟨name, data⟩ := entry
      rw [enter] at h
      split at h
      · next a hread =>
          obtain ⟨before, name', data', after, rfl, htold, hunread⟩ := ih h
          exact ⟨(name, data) :: before, name', data', after, rfl,
            List.forall_mem_cons.mpr ⟨⟨a, readAddress_eq_ok.mp hread⟩, htold⟩, hunread⟩
      · next hread =>
          cases h
          exact ⟨[], name, data, entries, rfl, fun _ h => (List.not_mem_nil h).elim,
            readAddress_eq_error hread⟩

/-- Why no registry is made of the replies to the lookups of all contracts. -/
inductive Refused (block : UInt64) (replies : List Bytes) : Error → Prop where
  | wrongCount (h : replies.length ≠ ContractName.all.length) :
      Refused block replies (.of .decodeMismatch
        s!"expected {ContractName.all.length} contract addresses, got {replies.length}")
  /-- The first of the replies that tells no address says what is wrong. -/
  | unread {before after : List (ContractName × Bytes)} {name : ContractName} {data : Bytes}
      {e : Error} (count : replies.length = ContractName.all.length)
      (hentries : ContractName.all.zip replies = before ++ (name, data) :: after)
      (htold : ∀ entry ∈ before, ∃ a, Tells entry.2 a) (h : Unread block name data e) :
      Refused block replies e

theorem Refused.kind_eq {replies : List Bytes} {e : Error} (h : Refused block replies e) :
    e.kind = .decodeMismatch := by
  cases h with
  | wrongCount => rfl
  | unread _ _ _ h => exact h.kind_eq

/-- There is one reply for each contract, and each tells an address. -/
def AllTold (replies : List Bytes) : Prop :=
  replies.length = ContractName.all.length ∧ ∀ data ∈ replies, ∃ a, Tells data a

theorem Refused.not_allTold {replies : List Bytes} {e : Error} (h : Refused block replies e) :
    ¬ AllTold replies := by
  rintro ⟨hcount, htold⟩
  cases h with
  | wrongCount h => exact h hcount
  | @unread _ _ name data _ _ hentries _ h =>
      have entry : (name, data) ∈ ContractName.all.zip replies := by
        rw [hentries]
        exact List.mem_append_right _ List.mem_cons_self
      obtain ⟨a, ha⟩ := htold data (List.of_mem_zip entry).2
      exact h.not_tells a ha

/-- The registry has, in the place of each contract, the address that is told by the reply to the
lookup of this contract. -/
def PairedWith (replies : List Bytes) (storage : Address) (r : Registry) : Prop :=
  ∃ address, r = ofAddresses storage address ∧ ∀ name, ∃ data,
    (lookup storage name, data) ∈ (ContractName.all.map (lookup storage)).zip replies ∧
      Tells data (address name)

theorem mem_zip_lookups {replies : List Bytes} {name : ContractName} {data : Bytes} :
    (lookup storage name, data) ∈ (ContractName.all.map (lookup storage)).zip replies ↔
      (name, data) ∈ ContractName.all.zip replies := by
  rw [List.zip_map_left]
  exact List.mem_map_of_injective (a := (name, data))
    (Function.Injective.prodMap (lookup_injective storage) Function.injective_id)

theorem ofReplies_eq_ok {replies : List Bytes} {r : Registry} :
    ofReplies storage block replies = .ok r ↔ AllTold replies ∧ r.PairedWith replies storage := by
  unfold ofReplies
  split
  next hcount =>
    have names : (ContractName.all.zip replies).map Prod.fst = ContractName.all :=
      List.map_fst_zip (Nat.le_of_eq hcount.symm)
    have told : (ContractName.all.zip replies).map Prod.snd = replies :=
      List.map_snd_zip (Nat.le_of_eq hcount)
    have hnodup : ((ContractName.all.zip replies).map Prod.fst).Nodup := by
      rw [names]
      decide
    rw [enter_eq_ok hnodup]
    constructor
    · rintro ⟨hstorage, htells, -⟩
      obtain rfl : r.storage = storage := hstorage
      refine ⟨⟨hcount, fun data hdata => ?_⟩, r.get, r.eq_ofAddresses, fun name => ?_⟩
      · obtain ⟨entry, hentry, rfl⟩ := List.mem_map.mp (told ▸ hdata)
        exact ⟨_, htells entry hentry⟩
      · obtain ⟨⟨_, data⟩, hentry, rfl⟩ := List.mem_map.mp (names ▸ name.mem_all)
        exact ⟨data, mem_zip_lookups.mpr hentry, htells _ hentry⟩
    · rintro ⟨-, address, rfl, haddress⟩
      refine ⟨rfl, fun entry hentry => ?_, fun name hname => ?_⟩
      · obtain ⟨data, hdata, htells⟩ := haddress entry.1
        have same := List.inj_on_of_nodup_map hnodup hentry (mem_zip_lookups.mp hdata) rfl
        rw [get_ofAddresses, same]
        exact htells
      · rw [names] at hname
        exact absurd name.mem_all hname
  next hcount => exact ⟨fun h => (by cases h), fun ⟨told, _⟩ => absurd told.1 hcount⟩

theorem ofReplies_eq_error {replies : List Bytes} {e : Error}
    (h : ofReplies storage block replies = .error e) : Refused block replies e := by
  unfold ofReplies at h
  split at h
  · next hcount =>
      obtain ⟨before, name, data, after, hentries, htold, hunread⟩ := enter_eq_error h
      exact .unread hcount hentries htold hunread
  · next hcount =>
      cases h
      exact .wrongCount hcount

theorem exists_ofReplies_eq_ok {replies : List Bytes} :
    (∃ r, ofReplies storage block replies = .ok r) ↔ AllTold replies := by
  constructor
  · rintro ⟨r, hr⟩
    exact (ofReplies_eq_ok.mp hr).1
  · intro told
    cases hread : ofReplies storage block replies with
    | ok r => exact ⟨r, rfl⟩
    | error e => exact absurd told (ofReplies_eq_error hread).not_allTold

/-! ## The load -/

/-- What a load has to do with its surroundings. -/
inductive LoadEvent where
  | sent (calls : List ContractCall) (block : UInt64)
  | answered (replies : Outcome (List Bytes))
  /-- Any question that is not a batch of calls. -/
  | other

namespace LoadEvent

def ofQuery : {α : Type} → Query α → Option LoadEvent
  | _, .execution (.batchCall calls block) => some (sent calls block)
  | _, _ => some other

def ofAnswer : {α : Type} → Query α → Outcome α → Option LoadEvent
  | _, .execution (.batchCall _ _), r => some (answered r)
  | _, _, _ => none

end LoadEvent

open LoadEvent in
theorem leaves_load {o : Outcome Registry} {l : List LoadEvent}
    (h : (load storage block).Leaves .any ofQuery ofAnswer (some o) l) :
    ∃ answer, l = [.sent (ContractName.all.map (lookup storage)) block, .answered answer] ∧
      o = match answer with
        | .error f => .error (f.mapError (.context "loading contract addresses"))
        | .ok replies => .ofExcept (ofReplies storage block replies) := by
  rcases Task.leaves_bind.mp h with ⟨hnone, -⟩ | ⟨f, ho, hbatch⟩ |
    ⟨replies, l, _, rfl, hbatch, hread⟩
  · cases hnone
  · cases ho
    obtain ⟨_ | answer | replies, hanswer, hasked⟩ := Task.leaves_mapError.mp hbatch
    · cases hanswer
    · cases hanswer
      exact ⟨_, hasked.2, rfl⟩
    · cases hanswer
  · obtain ⟨_ | answer | replies, hanswer, hasked⟩ := Task.leaves_mapError.mp hbatch
    · cases hanswer
    · cases hanswer
    · cases hanswer
      obtain ⟨ho, rfl⟩ := hread
      rw [List.append_nil]
      exact ⟨_, hasked.2, Option.some.inj ho⟩

/-- Whatever the chain answers, a registry is loaded by one batch of lookups, all different. There
is a registry exactly if the replies tell an address for each contract, and it has each address in
the place of the contract whose lookup was replied to by it. An error of the chain keeps its kind,
and replies of the wrong number or with an address missing are a mismatch. -/
theorem load_completeOrRefused {σ : Type} (service : Service Query σ) (s : σ) (storage : Address)
    (block : UInt64) {last : Outcome Registry × σ × List LoadEvent}
    (hlast : (load storage block).EndsIn
      (service.recording LoadEvent.ofQuery LoadEvent.ofAnswer) (s, []) last) :
    Function.Injective (lookup storage) ∧ ∃ answer,
      last.2.2 = [.sent (ContractName.all.map (lookup storage)) block, .answered answer] ∧
      match answer with
      | .ok replies =>
          ((∃ r, last.1 = .ok r) ↔ AllTold replies) ∧
          (∀ r, last.1 = .ok r → r.PairedWith replies storage) ∧
          ∀ f, last.1 = .error f → ∃ e, f = .error e ∧ e.kind = .decodeMismatch ∧
            Refused block replies e
      | .error (.error e) =>
          ∃ e', last.1 = .error (.error e') ∧ e'.kind = e.kind ∧
            e' = e.context "loading contract addresses"
      | .error (.fault f) => last.1 = .error (.fault f) := by
  obtain ⟨o, s', l⟩ := last
  have records := service.records_any LoadEvent.ofQuery LoadEvent.ofAnswer
  obtain ⟨_, rfl, hleaves⟩ := hlast.leaves records (Task.asks_any _) trivial
  obtain ⟨answer, hl, ho⟩ := leaves_load hleaves
  refine ⟨lookup_injective storage, answer, hl, ?_⟩
  rcases answer with (e | f) | replies
  · exact ⟨_, ho, rfl, rfl⟩
  · exact ho
  have read : o = .ofExcept (ofReplies storage block replies) := ho
  refine ⟨?_, fun r hr => ?_, fun f hf => ?_⟩
  · simp only [read, Outcome.ofExcept, mapError_eq_ok]
    exact exists_ofReplies_eq_ok
  · exact (ofReplies_eq_ok.mp ((mapError_eq_ok _ _ _).mp (read.symm.trans hr))).2
  · have hf := read.symm.trans hf
    cases hread : ofReplies storage block replies with
    | ok r =>
        rw [hread] at hf
        cases hf
    | error e =>
        rw [hread] at hf
        cases hf
        have refused := ofReplies_eq_error hread
        exact ⟨e, rfl, refused.kind_eq, refused⟩

/-- The answers of a chain on which storage has these replies to any lookups. -/
def replying (replies : List Bytes) : {α : Type} → Query α → Outcome α
  | _, .execution (.batchCall _ _) => .ok replies
  | _, _ => .error (.error (.bare .sourceUnavailable))

/-- A chain with these replies, and a record of what a load has to do with it. -/
def sampleChain (replies : List Bytes) : Service Query (Unit × List LoadEvent) :=
  (Service.fixed (replying replies)).recording LoadEvent.ofQuery LoadEvent.ofAnswer

/-- The replies that tell the addresses from one to ten, save that at one place. -/
def repliesWithout (place : Nat) : List Bytes :=
  (List.range 10).map fun i =>
    Contract.Storage.getAddress.encodeResult (if i = place then .zero else .ofNat (i + 1))

theorem answer_sampleChain {replies : List Bytes} {answer : Outcome (List Bytes)}
    (h : ((load .zero 7).run (sampleChain replies) ((), [])).2.2 =
      [.sent (ContractName.all.map (lookup .zero)) 7, .answered answer]) :
    answer = .ok replies := by
  have record : [LoadEvent.sent (ContractName.all.map (lookup .zero)) 7,
    .answered (.ok replies)] = _ := h
  cases record
  rfl

theorem load_sampleReplies :
    let load := fun replies => ((load .zero 7).run (sampleChain replies) ((), [])).1
    (∃ r, load (repliesWithout 10) = .ok r ∧ r.PairedWith (repliesWithout 10) .zero ∧
      r.nodeManager = .ofNat 1 ∧ r.tokenRpl = .ofNat 9) ∧
    ∃ e, load (repliesWithout 8) = .error (.error e) ∧ Refused 7 (repliesWithout 8) e ∧
      e.message = "contract rocketTokenRPL is not registered at block 7: decode mismatch" := by
  intro load
  have loaded : ∃ r, load (repliesWithout 10) = .ok r ∧
      r.nodeManager = .ofNat 1 ∧ r.tokenRpl = .ofNat 9 := ⟨_, rfl, rfl, rfl⟩
  have missed : ∃ e, load (repliesWithout 8) = .error (.error e) ∧
      e.message = "contract rocketTokenRPL is not registered at block 7: decode mismatch" :=
    ⟨_, rfl, rfl⟩
  have law := fun replies =>
    load_completeOrRefused (.fixed (replying replies)) () .zero 7 (.inl rfl)
  constructor
  · obtain ⟨r, hr, hfields⟩ := loaded
    obtain ⟨-, answer, hl, h⟩ := law (repliesWithout 10)
    obtain rfl := answer_sampleChain hl
    exact ⟨r, hr, h.2.1 r hr, hfields⟩
  · obtain ⟨e, he, hmessage⟩ := missed
    obtain ⟨-, answer, hl, h⟩ := law (repliesWithout 8)
    obtain rfl := answer_sampleChain hl
    obtain ⟨_, hf, -, refused⟩ := h.2.2 _ he
    cases hf
    exact ⟨e, he, refused, hmessage⟩

end StakeSnapshot.Registry
