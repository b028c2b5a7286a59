import Mathlib.Algebra.Order.Floor.Div
import StakeSnapshot.Proofs.Configuration
import StakeSnapshot.Proofs.Task.Counting

/-!
# Batches and single calls

A fetch cuts its keys into batches and lays the calls of a batch out in one list, key after key. If
the answer to a batch is the list of the answers to its calls, the fetch comes to the records that
direct calls give for the keys, one by one (`mayEnd_fetch_ok`), so where the cuts are makes no
difference. The same holds for balances.
-/

namespace StakeSnapshot.Fetch

open StakeSnapshot.Task

variable {α β κ ρ : Type}

/-! ## Cutting a list into batches -/

theorem chunks_nil (size : Nat) : chunks size ([] : List α) = [] := by
  rw [chunks]

theorem chunks_cons (size : Nat) (a : α) (rest : List α) :
    chunks size (a :: rest) =
      (a :: rest).take (max size 1) :: chunks size ((a :: rest).drop (max size 1)) := by
  rw [chunks]

theorem flatten_chunks (size : Nat) (items : List α) : (chunks size items).flatten = items := by
  induction items using chunks.induct size with
  | case1 => rw [chunks_nil, List.flatten_nil]
  | case2 a rest ih => rw [chunks_cons, List.flatten_cons, ih, List.take_append_drop]

theorem length_chunks (size : Nat) (items : List α) :
    (chunks size items).length = items.length ⌈/⌉ max size 1 := by
  induction items using chunks.induct size with
  | case1 => rw [chunks_nil, List.length_nil, List.length_nil, zero_ceilDiv]
  | case2 a rest ih =>
      have hsize : 0 < max size 1 := by omega
      have hlength : (a :: rest).length = rest.length + 1 := rfl
      rw [chunks_cons, List.length_cons, ih, List.length_drop, hlength,
        Nat.ceilDiv_eq_add_pred_div, Nat.ceilDiv_eq_add_pred_div]
      generalize max size 1 = n at hsize
      rw [show rest.length + 1 + n - 1 = rest.length + n by omega, Nat.add_div_right _ hsize]
      congr 1
      by_cases h : rest.length + 1 ≤ n
      · rw [Nat.sub_eq_zero_of_le h, Nat.div_eq_of_lt (by omega), Nat.div_eq_of_lt (by omega)]
      · rw [show rest.length + 1 - n + n - 1 = rest.length by omega]

theorem forall₂_append {R : α → β → Prop} (first rest : List α) (bs : List β) :
    List.Forall₂ R (first ++ rest) bs ↔
      List.Forall₂ R first (bs.take first.length) ∧ List.Forall₂ R rest (bs.drop first.length) := by
  constructor
  · intro h
    have left := List.forall₂_take_append bs first rest h.flip
    have right := List.forall₂_drop_append bs first rest h.flip
    exact ⟨left.flip, right.flip⟩
  · rintro ⟨left, right⟩
    have h : List.Forall₂ R (first ++ rest) (bs.take first.length ++ bs.drop first.length) :=
      List.rel_append left right
    rwa [List.take_append_drop] at h

theorem forall₂_mem_right {α β : Type*} {R : α → β → Prop} {as : List α} {bs : List β}
    (h : List.Forall₂ R as bs) {b : β} (hb : b ∈ bs) : ∃ a ∈ as, R a b := by
  induction h with
  | nil => cases hb
  | @cons a b' as bs hR _ ih =>
      rcases List.mem_cons.mp hb with rfl | hb
      · exact ⟨a, List.mem_cons_self .., hR⟩
      · obtain ⟨a', ha', hR'⟩ := ih hb
        exact ⟨a', List.mem_cons_of_mem _ ha', hR'⟩

/-- Two lists of lists that are related part by part are the same as two related lists. -/
theorem forall₂_flatten {R : α → β → Prop} (parts : List (List α)) (bs : List β) :
    (∃ rs, List.Forall₂ (List.Forall₂ R) parts rs ∧ bs = rs.flatten) ↔
      List.Forall₂ R parts.flatten bs := by
  constructor
  · rintro ⟨rs, hrs, rfl⟩
    exact List.rel_flatten hrs
  · intro h
    induction parts generalizing bs with
    | nil =>
        rw [List.flatten_nil, List.forall₂_nil_left_iff] at h
        exact ⟨[], .nil, h⟩
    | cons part parts ih =>
        rw [List.flatten_cons, forall₂_append] at h
        obtain ⟨rs, hrs, hflat⟩ := ih _ h.2
        refine ⟨bs.take part.length :: rs, .cons h.1 hrs, ?_⟩
        rw [List.flatten_cons, ← hflat, List.take_append_drop]

/-! ## The records of a batch -/

/-- What direct calls for the fields of a key give, stored in a record. -/
def Direct (answers : {α : Type} → ExecutionQuery α → Outcome α) (fields : List (FieldSpec κ ρ))
    (registry : Registry) (block : UInt64) (key : κ) (start r : ρ) : Prop :=
  ∃ replies,
    List.Forall₂ (fun f data => answers (.call (f.call registry key) block) = .ok data) fields
      replies ∧
    storeAll fields replies start = .ok r

theorem storeRecords_cons_ok (init : κ → ρ) (fields : List (FieldSpec κ ρ)) (key : κ)
    (keys : List κ) (replies : List Bytes) (rs : List ρ) :
    storeRecords init fields (key :: keys) replies = .ok rs ↔
      ∃ r rest, storeAll fields (replies.take fields.length) (init key) = .ok r ∧
        storeRecords init fields keys (replies.drop fields.length) = .ok rest ∧
        rs = r :: rest := by
  rw [storeRecords]
  cases storeAll fields (replies.take fields.length) (init key) with
  | error e => simp [bind, Except.bind]
  | ok r =>
      cases storeRecords init fields keys (replies.drop fields.length) with
      | error e => simp [bind, Except.bind]
      | ok rest => simp [bind, Except.bind, eq_comm]

theorem callsFor_cons (fields : List (FieldSpec κ ρ)) (registry : Registry) (key : κ)
    (keys : List κ) :
    callsFor fields registry (key :: keys) =
      (fields.map fun f => f.call registry key) ++ callsFor fields registry keys :=
  List.flatMap_cons

/-- The replies to the calls of a batch give the records that direct calls give. -/
theorem storeRecords_ok {answers : {α : Type} → ExecutionQuery α → Outcome α} (init : κ → ρ)
    (fields : List (FieldSpec κ ρ)) (registry : Registry) (block : UInt64) (keys : List κ)
    (rs : List ρ) :
    (∃ replies,
      List.Forall₂ (fun call data => answers (.call call block) = .ok data)
        (callsFor fields registry keys) replies ∧
      storeRecords init fields keys replies = .ok rs) ↔
    List.Forall₂ (fun key r => Direct answers fields registry block key (init key) r) keys rs := by
  induction keys generalizing rs with
  | nil =>
      constructor
      · rintro ⟨replies, -, hstore⟩
        cases hstore
        exact .nil
      · rintro ⟨⟩
        exact ⟨[], .nil, rfl⟩
  | cons key keys ih =>
      simp only [callsFor_cons, storeRecords_cons_ok]
      constructor
      · rintro ⟨replies, hcalls, r, rest, hr, hrest, rfl⟩
        rw [forall₂_append, List.length_map, List.forall₂_map_left_iff] at hcalls
        exact .cons ⟨_, hcalls.1, hr⟩ ((ih rest).mp ⟨_, hcalls.2, hrest⟩)
      · rintro (_ | ⟨⟨replies, hcalls, hr⟩, hkeys⟩)
        obtain ⟨others, hothers, hrest⟩ := (ih _).mpr hkeys
        have hlength : replies.length = fields.length := hcalls.length_eq.symm
        refine ⟨replies ++ others,
          List.rel_append (List.forall₂_map_left_iff.mpr hcalls) hothers, _, _, ?_, ?_, rfl⟩
        · rwa [List.take_left' hlength]
        · rwa [List.drop_left' hlength]

/-! ## What a fetch comes to -/

section Fetch

variable {a : Answers} (init : κ → ρ) (fields : List (FieldSpec κ ρ)) (registry : Registry)
  (block : UInt64)

theorem mayEnd_fetchDirect_ok (key : κ) (start r : ρ) :
    MayEnd (.fixed a.query) (fetchDirect fields registry block key start) (.ok r) ↔
      Direct a.execution fields registry block key start r := by
  rw [fetchDirect, mayEnd_bind_ok]
  refine exists_congr fun replies => and_congr ?_ (mayEnd_ofExcept_ok _ _)
  rw [mayEnd_all_ok, List.forall₂_map_left_iff]
  simp only [mayEnd_context_ok, mayEnd_ask, Answers.query_execution]

theorem mayEnd_fetchBatch_ok (hcalls : ExecutionQuery.BatchesCalls a.execution) (offset : Nat)
    (keys : List κ) (rs : List ρ) :
    MayEnd (.fixed a.query) (fetchBatch init fields registry block offset keys) (.ok rs) ↔
      List.Forall₂ (fun key r => Direct a.execution fields registry block key (init key) r) keys
        rs := by
  rw [fetchBatch, mayEnd_permitted_fixed, ← storeRecords_ok]
  simp only [mayEnd_bind_ok, mayEnd_context_ok, mayEnd_ask, Answers.query_execution,
    Answers.query_countBatch, hcalls _ _ _]
  constructor
  · rintro ⟨-, -, replies, hreplies, hend⟩
    refine ⟨replies, hreplies, ?_⟩
    rwa [if_pos hreplies.length_eq.symm, mayEnd_ofExcept_ok] at hend
  · rintro ⟨replies, hreplies, hstore⟩
    refine ⟨(), trivial, replies, hreplies, ?_⟩
    rwa [if_pos hreplies.length_eq.symm, mayEnd_ofExcept_ok]

theorem direct_nil (key : κ) (start r : ρ) :
    Direct a.execution [] registry block key start r ↔ start = r := by
  constructor
  · rintro ⟨replies, -, hstore⟩
    cases hstore
    rfl
  · rintro rfl
    exact ⟨[], .nil, rfl⟩

/-- A fetch in batches of any size comes to what direct calls for each key come to. -/
theorem mayEnd_fetch_ok (hcalls : ExecutionQuery.BatchesCalls a.execution) (batchSize : Nat)
    (keys : List κ) (rs : List ρ) :
    MayEnd (.fixed a.query) (fetch init fields registry block batchSize keys) (.ok rs) ↔
      List.Forall₂ (fun key r => Direct a.execution fields registry block key (init key) r) keys
        rs := by
  rw [fetch]
  split
  case isTrue h =>
      have nothing : MayEnd (.fixed a.query) (pure (keys.map init)) (.ok rs) ↔
          keys.map init = rs := by
        rw [mayEnd_pure, Except.ok.injEq, eq_comm]
      rw [nothing]
      rcases Bool.or_eq_true_iff.mp h with hfields | hkeys
      · rw [List.isEmpty_iff.mp hfields]
        simp only [direct_nil]
        rw [← List.forall₂_map_left_iff (R := (· = ·)), List.forall₂_eq_eq_eq]
      · rw [List.isEmpty_iff.mp hkeys, List.forall₂_nil_left_iff, List.map_nil, eq_comm]
  case isFalse =>
      rw [mayEnd_map_ok]
      refine Iff.trans (exists_congr fun parts => and_congr_left fun _ => ?_)
        ((forall₂_flatten (chunks batchSize keys) rs).trans (by rw [flatten_chunks]))
      rw [mayEnd_mapError_ok, mayEnd_all_ok, List.forall₂_map_left_iff]
      -- The position of a batch only shows in its errors.
      have batch : ∀ (p : List κ × Nat) rs, MayEnd (.fixed a.query)
          (fetchBatch init fields registry block (p.2 * max batchSize 1) p.1) (.ok rs) ↔
          List.Forall₂ (fun key r => Direct a.execution fields registry block key (init key) r) p.1
            rs := fun p rs => mayEnd_fetchBatch_ok init fields registry block hcalls _ p.1 rs
      rw [← List.zipIdx_map_fst 0 (chunks batchSize keys), List.forall₂_map_left_iff,
        List.zipIdx_map_fst]
      exact ⟨.imp fun p rs => (batch p rs).mp, .imp fun p rs => (batch p rs).mpr⟩

theorem mayEnd_balanceBatch_ok (hbalances : ExecutionQuery.BatchesBalances a.execution)
    (accounts : List Address) (amounts : List Amount) :
    MayEnd (.fixed a.query) (balanceBatch block accounts) (.ok amounts) ↔
      List.Forall₂ (fun account amount => a.execution (.balance account block) = .ok amount)
        accounts amounts := by
  rw [balanceBatch, mayEnd_permitted_fixed]
  simp only [mayEnd_bind_ok, mayEnd_ask, Answers.query_execution, Answers.query_countBatch,
    hbalances _ _ _]
  constructor
  · rintro ⟨-, -, balances, hbalances, hend⟩
    rw [if_pos hbalances.length_eq.symm] at hend
    cases hend
    exact hbalances
  · intro h
    refine ⟨(), trivial, amounts, h, ?_⟩
    rw [if_pos h.length_eq.symm]
    rfl

/-- Balances that are read in bulk are those that single questions give. -/
theorem mayEnd_balances_ok (hbalances : ExecutionQuery.BatchesBalances a.execution)
    (accounts : List Address) (amounts : List Amount) :
    MayEnd (.fixed a.query) (balances block accounts) (.ok amounts) ↔
      List.Forall₂ (fun account amount => a.execution (.balance account block) = .ok amount)
        accounts amounts := by
  rw [balances, mayEnd_map_ok]
  refine Iff.trans (exists_congr fun parts => and_congr_left fun _ => ?_)
    ((forall₂_flatten (chunks addressBatch accounts) amounts).trans (by rw [flatten_chunks]))
  rw [mayEnd_mapError_ok, mayEnd_all_ok, List.forall₂_map_left_iff]
  simp only [mayEnd_balanceBatch_ok block hbalances]

end Fetch

/-- No record is fetched without a permit. -/
theorem grants_of_fetch {replies : Replies Query} {init : κ → ρ} {fields : List (FieldSpec κ ρ)}
    {registry : Registry} {block : UInt64} {batchSize : Nat} {keys : List κ} {r : ρ} {rs : List ρ}
    (hfields : fields.isEmpty = false)
    (h : MayEnd replies (fetch init fields registry block batchSize keys) (.ok (r :: rs))) :
    replies.grants := by
  rw [fetch] at h
  split at h
  case isTrue hempty =>
      rw [hfields, Bool.false_or, List.isEmpty_iff] at hempty
      subst hempty
      cases h
  case isFalse =>
      obtain ⟨parts, hparts, hflat⟩ := (mayEnd_map_ok _ _ _).mp h
      rw [mayEnd_mapError_ok, mayEnd_all_ok] at hparts
      cases parts with
      | nil => cases hflat
      | cons part parts =>
          obtain ⟨t, ht, hend⟩ := forall₂_mem_right hparts (List.mem_cons_self ..)
          obtain ⟨⟨keys, i⟩, -, rfl⟩ := List.mem_map.mp ht
          exact ((mayEnd_permitted_ok _ _).mp hend).1

/-! ## Failures are passed on -/

section Strict

theorem strict_fetchBatch (init : κ → ρ) (fields : List (FieldSpec κ ρ)) (registry : Registry)
    (block : UInt64) (offset : Nat) (keys : List κ) :
    (fetchBatch init fields registry block offset keys).Strict := by
  refine (strict_ask _).bind fun _ => ((strict_ask _).context _).bind fun replies => ?_
  split <;> trivial

theorem strict_fetch (init : κ → ρ) (fields : List (FieldSpec κ ρ)) (registry : Registry)
    (block : UInt64) (batchSize : Nat) (keys : List κ) :
    (fetch init fields registry block batchSize keys).Strict := by
  rw [fetch]
  split
  · trivial
  · refine ((Strict.all fun t ht => ?_).mapError _).map _
    obtain ⟨⟨keys, i⟩, -, rfl⟩ := List.mem_map.mp ht
    exact strict_fetchBatch init fields registry block _ keys

theorem strict_fetchDirect (fields : List (FieldSpec κ ρ)) (registry : Registry)
    (block : UInt64) (key : κ) (start : ρ) :
    (fetchDirect fields registry block key start).Strict := by
  refine (Strict.all fun t ht => ?_).bind fun _ => trivial
  obtain ⟨f, -, rfl⟩ := List.mem_map.mp ht
  exact (strict_ask _).context _

theorem strict_balances (block : UInt64) (accounts : List Address) :
    (balances block accounts).Strict := by
  refine ((Strict.all fun t ht => ?_).mapError _).map _
  obtain ⟨accounts, -, rfl⟩ := List.mem_map.mp ht
  refine (strict_ask _).bind fun _ => (strict_ask _).bind fun balances => ?_
  split <;> trivial

end Strict

/-! ## How many batches are sent -/

/-- The calls of a question, if it is a batch of calls. -/
def batch? : {α : Type} → Query α → Option (List ContractCall)
  | _, .execution (.batchCall calls _) => some calls
  | _, _ => none

section Notes

variable (init : κ → ρ) (fields : List (FieldSpec κ ρ)) (registry : Registry) (block : UInt64)

theorem notes_fetchBatch (offset : Nat) (keys : List κ) :
    (fetchBatch init fields registry block offset keys).Notes batch? 1 := by
  have count : (Task.ask (Query.session .countBatch)).Notes batch? 0 := rfl
  have batch : (Task.ask (Query.execution
      (.batchCall (callsFor fields registry keys) block))).Notes batch? 1 := rfl
  refine Notes.permitted (Notes.bind (k := 0) (l := 1) count fun _ =>
    Notes.bind (k := 1) (l := 0) (batch.mapError _) fun replies => ?_)
  split
  · exact notes_ofExcept _
  · trivial

/-- A fetch that succeeds has sent one request for each batch. -/
theorem notes_fetch (batchSize : Nat) (keys : List κ) :
    (fetch init fields registry block batchSize keys).Notes batch?
      (if fields.isEmpty then 0 else keys.length ⌈/⌉ max batchSize 1) := by
  rw [fetch]
  split
  case isTrue h =>
      have none : (if fields.isEmpty then 0 else keys.length ⌈/⌉ max batchSize 1) = 0 := by
        rcases Bool.or_eq_true_iff.mp h with hfields | hkeys
        · rw [if_pos hfields]
        · rw [List.isEmpty_iff.mp hkeys, List.length_nil, zero_ceilDiv, ite_self]
      rw [none]
      exact notes_pure _
  case isFalse h =>
      rw [if_neg fun hfields => h (by rw [hfields, Bool.true_or])]
      have batches : ∀ t ∈ ((chunks batchSize keys).zipIdx.map fun p =>
          fetchBatch init fields registry block (p.2 * max batchSize 1) p.1), t.Notes batch? 1 := by
        intro t ht
        obtain ⟨p, -, rfl⟩ := List.mem_map.mp ht
        exact notes_fetchBatch init fields registry block _ p.1
      have all := ((Notes.all batches).mapError partialFailure).map List.flatten
      rwa [List.length_map, List.length_zipIdx, length_chunks, Nat.one_mul] at all

end Notes

/-! ## Fetching and looking up directly -/

/-- What a fetch and a direct lookup ask. -/
def Reads : {α : Type} → Query α → Prop
  | _, .execution _ => True
  | _, .session .countBatch => True
  | _, _ => False

theorem Reads.leavesConfig {q : Query α} (h : Reads q) : q.LeavesConfig := by
  cases q with
  | session q =>
      cases q with
      | countBatch => trivial
      | _ => exact h.elim
  | _ => trivial

theorem reading_reads (block : UInt64) : Reading Reads block :=
  ⟨fun _ _ => trivial, trivial⟩

section Refinement

variable {ε β : Type} {client : Service ExecutionQuery ε}
  {answers : {α : Type} → ExecutionQuery α → Outcome α} {I : ε → Prop}

/-- Whatever the beacon chain and the session know, what is read depends on the client alone. -/
theorem steady_reads (beacon : Service BeaconQuery β)
    (hclient : client.Steady answers (fun _ => True) I) :
    (Service.ofChains client beacon).Steady
      (Answers.mk answers BeaconQuery.unreachable none).query Reads fun s => I s.execution where
  accept q _ hq hs := by
    cases q with
    | execution q => exact hclient.accept q trivial hs
    | beacon q => exact hq.elim
    | session q => exact hs
  outcome q _ hq hs := by
    cases q with
    | execution q => exact hclient.outcome q trivial hs
    | beacon q => exact hq.elim
    | session q =>
        cases q with
        | countBatch => rfl
        | _ => exact hq.elim
  answer q _ hq hs := by
    cases q with
    | execution q => exact hclient.answer q trivial hs
    | beacon q => exact hq.elim
    | session q => exact hs

/-- On a client that keeps to its answers, and answers batches as it answers single questions, a
fetch in batches of any size succeeds if the direct lookups for all keys do, with their records in
the order of the keys, and then it has sent as many batches as it takes. The balances of many
accounts are those of each. -/
theorem fetch_refines_fetchDirect (beacon : Service BeaconQuery β)
    (hclient : client.Steady answers (fun _ => True) I)
    (hcalls : ExecutionQuery.BatchesCalls answers) {s : Surroundings ε β} (hs : I s.execution)
    (hopen : s.session.closed = false) (init : κ → ρ) (fields : List (FieldSpec κ ρ))
    (registry : Registry) (block : UInt64) (batchSize : Nat) (keys : List κ) :
    let service := Service.ofChains client beacon
    (∀ last, (fetch init fields registry block batchSize keys).EndsIn service s last →
      ∀ rs, last.1 = .ok rs ↔
        List.Forall₂ (fun key r =>
          ((fetchDirect fields registry block key (init key)).run service s).1 = .ok r) keys rs) ∧
    (∀ rs last, (fetch init fields registry block batchSize keys).EndsIn (service.noting batch?)
        (s, []) (.ok rs, last) →
      last.2.length = if fields.isEmpty then 0 else keys.length ⌈/⌉ max batchSize 1) ∧
    (ExecutionQuery.BatchesBalances answers →
      ∀ accounts last, (balances block accounts).EndsIn service s last →
        ∀ amounts, last.1 = .ok amounts ↔
          List.Forall₂ (fun account amount =>
            ((balance block account).run service s).1 = .ok amount) accounts amounts) := by
  intro service
  let a : Answers := ⟨answers, BeaconQuery.unreachable, s.session.config⟩
  have learning : service.Matches service (a.replies false) Reads
      fun s s' => s = s' ∧ a.LearnIn I (fun _ => True) false s := by
    refine Answers.matches_learning hclient ?_ (fun _ h => h.elim) false
    exact ⟨fun _ _ h => h.elim, fun _ _ h => h.elim, fun _ _ h => h.elim⟩
  have start : a.LearnIn I (fun _ => True) false s := ⟨hs, trivial, .inl rfl, hopen⟩
  have ends : ∀ {γ : Type} {t : Task Query γ}, t.Strict → t.Asks (a.replies false) Reads →
      ∀ {last}, t.EndsIn service s last → ∀ v, last.1 = .ok v ↔
        t.MayEnd (.fixed a.learned.query) (.ok v) := by
    intro γ t hstrict hasks last hlast v
    have learns : a.Learns false t := Answers.learns_of_asks (hasks.imp fun _ => Reads.leavesConfig)
    have hend := learns.mayEnd _ rfl (learning.mayEnd hasks start hlast).1
    exact ⟨fun h => h ▸ hend, fun hv => hstrict.eq_ok hv hend⟩
  have reading := reading_reads block
  refine ⟨fun last hlast rs => ?_, fun rs last hlast => ?_, fun hbalances accounts last hlast
    amounts => ?_⟩
  · have direct : ∀ key r, ((fetchDirect fields registry block key (init key)).run service s).1 =
        .ok r ↔ Direct answers fields registry block key (init key) r := fun key r =>
      (ends (strict_fetchDirect fields registry block key (init key))
        (reading.asks_fetchDirect fields registry key (init key)) (.inl rfl) r).trans
          (mayEnd_fetchDirect_ok fields registry block key (init key) r)
    simp only [direct]
    exact (ends (strict_fetch init fields registry block batchSize keys)
      (reading.asks_fetch init fields registry batchSize keys) hlast rs).trans
        (mayEnd_fetch_ok init fields registry block hcalls batchSize keys rs)
  · have length := (notes_fetch init fields registry block batchSize keys).length_eq hlast
    rwa [List.length_nil, Nat.zero_add] at length
  · have single : ∀ account amount, ((balance block account).run service s).1 = .ok amount ↔
        answers (.balance account block) = .ok amount := fun account amount =>
      (ends (t := balance block account) trivial trivial (.inl rfl) amount).trans
        (mayEnd_ask a.learned.query _ _)
    simp only [single]
    exact (ends (strict_balances block accounts) (reading.asks_balances accounts) hlast
      amounts).trans (mayEnd_balances_ok block hbalances accounts amounts)

/-- What a chain says that returns to each call its own data. -/
def echo : {α : Type} → ExecutionQuery α → Outcome α
  | _, .latestBlock => .ok ⟨0, 0⟩
  | _, .call call _ => .ok call.calldata
  | _, .batchCall calls _ => .ok (calls.map (·.calldata))
  | _, .balance _ _ => .ok 0
  | _, .bulkBalances accounts _ => .ok (accounts.map fun _ => 0)

/-- A field whose call has the key and a number as data, and which is stored behind the others. -/
def echoField (n : UInt8) : FieldSpec UInt8 (List Bytes) :=
  ⟨"echo", fun _ key => ⟨.zero, [key, n]⟩, fun data r => .ok (r ++ [data])⟩

/-- Two fields of three keys, fetched in batches of two keys. -/
theorem fetch_echo :
    ((fetch (fun _ => []) [echoField 0, echoField 1] (.blank .zero) 7 2 [5, 6, 7]).run
      (.ofChains (.fixed echo) (.fixed BeaconQuery.unreachable)) ⟨(), (), .new false⟩).1 =
        .ok [[[5, 0], [5, 1]], [[6, 0], [6, 1]], [[7, 0], [7, 1]]] := by
  have batches : ExecutionQuery.BatchesCalls echo := by
    intro calls block replies
    simp only [echo, Except.ok.injEq]
    rw [← List.forall₂_map_left_iff (R := (· = ·)), List.forall₂_eq_eq_eq]
  have refines := fetch_refines_fetchDirect (.fixed BeaconQuery.unreachable)
    (Service.fixed_steady echo fun _ => True) batches (s := ⟨(), (), .new false⟩) trivial rfl
    (fun _ => []) [echoField 0, echoField 1] (.blank .zero) 7 2 [5, 6, 7]
  refine (refines.1 _ (.inl rfl) _).mpr ?_
  exact .cons rfl (.cons rfl (.cons rfl .nil))

end Refinement

end StakeSnapshot.Fetch
