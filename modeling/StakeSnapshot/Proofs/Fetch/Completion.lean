import StakeSnapshot.Proofs.Fetch.Batching

/-!
# Fetching from a client that may answer anything

The batches of a fetch may be answered in any order, with errors, with too few or too many replies,
or with replies that cannot be stored. A fetch has records exactly when every batch was answered by
one reply for each call and all of them could be stored, and then the record of a key is made of the
replies to its own calls (`fetch_complete_or_failed`). A fetch that fails shows the error of one of
its batches.
-/

namespace StakeSnapshot.Fetch

open StakeSnapshot.Task

variable {α κ ρ : Type}

/-! ## Batches and replies by their number -/

/-- The keys of the batch with the number `k`. -/
def batchAt (size : Nat) (keys : List κ) (k : Nat) : List κ := (keys.drop (k * size)).take size

/-- The replies to the calls for the key at place `j` of a batch, one for each of `m` fields. -/
def repliesAt (m : Nat) (replies : List Bytes) (j : Nat) : List Bytes :=
  (replies.drop (j * m)).take m

theorem getElem?_chunks (size : Nat) (items : List α) (k : Nat) :
    (chunks size items)[k]? =
      if k < items.length ⌈/⌉ max size 1 then some (batchAt (max size 1) items k) else none := by
  rw [← length_chunks]
  induction items using chunks.induct size generalizing k with
  | case1 => simp [chunks_nil]
  | case2 a rest ih =>
      rw [chunks_cons]
      cases k with
      | zero => simp [batchAt]
      | succ k =>
          rw [List.getElem?_cons_succ, ih, List.length_cons]
          simp only [Nat.add_lt_add_iff_right]
          simp only [batchAt, List.drop_drop, Nat.add_mul, Nat.one_mul, Nat.add_comm]

theorem getElem?_batchAt {size : Nat} (hsize : 0 < size) (keys : List κ) (i : Nat) :
    (batchAt size keys (i / size))[i % size]? = keys[i]? := by
  rw [batchAt, List.getElem?_take_of_lt (Nat.mod_lt i hsize), List.getElem?_drop, Nat.mul_comm,
    Nat.div_add_mod]

theorem repliesAt_zero (m : Nat) (replies : List Bytes) :
    repliesAt m replies 0 = replies.take m := by
  simp [repliesAt]

theorem repliesAt_succ (m : Nat) (replies : List Bytes) (j : Nat) :
    repliesAt m replies (j + 1) = repliesAt m (replies.drop m) j := by
  simp [repliesAt, List.drop_drop, Nat.add_mul, Nat.add_comm]

theorem length_callsFor (fields : List (FieldSpec κ ρ)) (registry : Registry) (keys : List κ) :
    (callsFor fields registry keys).length = keys.length * fields.length := by
  simp [callsFor, List.length_flatMap]

/-! ## One batch -/

section Batch

variable (init : κ → ρ) (fields : List (FieldSpec κ ρ))

/-- The record `r` holds what the replies to the calls for the key at place `j` say. -/
def Stored (keys : List κ) (replies : List Bytes) (j : Nat) (r : ρ) : Prop :=
  ∃ key, keys[j]? = some key ∧
    storeAll fields (repliesAt fields.length replies j) (init key) = .ok r

/-- The answer to a batch has a reply for each call, and all of them can be stored. -/
def BatchSucceeds (keys : List κ) (answer : Except Error (List Bytes)) : Prop :=
  ∃ replies, answer = .ok replies ∧ replies.length = keys.length * fields.length ∧
    ∀ j < keys.length, ∃ r, Stored init fields keys replies j r

/-- The errors of a batch: the request failed, it did not have one reply for each call, or a reply
could not be stored after all of those for the keys before it were. -/
inductive BatchFails (offset : Nat) (keys : List κ) : Except Error (List Bytes) → Error → Prop
  | request (e : Error) :
      BatchFails offset keys (.error e) (e.context s!"batch at offset {offset}")
  | count {replies : List Bytes} {calls : Nat} (hcalls : calls = keys.length * fields.length)
      (h : replies.length ≠ calls) :
      BatchFails offset keys (.ok replies) (.of .decodeMismatch
        s!"batch at offset {offset} returned {replies.length} results for {calls} calls")
  | store {replies : List Bytes} {e : Error} {j : Nat} {key : κ}
      (hlength : replies.length = keys.length * fields.length) (hkey : keys[j]? = some key)
      (before : ∀ i < j, ∃ r, Stored init fields keys replies i r)
      (h : storeAll fields (repliesAt fields.length replies j) (init key) = .error e) :
      BatchFails offset keys (.ok replies) e

variable {init fields}

theorem stored_cons_zero {key : κ} {keys : List κ} {replies : List Bytes} {r : ρ} :
    Stored init fields (key :: keys) replies 0 r ↔
      storeAll fields (replies.take fields.length) (init key) = .ok r := by
  simp [Stored, repliesAt_zero]

theorem stored_cons_succ {key : κ} {keys : List κ} {replies : List Bytes} {j : Nat} {r : ρ} :
    Stored init fields (key :: keys) replies (j + 1) r ↔
      Stored init fields keys (replies.drop fields.length) j r := by
  simp [Stored, repliesAt_succ]

theorem BatchSucceeds.not_fails {keys : List κ} {answer : Except Error (List Bytes)}
    (h : BatchSucceeds init fields keys answer) (offset : Nat) (e : Error) :
    ¬ BatchFails init fields offset keys answer e := by
  obtain ⟨replies, rfl, hlength, hstored⟩ := h
  intro hfails
  cases hfails with
  | count hcalls hcount => exact hcount (hlength.trans hcalls.symm)
  | store _ hkey _ hfail =>
      obtain ⟨hj, -⟩ := List.getElem?_eq_some_iff.mp hkey
      obtain ⟨r, key, hkey', hr⟩ := hstored _ hj
      rw [hkey] at hkey'
      cases hkey'
      rw [hr] at hfail
      cases hfail

/-- The records of a batch, if all replies can be stored. -/
theorem storeRecords_eq_ok {keys : List κ} {replies : List Bytes} {rs : List ρ}
    (h : storeRecords init fields keys replies = .ok rs) :
    rs.length = keys.length ∧
      ∀ j r, rs[j]? = some r → Stored init fields keys replies j r := by
  induction keys generalizing replies rs with
  | nil =>
      cases h
      simp
  | cons key keys ih =>
      obtain ⟨r, rest, hr, hrest, rfl⟩ := (storeRecords_cons_ok _ _ _ _ _ _).mp h
      obtain ⟨hlength, hstored⟩ := ih hrest
      refine ⟨by simp [hlength], fun j r' hj => ?_⟩
      cases j with
      | zero =>
          cases hj
          exact stored_cons_zero.mpr hr
      | succ j => exact stored_cons_succ.mpr (hstored j r' hj)

/-- The first reply that cannot be stored, if there is one. -/
theorem storeRecords_eq_error {keys : List κ} {replies : List Bytes} {e : Error}
    (h : storeRecords init fields keys replies = .error e) :
    ∃ j key, keys[j]? = some key ∧ (∀ i < j, ∃ r, Stored init fields keys replies i r) ∧
      storeAll fields (repliesAt fields.length replies j) (init key) = .error e := by
  induction keys generalizing replies with
  | nil => cases h
  | cons key keys ih =>
      rw [storeRecords] at h
      cases hfirst : storeAll fields (replies.take fields.length) (init key) with
      | error e' =>
          rw [hfirst] at h
          cases h
          exact ⟨0, key, rfl, fun i hi => absurd hi (Nat.not_lt_zero i),
            by rw [repliesAt_zero, hfirst]⟩
      | ok r =>
          rw [hfirst] at h
          have hrest : storeRecords init fields keys (replies.drop fields.length) = .error e := by
            revert h
            cases storeRecords init fields keys (replies.drop fields.length) with
            | error e' => exact id
            | ok rs => intro h; cases h
          obtain ⟨j, key', hkey, hbefore, hfail⟩ := ih hrest
          refine ⟨j + 1, key', hkey, fun i hi => ?_, by rw [repliesAt_succ, hfail]⟩
          cases i with
          | zero => exact ⟨r, stored_cons_zero.mpr hfirst⟩
          | succ i =>
              obtain ⟨r', hr'⟩ := hbefore i (Nat.lt_of_succ_lt_succ hi)
              exact ⟨r', stored_cons_succ.mpr hr'⟩

end Batch

/-! ## All batches -/

theorem zipIdx_chunks (size : Nat) (items : List α) :
    (chunks size items).zipIdx = (List.range (items.length ⌈/⌉ max size 1)).map fun k =>
      (batchAt (max size 1) items k, k) := by
  apply List.ext_getElem?
  intro k
  rw [List.getElem?_zipIdx, getElem?_chunks, List.getElem?_map]
  by_cases hk : k < items.length ⌈/⌉ max size 1
  · rw [if_pos hk, List.getElem?_range hk]
    simp
  · rw [if_neg hk, List.getElem?_eq_none (by simpa using hk)]
    rfl

/-- Lists that are as long as the pieces of a list are the pieces of what they make up. -/
theorem chunks_flatten {size : Nat} {items : List α} {parts : List (List ρ)}
    (h : List.Forall₂ (fun piece part => List.length part = List.length piece)
      (chunks size items) parts) :
    chunks size parts.flatten = parts := by
  induction items using chunks.induct size generalizing parts with
  | case1 =>
      rw [chunks_nil, List.forall₂_nil_left_iff] at h
      rw [h, List.flatten_nil, chunks_nil]
  | case2 a rest ih =>
      rw [chunks_cons] at h
      cases h with
      | @cons _ part _ parts hlength hparts =>
          have hrest := ih hparts
          rw [List.length_take] at hlength
          -- Only the last piece may be shorter than the size.
          have hwhole : part.length = max size 1 ∨ part.length ≤ max size 1 ∧ parts = [] := by
            by_cases hsize : max size 1 ≤ (a :: rest).length
            · exact .inl (by rw [hlength, Nat.min_eq_left hsize])
            · rw [List.drop_eq_nil_of_le (by omega), chunks_nil,
                List.forall₂_nil_left_iff] at hparts
              exact .inr ⟨by omega, hparts⟩
          cases part with
          | nil =>
              rw [List.length_nil, List.length_cons] at hlength
              omega
          | cons r part =>
              rw [List.flatten_cons, List.cons_append, chunks_cons, ← List.cons_append]
              rcases hwhole with hlength | ⟨hlength, rfl⟩
              · rw [List.take_left' hlength, List.drop_left' hlength, hrest]
              · rw [List.flatten_nil, List.append_nil, List.take_of_length_le hlength,
                  List.drop_eq_nil_of_le hlength, chunks_nil]

/-- Lists that are as long as the pieces of a list make up a list as long. -/
theorem length_flatten_chunks {size : Nat} {items : List α} {parts : List (List ρ)}
    (h : List.Forall₂ (fun piece part => List.length part = List.length piece)
      (chunks size items) parts) :
    parts.flatten.length = items.length := by
  have same : (chunks size items).map List.length = parts.map List.length := by
    rw [← List.forall₂_eq_eq_eq, List.forall₂_map_left_iff, List.forall₂_map_right_iff]
    exact h.imp fun _ _ h => h.symm
  rw [← flatten_chunks size items, List.length_flatten, List.length_flatten, same]

section Ends

variable {replies : Replies Query} {init : κ → ρ} {fields : List (FieldSpec κ ρ)}
  {registry : Registry} {block : UInt64}

theorem mayEnd_fetchBatch_replies {offset : Nat} {keys : List κ} {rs : List ρ}
    (h : MayEnd replies (fetchBatch init fields registry block offset keys) (.ok rs)) :
    ∃ data, MayEnd replies (.ask (.execution (.batchCall (callsFor fields registry keys) block)))
        (.ok data) ∧
      data.length = keys.length * fields.length ∧
      storeRecords init fields keys data = .ok rs := by
  obtain ⟨-, h⟩ := (mayEnd_permitted_ok _ _).mp h
  obtain ⟨_, -, h⟩ := (mayEnd_bind_ok _ _ _).mp h
  obtain ⟨data, hdata, h⟩ := (mayEnd_bind_ok _ _ _).mp h
  refine ⟨data, (mayEnd_context_ok _ _ _).mp hdata, ?_⟩
  split at h
  case isTrue hlength =>
      exact ⟨hlength.trans (length_callsFor fields registry keys),
        (mayEnd_ofExcept_ok _ _).mp h⟩
  case isFalse => cases h

/-- The batches of a fetch that succeeds, and the records of each. -/
theorem mayEnd_fetch_batches {batchSize : Nat} {keys : List κ} {rs : List ρ} (hfields : fields ≠ [])
    (h : MayEnd replies (fetch init fields registry block batchSize keys) (.ok rs)) :
    rs.length = keys.length ∧ ∀ k < keys.length ⌈/⌉ max batchSize 1,
      MayEnd replies (fetchBatch init fields registry block (k * max batchSize 1)
        (batchAt (max batchSize 1) keys k)) (.ok (batchAt (max batchSize 1) rs k)) := by
  rw [fetch] at h
  split at h
  case isTrue hempty =>
      rw [List.isEmpty_eq_false_iff.mpr hfields, Bool.false_or, List.isEmpty_iff] at hempty
      subst hempty
      cases h
      simp
  case isFalse =>
      obtain ⟨parts, hparts, rfl⟩ := (mayEnd_map_ok _ _ _).mp h
      rw [mayEnd_mapError_ok, mayEnd_all_ok, List.forall₂_map_left_iff] at hparts
      have hlengths : List.Forall₂ (fun piece part => List.length part = List.length piece)
          (chunks batchSize keys) parts := by
        rw [← List.zipIdx_map_fst 0 (chunks batchSize keys), List.forall₂_map_left_iff]
        refine hparts.imp fun p part hpart => ?_
        obtain ⟨data, -, -, hstore⟩ := mayEnd_fetchBatch_replies hpart
        exact (storeRecords_eq_ok hstore).1
      have hpieces := chunks_flatten hlengths
      have hlength := length_flatten_chunks hlengths
      refine ⟨hlength, fun k hk => ?_⟩
      rw [zipIdx_chunks, List.forall₂_map_left_iff] at hparts
      have hpart := getElem?_chunks batchSize parts.flatten k
      rw [hpieces, hlength, if_pos hk] at hpart
      obtain ⟨hk', hpart⟩ := List.getElem?_eq_some_iff.mp hpart
      have hend := (List.forall₂_iff_get.mp hparts).2 k (by rwa [List.length_range]) hk'
      rwa [List.get_eq_getElem, List.get_eq_getElem, List.getElem_range, hpart] at hend

/-- The record of a key is made of the replies to its own calls. -/
theorem mayEnd_fetch_record {batchSize : Nat} {keys : List κ} {rs : List ρ} (hfields : fields ≠ [])
    (h : MayEnd replies (fetch init fields registry block batchSize keys) (.ok rs)) {i : Nat}
    {key : κ} (hkey : keys[i]? = some key) :
    ∃ data r, MayEnd replies (.ask (.execution (.batchCall
        (callsFor fields registry (batchAt (max batchSize 1) keys (i / max batchSize 1))) block)))
        (.ok data) ∧
      data.length =
        (batchAt (max batchSize 1) keys (i / max batchSize 1)).length * fields.length ∧
      rs[i]? = some r ∧
      storeAll fields (repliesAt fields.length data (i % max batchSize 1)) (init key) = .ok r := by
  have hsize : 0 < max batchSize 1 := Nat.le_max_right batchSize 1
  obtain ⟨hlength, hbatches⟩ := mayEnd_fetch_batches hfields h
  obtain ⟨hi, -⟩ := List.getElem?_eq_some_iff.mp hkey
  have hk : i / max batchSize 1 < keys.length ⌈/⌉ max batchSize 1 := by
    rw [← not_le, ceilDiv_le_iff_le_mul hsize, not_le]
    exact (Nat.mul_div_le i _).trans_lt hi
  obtain ⟨data, hdata, hcount, hstore⟩ := mayEnd_fetchBatch_replies (hbatches _ hk)
  obtain ⟨r, hr⟩ : ∃ r, rs[i]? = some r := ⟨_, List.getElem?_eq_getElem (hlength ▸ hi)⟩
  obtain ⟨key', hkey', hstored⟩ := (storeRecords_eq_ok hstore).2 _ _
    ((getElem?_batchAt hsize rs i).trans hr)
  rw [getElem?_batchAt hsize, hkey] at hkey'
  cases hkey'
  exact ⟨data, r, hdata, hcount, hr, hstored⟩

/-- A fetch that fails shows what went wrong in one of its batches. -/
theorem mayEnd_fetch_error {batchSize : Nat} {keys : List κ} {e : Failure}
    (h : MayEnd replies (fetch init fields registry block batchSize keys) (.error e)) :
    ∃ k < keys.length ⌈/⌉ max batchSize 1, ∃ e', e = e'.mapError partialFailure ∧
      MayEnd replies (fetchBatch init fields registry block (k * max batchSize 1)
        (batchAt (max batchSize 1) keys k)) (.error e') := by
  rw [fetch] at h
  split at h
  case isTrue => cases h
  case isFalse =>
      rw [mayEnd_map_error] at h
      obtain ⟨r, hr, he⟩ := h
      cases r with
      | ok parts => cases he
      | error e' =>
          cases he
          obtain ⟨t, ht, hend⟩ := mayEnd_all_error hr
          rw [zipIdx_chunks, List.map_map, List.mem_map] at ht
          obtain ⟨k, hk, rfl⟩ := ht
          exact ⟨k, List.mem_range.mp hk, e', rfl, hend⟩

end Ends

section Answer

variable {a : Answers} {init : κ → ρ} {fields : List (FieldSpec κ ρ)} {registry : Registry}
  {block : UInt64} {offset : Nat} {keys : List κ} {answer : Except Error (List Bytes)}

/-- A batch has records if its answer has the right replies, and otherwise it has an error. -/
theorem mayEnd_fetchBatch_cases
    (hanswer : a.execution (.batchCall (callsFor fields registry keys) block) =
      Outcome.ofExcept answer) {o : Outcome (List ρ)}
    (ho : MayEnd (.fixed a.query) (fetchBatch init fields registry block offset keys) o) :
    (∃ rs replies, o = .ok rs ∧ answer = .ok replies ∧
      replies.length = keys.length * fields.length ∧
      storeRecords init fields keys replies = .ok rs) ∨
    ∃ e, o = .error (.error e) ∧ BatchFails init fields offset keys answer e := by
  rcases ho with ⟨-, ho⟩ | ⟨e, he, -⟩
  · obtain ⟨r, hr, ho⟩ := ho
    cases hr
    obtain ⟨r, ⟨r', hr', hr⟩, ho⟩ := ho
    have hr' := hr'.trans hanswer
    subst hr'
    cases answer with
    | error e =>
        cases hr
        cases ho
        exact .inr ⟨_, rfl, .request e⟩
    | ok replies =>
        cases hr
        have hcalls := length_callsFor fields registry keys
        change MayEnd _ (ite _ _ _) o at ho
        by_cases hlength : replies.length = keys.length * fields.length
        · rw [if_pos (hlength.trans hcalls.symm)] at ho
          cases hstore : storeRecords init fields keys replies with
          | ok rs =>
              rw [hstore] at ho
              exact .inl ⟨rs, replies, ho, rfl, hlength, hstore⟩
          | error e =>
              rw [hstore] at ho
              obtain ⟨j, key, hkey, hbefore, hfail⟩ := storeRecords_eq_error hstore
              exact .inr ⟨e, ho, .store hlength hkey hbefore hfail⟩
        · rw [← hcalls] at hlength
          rw [if_neg hlength] at ho
          exact .inr ⟨_, ho, .count hcalls hlength⟩
  · exact he.elim

theorem batchSucceeds_of_mayEnd
    (hanswer : a.execution (.batchCall (callsFor fields registry keys) block) =
      Outcome.ofExcept answer) {rs : List ρ}
    (h : MayEnd (.fixed a.query) (fetchBatch init fields registry block offset keys) (.ok rs)) :
    BatchSucceeds init fields keys answer := by
  rcases mayEnd_fetchBatch_cases hanswer h with ⟨rs, replies, -, hreplies, hcount, hstore⟩ | h
  · obtain ⟨hlength, hstored⟩ := storeRecords_eq_ok hstore
    refine ⟨replies, hreplies, hcount, fun j hj => ?_⟩
    rw [← hlength] at hj
    exact ⟨_, hstored j _ (List.getElem?_eq_getElem hj)⟩
  · obtain ⟨e, he, -⟩ := h
    cases he

theorem batchFails_of_mayEnd
    (hanswer : a.execution (.batchCall (callsFor fields registry keys) block) =
      Outcome.ofExcept answer) {failure : Failure}
    (h : MayEnd (.fixed a.query) (fetchBatch init fields registry block offset keys)
      (.error failure)) :
    ∃ e, failure = .error e ∧ BatchFails init fields offset keys answer e := by
  rcases mayEnd_fetchBatch_cases hanswer h with ⟨rs, replies, hrs, -⟩ | ⟨e, he, hfails⟩
  · cases hrs
  · cases he
    exact ⟨e, rfl, hfails⟩

end Answer

/-! ## Fetching in time -/

/-- What a fetch asks. -/
def Batched : {α : Type} → Query α → Prop
  | _, .execution (.batchCall _ _) => True
  | _, .session .countBatch => True
  | _, _ => False

theorem Batched.leavesConfig {q : Query α} (h : Batched q) : q.LeavesConfig := by
  cases q with
  | session q =>
      cases q with
      | countBatch => trivial
      | _ => exact h.elim
  | _ => trivial

theorem asks_fetch_batched {replies : Replies Query} (init : κ → ρ) (fields : List (FieldSpec κ ρ))
    (registry : Registry) (block : UInt64) (batchSize : Nat) (keys : List κ) :
    Asks replies Batched (fetch init fields registry block batchSize keys) := by
  rw [fetch]
  split
  · trivial
  · simp only [asks_map, asks_mapError, asks_all, List.mem_map, forall_exists_index, and_imp]
    rintro _ ⟨keys, i⟩ - rfl
    refine Asks.bind (Q := Query) trivial fun _ => Asks.bind ?_ fun replies => ?_
    · exact (asks_context _ _).mpr trivial
    · split <;> trivial

section Completion

variable {ε β : Type} {client : Service ExecutionQuery ε} {beacon : Service BeaconQuery β}
  {answers : {α : Type} → ExecutionQuery α → Outcome α} {I : ε → Prop}
  {reply : List ContractCall → UInt64 → Except Error (List Bytes)}

/-- On a client that keeps to some answers to batches, whatever they are, and in whatever order they
come, a fetch has records exactly if all batches succeed, and then the record of each key is made of
the replies to its own calls. Otherwise it fails with the error of one of its batches. -/
theorem fetch_complete_or_failed
    (hclient : client.Steady answers (fun q => Batched (.execution q)) I)
    (hreply : ∀ calls block,
      answers (.batchCall calls block) = Outcome.ofExcept (reply calls block))
    {s : Surroundings ε β} (hs : I s.execution) (hopen : s.session.closed = false) (init : κ → ρ)
    {fields : List (FieldSpec κ ρ)} (hfields : fields ≠ []) (registry : Registry) (block : UInt64)
    (batchSize : Nat) (keys : List κ) {last : Outcome (List ρ) × Surroundings ε β}
    (hlast : (fetch init fields registry block batchSize keys).EndsIn (.ofChains client beacon) s
      last) :
    let size := max batchSize 1
    let batch := batchAt size keys
    let answer k := reply (callsFor fields registry (batch k)) block
    ((∃ rs, last.1 = .ok rs) ↔
      ∀ k < keys.length ⌈/⌉ size, BatchSucceeds init fields (batch k) (answer k)) ∧
    (∀ rs, last.1 = .ok rs → rs.length = keys.length ∧ ∀ i key, keys[i]? = some key →
      ∃ replies r, answer (i / size) = .ok replies ∧ rs[i]? = some r ∧
        storeAll fields (repliesAt fields.length replies (i % size)) (init key) = .ok r) ∧
    ∀ failure, last.1 = .error failure → ∃ k < keys.length ⌈/⌉ size, ∃ e,
      BatchFails init fields (k * size) (batch k) (answer k) e ∧
      failure = .error ⟨e.display ++ ": batched fetch failed", .partialFetchFailure⟩ := by
  intro size batch answer
  let a : Answers := ⟨answers, BeaconQuery.unreachable, s.session.config⟩
  have learning : (Service.ofChains client beacon).Matches (.ofChains client beacon)
      (a.replies false) Batched fun s s' => s = s' ∧ a.LearnIn I (fun _ => True) false s := by
    refine Answers.matches_learning hclient ?_ (fun _ h => h.elim) false
    exact ⟨fun _ _ h => h.elim, fun _ _ h => h.elim, fun _ _ h => h.elim⟩
  have asks : Asks (a.replies false) Batched (fetch init fields registry block batchSize keys) :=
    asks_fetch_batched init fields registry block batchSize keys
  have hend : MayEnd (.fixed a.learned.query)
      (fetch init fields registry block batchSize keys) last.1 :=
    (Answers.learns_of_asks (asks.imp fun _ => Batched.leavesConfig)).mayEnd _ rfl
      (learning.mayEnd asks ⟨hs, trivial, .inl rfl, hopen⟩ hlast).1
  refine ⟨⟨?_, fun hall => ?_⟩, fun rs hrs => ⟨?_, fun i key hkey => ?_⟩, fun failure hfail => ?_⟩
  · rintro ⟨rs, hrs⟩ k hk
    rw [hrs] at hend
    exact batchSucceeds_of_mayEnd (hreply _ _) ((mayEnd_fetch_batches hfields hend).2 k hk)
  · cases hlast : last.1 with
    | ok rs => exact ⟨rs, rfl⟩
    | error failure =>
        rw [hlast] at hend
        obtain ⟨k, hk, _, -, hbatch⟩ := mayEnd_fetch_error hend
        obtain ⟨e, -, hfails⟩ := batchFails_of_mayEnd (hreply _ _) hbatch
        exact absurd hfails ((hall k hk).not_fails _ _)
  · rw [hrs] at hend
    exact (mayEnd_fetch_batches hfields hend).1
  · rw [hrs] at hend
    obtain ⟨replies, r, hask, -, hr, hstore⟩ := mayEnd_fetch_record hfields hend hkey
    have hanswer : Outcome.ofExcept (answer (i / size)) = .ok replies :=
      (hreply _ _).symm.trans hask.symm
    exact ⟨replies, r, (mapError_eq_ok _ _ _).mp hanswer, hr, hstore⟩
  · rw [hfail] at hend
    obtain ⟨k, hk, _, rfl, hbatch⟩ := mayEnd_fetch_error hend
    obtain ⟨e, rfl, hfails⟩ := batchFails_of_mayEnd (hreply _ _) hbatch
    refine ⟨k, hk, e, hfails, ?_⟩
    rw [Failure.mapError, partialFailure, Error.because, Error.context, String.append_assoc]
    rfl

/-- The replies of a chain that returns to each call its own data, but leaves one call out. -/
def forgetful (calls : List ContractCall) (_ : UInt64) : Except Error (List Bytes) :=
  .ok ((calls.map (·.calldata)).filter (· ≠ [7, 1]))

/-- The answers of such a chain, which takes longer for larger batches. -/
def slowlyForgetful : Service ExecutionQuery Unit where
  accept
    | .batchCall calls _, s => (s, calls.length)
    | _, s => (s, 0)
  answer
    | .batchCall calls block, s => (Outcome.ofExcept (forgetful calls block), s)
    | q, s => (echo q, s)
  permit _ := .ok ()

/-- Of two batches at once, the second is answered first and one reply short. -/
theorem fetch_forgetful :
    ((fetch (fun _ => []) [echoField 0, echoField 1] (.blank .zero) 7 2 [5, 6, 7]).schedule
      (.ofChains slowlyForgetful (.fixed BeaconQuery.unreachable)) 2 9
        ⟨(), (), .new false⟩).map Prod.fst =
      some (.error (.error ⟨"decode mismatch: batch at offset 2 returned 1 results for 2 calls: " ++
        "decode mismatch: batched fetch failed", .partialFetchFailure⟩)) := by
  have steady : slowlyForgetful.Steady (fun q => (slowlyForgetful.answer q ()).1)
      (fun q => Batched (.execution q)) fun _ => True :=
    ⟨fun _ _ _ _ => trivial, fun _ _ _ _ => rfl, fun _ _ _ _ => trivial⟩
  obtain ⟨last, hlast⟩ : ∃ last, (fetch (fun _ => []) [echoField 0, echoField 1] (.blank .zero) 7 2
      [5, 6, 7]).schedule (.ofChains slowlyForgetful (.fixed BeaconQuery.unreachable)) 2 9
        ⟨(), (), .new false⟩ = some last := by
    have batches : chunks 2 [5, 6, 7] = [[5, 6], [(7 : UInt8)]] := by
      simp only [chunks_cons, chunks_nil, List.take, List.drop, Nat.max_eq_left (Nat.le_succ 1)]
    rw [fetch, if_neg (by decide), batches]
    exact ⟨_, rfl⟩
  have replies : ∀ calls block, (slowlyForgetful.answer (.batchCall calls block) ()).1 =
      Outcome.ofExcept (forgetful calls block) := fun _ _ => rfl
  obtain ⟨succeeds, -, fails⟩ := fetch_complete_or_failed steady replies
    (s := ⟨(), (), .new false⟩) trivial rfl (fun _ => []) (List.cons_ne_nil _ _) (.blank .zero) 7 2
    [5, 6, 7] (.inr ⟨2, 9, hlast⟩)
  have first : forgetful (callsFor [echoField 0, echoField 1] (.blank .zero) [5, 6]) 7 =
      .ok [[5, 0], [5, 1], [6, 0], [6, 1]] := rfl
  have second : forgetful (callsFor [echoField 0, echoField 1] (.blank .zero) [7]) 7 =
      .ok [[7, 0]] := rfl
  rw [hlast, Option.map_some]
  cases hlast' : last.1 with
  | ok rs =>
      obtain ⟨replies, hreplies, hcount, -⟩ := succeeds.mp ⟨rs, hlast'⟩ 1 (by decide)
      cases second.symm.trans hreplies
      cases hcount
  | error failure =>
      obtain ⟨k, hk, e, hfails, rfl⟩ := fails failure hlast'
      obtain rfl | rfl : k = 0 ∨ k = 1 := by
        have two : [(5 : UInt8), 6, 7].length ⌈/⌉ max 2 1 = 2 := by decide
        omega
      · have stored : BatchSucceeds (fun _ => []) [echoField 0, echoField 1] [5, 6]
            (forgetful (callsFor [echoField 0, echoField 1] (.blank .zero) [5, 6]) 7) := by
          refine ⟨_, first, rfl, fun j hj => ?_⟩
          change j < 2 at hj
          obtain rfl | rfl : j = 0 ∨ j = 1 := by omega
          · exact ⟨_, 5, rfl, rfl⟩
          · exact ⟨_, 6, rfl, rfl⟩
        exact absurd hfails (stored.not_fails _ _)
      · change BatchFails _ _ 2 [7] (forgetful (callsFor [echoField 0, echoField 1] _ [7]) 7) e
          at hfails
        rw [second] at hfails
        cases hfails with
        | count hcalls =>
            cases hcalls
            rfl
        | store hlength => cases hlength

end Completion

end StakeSnapshot.Fetch
