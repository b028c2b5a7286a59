import StakeSnapshot.Proofs.Fetch.Completion
import StakeSnapshot.Proofs.Fetch.Fields
import StakeSnapshot.Proofs.Fetch.Records
import StakeSnapshot.Proofs.SingleBlock

/-!
# Statuses and deposit types by their numbers

A minipool returns its status and its deposit type as numbers in words of 32 bytes. Only the last
byte of the word is read, so a number means what it means modulo 256: it is refused if that is
greater than four (`Fetch.minipools_numbers`), and a word whose last byte is at most four is
accepted, whatever stands before it.
-/

namespace StakeSnapshot

open StakeSnapshot.Task Contract

/-! ## Numbers -/

/-- Values that are kept under the numbers from zero to four. All other numbers are refused. -/
structure Numbered {α : Type} (number : α → UInt8) (ofNumber : UInt8 → Except Error α)
    (name : String) : Prop where
  ofNumber_cases (n : UInt8) : (∃ value, number value = n ∧ ofNumber n = .ok value) ∨
    4 < n.toNat ∧ ofNumber n = .error (.of .decodeMismatch s!"{name} {n}")
  bound (value : α) : (number value).toNat ≤ 4

theorem four_lt_of_ne {n : UInt8} (h0 : n ≠ 0) (h1 : n ≠ 1) (h2 : n ≠ 2) (h3 : n ≠ 3)
    (h4 : n ≠ 4) : 4 < n.toNat := by
  rw [ne_eq, ← UInt8.toNat_inj] at h0 h1 h2 h3 h4
  have zero : n.toNat ≠ 0 := h0
  have one : n.toNat ≠ 1 := h1
  have two : n.toNat ≠ 2 := h2
  have three : n.toNat ≠ 3 := h3
  have four : n.toNat ≠ 4 := h4
  omega

theorem MinipoolStatus.numbered : Numbered number ofNumber "minipool status" where
  ofNumber_cases n := by
    unfold ofNumber
    split
    case h_6 h0 h1 h2 h3 h4 => exact .inr ⟨four_lt_of_ne h0 h1 h2 h3 h4, rfl⟩
    all_goals exact .inl ⟨_, rfl, rfl⟩
  bound value := by
    cases value <;> decide

theorem DepositType.numbered : Numbered number ofNumber "deposit type" where
  ofNumber_cases n := by
    unfold ofNumber
    split
    case h_6 h0 h1 h2 h3 h4 => exact .inr ⟨four_lt_of_ne h0 h1 h2 h3 h4, rfl⟩
    all_goals exact .inl ⟨_, rfl, rfl⟩
  bound value := by
    cases value <;> decide

namespace Numbered

variable {α : Type} {number : α → UInt8} {ofNumber : UInt8 → Except Error α} {name : String}

/-- The last byte of a word is its number modulo 256. -/
theorem ofNat_cases (h : Numbered number ofNumber name) (n : Nat) :
    (∃ value, (number value).toNat = n % 256 ∧ ofNumber (UInt8.ofNat n) = .ok value) ∨
      4 < n % 256 ∧
        ofNumber (UInt8.ofNat n) = .error (.of .decodeMismatch s!"{name} {n % 256}") := by
  have last : (UInt8.ofNat n).toNat = n % 256 := UInt8.toNat_ofNat'
  have shown : toString (UInt8.ofNat n) = toString (n % 256) := congrArg toString last
  rcases h.ofNumber_cases (UInt8.ofNat n) with ⟨value, hvalue, hok⟩ | ⟨hlarge, herror⟩
  · exact .inl ⟨value, hvalue ▸ last, hok⟩
  · rw [shown] at herror
    exact .inr ⟨last ▸ hlarge, herror⟩

end Numbered

/-! ## Words -/

theorem Abi.Cursor.word_start {data : Bytes} (hdata : data.length = 32) :
    (Cursor.start data).word = .ok (data, ⟨data, []⟩) := by
  have append : Cursor.word ⟨data, data ++ []⟩ = .ok (data, ⟨data, []⟩) := word_append hdata
  rwa [List.append_nil] at append

/-- Any word is the result of a function whose results take one word. -/
theorem Abi.Method.decodeResult_word {inputs : List Abi.Ty} {output : Abi.Ty}
    (m : Abi.Method inputs output) (houtput : output.isWord = true) {data : Bytes}
    (hdata : data.length = 32) : ∃ value, m.decodeResult data = .ok value := by
  cases output with
  | bytes | string | array | tuple => cases houtput
  | _ =>
      rw [decodeResult, decode, Abi.Ty.read, Cursor.word_start hdata]
      exact ⟨_, rfl⟩

/-- Of a word that is read as a byte, only the last byte is looked at. -/
theorem Abi.Method.decodeResult_uint8 {inputs : List Abi.Ty} (m : Abi.Method inputs .uint8)
    {data : Bytes} (hdata : data.length = 32) :
    m.decodeResult data = .ok (UInt8.ofNat (Bytes.toNat data)) := by
  rw [decodeResult, decode, Abi.Ty.read, Cursor.word_start hdata]
  rfl

namespace MinipoolGetter

variable (answers : {α : Type} → ExecutionQuery α → Outcome α) (block : UInt64)

/-- The function of a minipool returns a word with the number `n`. -/
def Tells (g : MinipoolGetter) (m : Address) (n : Nat) : Prop :=
  ∃ data : Bytes, answers (.call (g.method.call m ()) block) = .ok data ∧ data.length = 32 ∧
    Bytes.toNat data = n

/-- The errors of the record of a minipool that returns words: the status or the deposit type is
not one of those that there are. -/
inductive Misread (m : Address) : Error → Prop where
  | status {n : Nat} (told : status.Tells answers block m n) (h : 4 < n % 256) :
      Misread m ((Error.of .decodeMismatch s!"minipool status {n % 256}").context
        "decoding getStatus")
  | depositType {n : Nat} (told : depositType.Tells answers block m n) (h : 4 < n % 256) :
      Misread m ((Error.of .decodeMismatch s!"deposit type {n % 256}").context
        "decoding getDepositType")

end MinipoolGetter

namespace Fetch

variable {κ ρ γ : Type}

/-! ## Storing -/

/-- A field whose value the fields after it leave alone. -/
theorem storeAll_middle {R : FieldSpec κ ρ → Bytes → Prop} {part : ρ → γ}
    {before after : List (FieldSpec κ ρ)} {f : FieldSpec κ ρ}
    (hafter : ∀ f ∈ after, ∀ data r r', f.store data r = .ok r' → part r' = part r)
    {replies : List Bytes} (hreplies : List.Forall₂ R (before ++ f :: after) replies) {start r : ρ}
    (h : storeAll (before ++ f :: after) replies start = .ok r) :
    ∃ data old new, R f data ∧ f.store data old = .ok new ∧ part r = part new := by
  induction before generalizing replies start with
  | nil =>
      cases hreplies with
      | @cons _ data _ replies hdata _ =>
          obtain ⟨new, hstore, hrest⟩ := storeAll_cons_eq_ok.mp h
          exact ⟨data, start, new, hdata, hstore, storeAll_preserves hafter replies hrest⟩
  | cons f' before ih =>
      cases hreplies with
      | cons _ hreplies =>
          obtain ⟨_, -, hrest⟩ := storeAll_cons_eq_ok.mp h
          exact ih hreplies hrest

/-- What cannot be stored is the reply to one of the fields. -/
theorem storeAll_eq_error {R : FieldSpec κ ρ → Bytes → Prop} {fields : List (FieldSpec κ ρ)}
    {replies : List Bytes} (hreplies : List.Forall₂ R fields replies) {start : ρ} {e : Error}
    (h : storeAll fields replies start = .error e) :
    ∃ f ∈ fields, ∃ data r, R f data ∧ f.storeNamed data r = .error e := by
  induction hreplies generalizing start with
  | nil => cases h
  | @cons f data fields replies hdata _ ih =>
      rw [storeAll] at h
      cases hstore : f.storeNamed data start with
      | error e' =>
          rw [hstore] at h
          cases h
          exact ⟨f, List.mem_cons_self .., data, start, hdata, hstore⟩
      | ok r =>
          rw [hstore] at h
          obtain ⟨f', hf', rest⟩ := ih h
          exact ⟨f', List.mem_cons_of_mem _ hf', rest⟩

/-- The replies for a key of a batch are those to its own calls. -/
theorem forall₂_repliesAt {R : ContractCall → Bytes → Prop} {fields : List (FieldSpec κ ρ)}
    {registry : Registry} {keys : List κ} {replies : List Bytes}
    (h : List.Forall₂ R (callsFor fields registry keys) replies) {j : Nat} {key : κ}
    (hkey : keys[j]? = some key) :
    List.Forall₂ (fun f data => R (f.call registry key) data) fields
      (repliesAt fields.length replies j) := by
  induction keys generalizing replies j with
  | nil => cases hkey
  | cons key' keys ih =>
      rw [callsFor_cons, forall₂_append, List.length_map, List.forall₂_map_left_iff] at h
      cases j with
      | zero =>
          cases hkey
          rw [repliesAt_zero]
          exact h.1
      | succ j =>
          rw [repliesAt_succ]
          exact ih h.2 hkey

theorem exists_forall₂ {α β : Type} {R : α → β → Prop} {as : List α} (h : ∀ a ∈ as, ∃ b, R a b) :
    ∃ bs, List.Forall₂ R as bs := by
  induction as with
  | nil => exact ⟨[], .nil⟩
  | cons a as ih =>
      obtain ⟨b, hb⟩ := h a (List.mem_cons_self ..)
      obtain ⟨bs, hbs⟩ := ih fun a' ha' => h a' (List.mem_cons_of_mem _ ha')
      exact ⟨b :: bs, .cons hb hbs⟩

/-! ## The fields of a minipool -/

section Row

variable {number : γ → UInt8} {ofNumber : UInt8 → Except Error γ} {name : String}
  {m : Abi.Method [] .uint8} {set : γ → Minipool → Minipool} {data : Bytes} {r : Minipool}

/-- Of a word, a field that is kept as a number stores what the number means modulo 256. -/
theorem numberRow_store (h : Numbered number ofNumber name) (m : Abi.Method [] .uint8)
    (set : γ → Minipool → Minipool) (hdata : data.length = 32) (r : Minipool) :
    (∃ value, (number value).toNat = Bytes.toNat data % 256 ∧
      (MinipoolField.numberRow m ofNumber set).store data r = .ok (set value r)) ∨
    4 < Bytes.toNat data % 256 ∧ (MinipoolField.numberRow m ofNumber set).store data r =
      .error (.of .decodeMismatch s!"{name} {Bytes.toNat data % 256}") := by
  dsimp only [MinipoolField.numberRow]
  rw [m.decodeResult_uint8 hdata]
  dsimp only
  rcases h.ofNat_cases (Bytes.toNat data) with ⟨value, hnumber, hok⟩ | ⟨hlarge, herror⟩
  · rw [hok]
    exact .inl ⟨value, hnumber, rfl⟩
  · rw [herror]
    exact .inr ⟨hlarge, rfl⟩

theorem numberRow_storeNamed_error (h : Numbered number ofNumber name) (hdata : data.length = 32)
    {e : Error} (hstore : (MinipoolField.numberRow m ofNumber set).storeNamed data r = .error e) :
    4 < Bytes.toNat data % 256 ∧
      e = (Error.of .decodeMismatch s!"{name} {Bytes.toNat data % 256}").context
        s!"decoding {m.name}" := by
  rw [FieldSpec.storeNamed] at hstore
  rcases numberRow_store h m set hdata r with ⟨value, -, hok⟩ | ⟨hlarge, herror⟩
  · rw [hok] at hstore
    cases hstore
  · rw [herror] at hstore
    cases hstore
    exact ⟨hlarge, rfl⟩

theorem row_storeNamed {output : Abi.Ty} (m : Abi.Method [] output)
    (set : output.Value → Minipool → Minipool) (houtput : output.isWord = true)
    (hdata : data.length = 32) (e : Error) :
    (MinipoolField.row m set).storeNamed data r ≠ .error e := by
  obtain ⟨value, hvalue⟩ := m.decodeResult_word houtput hdata
  dsimp only [FieldSpec.storeNamed, MinipoolField.row, FieldSpec.ofMethod]
  rw [hvalue]
  intro h
  cases h

end Row

section Minipool

variable {answers : {α : Type} → ExecutionQuery α → Outcome α} {block : UInt64}
  {registry : Registry} {address : Address}

theorem misread_of_storeNamed {g : MinipoolGetter} {data : Bytes}
    (htold : answers (.call (g.method.call address ()) block) = .ok data)
    (hdata : data.length = 32) {r : Minipool} {e : Error}
    (h : g.field.storeNamed data r = .error e) :
    MinipoolGetter.Misread answers block address e := by
  cases g with
  | nodeAddress | finalised | nodeFee => exact absurd h (row_storeNamed _ _ rfl hdata e)
  | status =>
      obtain ⟨hlarge, rfl⟩ := numberRow_storeNamed_error MinipoolStatus.numbered hdata h
      exact .status ⟨data, htold, hdata, rfl⟩ hlarge
  | depositType =>
      obtain ⟨hlarge, rfl⟩ := numberRow_storeNamed_error DepositType.numbered hdata h
      exact .depositType ⟨data, htold, hdata, rfl⟩ hlarge

/-- The record of a minipool has the status and the deposit type that the minipool tells. -/
theorem number_of_direct {number : γ → UInt8} {ofNumber : UInt8 → Except Error γ}
    {name : String} {m : Abi.Method [] .uint8} {set : γ → Minipool → Minipool}
    (h : Numbered number ofNumber name) (get : Minipool → γ) (hset : ∀ v r, get (set v r) = v)
    (before : List (FieldSpec Address Minipool)) {after : List (FieldSpec Address Minipool)}
    (htable : MinipoolField.table = before ++ MinipoolField.numberRow m ofNumber set :: after)
    (hafter : ∀ f ∈ after, ∀ data r r', f.store data r = .ok r' → get r' = get r)
    {r : Minipool}
    (hdirect : Direct answers MinipoolField.table registry block address (.new address) r)
    {data : Bytes} (htold : answers (.call (m.call address ()) block) = .ok data)
    (hdata : data.length = 32) : (number (get r)).toNat = Bytes.toNat data % 256 := by
  obtain ⟨replies, hreplies, hstore⟩ := hdirect
  rw [htable] at hreplies hstore
  obtain ⟨data', old, new, htold', hnew, hget⟩ := storeAll_middle hafter hreplies hstore
  obtain rfl : data = data' := Except.ok.inj (htold.symm.trans htold')
  rcases numberRow_store h m set hdata old with ⟨value, hnumber, hok⟩ | ⟨-, herror⟩
  · cases hok.symm.trans hnew
    rw [hget, hset]
    exact hnumber
  · cases herror.symm.trans hnew

theorem status_of_direct {r : Minipool}
    (h : Direct answers MinipoolField.table registry block address (.new address) r) {n : Nat}
    (htold : MinipoolGetter.status.Tells answers block address n) :
    r.status.number.toNat = n % 256 := by
  obtain ⟨data, htold, hdata, rfl⟩ := htold
  refine number_of_direct MinipoolStatus.numbered Minipool.status (fun _ _ => rfl) [_] rfl ?_ h
    htold hdata
  refine List.forall_mem_cons.mpr ⟨ofMethod_preserves _ _ _ _ fun _ _ => rfl, ?_⟩
  refine List.forall_mem_cons.mpr ⟨ofMethod_preserves _ _ _ _ fun _ _ => rfl, ?_⟩
  exact List.forall_mem_singleton.mpr (numberRow_preserves _ _ fun _ _ => rfl)

theorem depositType_of_direct {r : Minipool}
    (h : Direct answers MinipoolField.table registry block address (.new address) r) {n : Nat}
    (htold : MinipoolGetter.depositType.Tells answers block address n) :
    r.depositType.number.toNat = n % 256 := by
  obtain ⟨data, htold, hdata, rfl⟩ := htold
  exact number_of_direct DepositType.numbered Minipool.depositType (fun _ _ => rfl) [_, _, _, _]
    rfl (List.forall_mem_nil _) h htold hdata

theorem not_misread_of_direct {r : Minipool}
    (h : Direct answers MinipoolField.table registry block address (.new address) r) (e : Error) :
    ¬MinipoolGetter.Misread answers block address e := by
  rintro (⟨told, large⟩ | ⟨told, large⟩)
  · have number := status_of_direct h told
    have bound := MinipoolStatus.numbered.bound r.status
    omega
  · have number := depositType_of_direct h told
    have bound := DepositType.numbered.bound r.depositType
    omega

/-- A minipool that returns words to all calls is answered in a batch by these words. -/
theorem words_of_callsFor (registry : Registry) {addresses : List Address}
    (hwords : ∀ m ∈ addresses, ∀ g : MinipoolGetter, ∃ n, g.Tells answers block m n) :
    ∃ replies, List.Forall₂
      (fun call data => answers (.call call block) = .ok data ∧ data.length = 32)
      (callsFor MinipoolField.table registry addresses) replies := by
  refine exists_forall₂ fun call hcall => ?_
  obtain ⟨m, hm, hcall⟩ := List.mem_flatMap.mp hcall
  obtain ⟨f, hf, rfl⟩ := List.mem_map.mp hcall
  rw [MinipoolGetter.table_eq] at hf
  obtain ⟨g, -, rfl⟩ := List.mem_map.mp hf
  obtain ⟨n, data, hdata, hlength, -⟩ := hwords m hm g
  exact ⟨data, by rwa [g.call_field], hlength⟩

/-- A fetch of minipools that return words fails only for a status or a deposit type that there is
not. -/
theorem misread_of_mayEnd {a : Answers} (hcalls : ExecutionQuery.BatchesCalls a.execution)
    {addresses : List Address}
    (hwords : ∀ m ∈ addresses, ∀ g : MinipoolGetter, ∃ n, g.Tells a.execution block m n)
    {failure : Failure}
    (h : MayEnd (.fixed a.query) (minipools registry block addresses) (.error failure)) :
    ∃ m ∈ addresses, ∃ e, MinipoolGetter.Misread a.execution block m e ∧
      failure = .error (partialFailure e) := by
  obtain ⟨k, -, _, rfl, hbatch⟩ := mayEnd_fetch_error h
  have member : ∀ m ∈ batchAt (max minipoolBatch 1) addresses k, m ∈ addresses := fun m hm =>
    List.mem_of_mem_drop (List.mem_of_mem_take hm)
  obtain ⟨replies, hreplies⟩ := words_of_callsFor registry fun m hm => hwords m (member m hm)
  have answered : a.execution (.batchCall _ block) = Outcome.ofExcept (.ok replies) :=
    (hcalls _ block replies).mpr (hreplies.imp fun _ _ h => h.1)
  obtain ⟨e, rfl, hfails⟩ := batchFails_of_mayEnd answered hbatch
  cases hfails with
  | count hcount hlength =>
      exact absurd (hreplies.length_eq.symm.trans (length_callsFor ..)) (hcount ▸ hlength)
  | @store _ _ _ m _ hm _ hstore =>
      obtain ⟨f, hf, data, r, ⟨htold, hdata⟩, hfail⟩ :=
        storeAll_eq_error (forall₂_repliesAt hreplies hm) hstore
      rw [MinipoolGetter.table_eq] at hf
      obtain ⟨g, -, rfl⟩ := List.mem_map.mp hf
      rw [g.call_field] at htold
      exact ⟨m, member m (List.mem_of_getElem? hm), e, misread_of_storeNamed htold hdata hfail, rfl⟩

/-- A fetch fails in one way only if the client fails in no other than by errors. -/
theorem partialFailure_of_mayEnd {a : Answers}
    {reply : List ContractCall → UInt64 → Except Error (List Bytes)}
    (hreply : ∀ calls block,
      a.execution (.batchCall calls block) = Outcome.ofExcept (reply calls block))
    {addresses : List Address} {failure : Failure}
    (h : MayEnd (.fixed a.query) (minipools registry block addresses) (.error failure)) :
    ∃ e, failure = .error e ∧ e.kind = .partialFetchFailure := by
  obtain ⟨k, -, _, rfl, hbatch⟩ := mayEnd_fetch_error h
  obtain ⟨e, rfl, -⟩ := batchFails_of_mayEnd (hreply _ _) hbatch
  exact ⟨_, rfl, rfl⟩

end Minipool

/-! ## Reading over a client -/

section Client

variable {ε β : Type} {client : Service ExecutionQuery ε} {beacon : Service BeaconQuery β}
  {answers : {α : Type} → ExecutionQuery α → Outcome α} {I : ε → Prop}
  {reply : List ContractCall → UInt64 → Except Error (List Bytes)}

/-- A task that only reads ends as it may end with the answers of the client, while permits are
given out. -/
theorem mayEnd_of_reads (hclient : client.Steady answers (fun _ => True) I)
    {s : Surroundings ε β} (hs : I s.execution) (hopen : s.session.closed = false)
    {t : Task Query γ} (hasks : ∀ replies, t.Asks replies Reads)
    {last : Outcome γ × Surroundings ε β} (hlast : t.EndsIn (.ofChains client beacon) s last) :
    ∃ known, t.MayEnd (.fixed (Answers.mk answers BeaconQuery.unreachable known).query) last.1 := by
  let a : Answers := ⟨answers, BeaconQuery.unreachable, s.session.config⟩
  have learning : (Service.ofChains client beacon).Matches (.ofChains client beacon)
      (a.replies false) Reads fun s s' => s = s' ∧ a.LearnIn I (fun _ => True) false s := by
    refine Answers.matches_learning hclient ?_ (fun _ h => h.elim) false
    exact ⟨fun _ _ h => h.elim, fun _ _ h => h.elim, fun _ _ h => h.elim⟩
  have learns : a.Learns false t :=
    Answers.learns_of_asks ((hasks _).imp fun _ => Reads.leavesConfig)
  have hend := (learning.mayEnd (hasks _) ⟨hs, trivial, .inl rfl, hopen⟩ hlast).1
  exact ⟨a.learned.known, learns.mayEnd _ rfl hend⟩

/-- What a minipool tells as its status and its deposit type is read modulo 256, wherever it is
read:

* a fetch that has records has the status and the deposit type with that number in the record of
  each minipool;
* a fetch with a minipool that has no such status or deposit type fails as a whole;
* a fetch of minipools that return words to all calls fails for no other reason;
* for the queue, the deposit type is that with the number, or it is refused. -/
theorem minipools_numbers (hclient : client.Steady answers (fun _ => True) I)
    (hcalls : ExecutionQuery.BatchesCalls answers)
    (hreply : ∀ calls block,
      answers (.batchCall calls block) = Outcome.ofExcept (reply calls block))
    {s : Surroundings ε β} (hs : I s.execution) (hopen : s.session.closed = false)
    (registry : Registry) (block : UInt64) :
    (∀ addresses last,
      (minipools registry block addresses).EndsIn (.ofChains client beacon) s last →
      (∀ rs, last.1 = .ok rs → List.Forall₂ (fun m (r : Minipool) => r.address = m ∧
        (∀ n, MinipoolGetter.status.Tells answers block m n → r.status.number.toNat = n % 256) ∧
        ∀ n, MinipoolGetter.depositType.Tells answers block m n →
          r.depositType.number.toNat = n % 256) addresses rs) ∧
      (∀ m ∈ addresses, ∀ e, MinipoolGetter.Misread answers block m e →
        ∃ e', last.1 = .error (.error e') ∧ e'.kind = .partialFetchFailure) ∧
      ((∀ m ∈ addresses, ∀ g : MinipoolGetter, ∃ n, g.Tells answers block m n) →
        (∃ rs, last.1 = .ok rs) ∨ ∃ m ∈ addresses, ∃ e,
          MinipoolGetter.Misread answers block m e ∧
            last.1 = .error (.error (partialFailure e)))) ∧
    ∀ m n, MinipoolGetter.depositType.Tells answers block m n → ∀ last,
      (Queue.askContracts registry block (.depositType m)).EndsIn (.ofChains client beacon) s
        last →
      (∃ type : DepositType, type.number.toNat = n % 256 ∧ last.1 = .ok type) ∨
        4 < n % 256 ∧
          last.1 = .error (.error (.of .decodeMismatch s!"deposit type {n % 256}")) := by
  have reading := reading_reads block
  refine ⟨fun addresses last hlast => ?_, fun m n htold last hlast => ?_⟩
  · obtain ⟨known, hend⟩ := mayEnd_of_reads hclient hs hopen
      (fun _ => reading.asks_fetch _ _ registry _ addresses) hlast
    have records : ∀ rs, last.1 = .ok rs →
        List.Forall₂ (MinipoolAt (.mk answers BeaconQuery.unreachable known) registry block)
          addresses rs := by
      intro rs hrs
      rw [hrs] at hend
      exact (mayEnd_minipools_ok registry block hcalls addresses rs).mp hend
    refine ⟨fun rs hrs => (records rs hrs).imp fun m r h => ?_, fun m hm e he => ?_,
      fun hwords => ?_⟩
    · exact ⟨h.preserves table_address_minipool, fun n => status_of_direct h,
        fun n => depositType_of_direct h⟩
    · cases hlast : last.1 with
      | ok rs =>
          obtain ⟨r, -, hr⟩ := forall₂_mem_right (records rs hlast).flip hm
          exact absurd he (not_misread_of_direct hr e)
      | error failure =>
          rw [hlast] at hend
          obtain ⟨e', rfl, hkind⟩ := partialFailure_of_mayEnd hreply hend
          exact ⟨e', rfl, hkind⟩
    · cases hlast : last.1 with
      | ok rs => exact .inl ⟨rs, rfl⟩
      | error failure =>
          rw [hlast] at hend
          obtain ⟨m, hm, e, he, rfl⟩ := misread_of_mayEnd hcalls hwords hend
          exact .inr ⟨m, hm, e, he, rfl⟩
  · obtain ⟨known, hend⟩ := mayEnd_of_reads hclient hs hopen
      (fun _ => reading.asks_askContracts registry (.depositType m)) hlast
    obtain ⟨data, hdata, hlength, rfl⟩ := htold
    have told : (read MinipoolDelegate.getDepositType m () block).MayEnd
        (.fixed (Answers.mk answers BeaconQuery.unreachable known).query)
        (.ok (UInt8.ofNat (Bytes.toNat data))) :=
      (mayEnd_read_ok _ _ _ _ _).mpr
        ⟨data, hdata, MinipoolDelegate.getDepositType.decodeResult_uint8 hlength⟩
    have hend : last.1 = Outcome.ofExcept (DepositType.ofNumber (.ofNat (Bytes.toNat data))) :=
      (strict_read _ _ _ _).mayEnd_bind told hend
    rcases DepositType.numbered.ofNat_cases (Bytes.toNat data) with
      ⟨type, hnumber, hok⟩ | ⟨hlarge, herror⟩
    · rw [hok] at hend
      exact .inl ⟨type, hnumber, hend⟩
    · rw [herror] at hend
      exact .inr ⟨hlarge, hend⟩

theorem batchesCalls_sample (value : UInt64 → Nat) :
    ExecutionQuery.BatchesCalls (ExecutionQuery.sample value) := by
  intro calls block replies
  simp only [ExecutionQuery.sample, Except.ok.injEq]
  rw [← List.forall₂_map_left_iff (R := (· = ·)) (f := fun _ => Bytes.ofNat 32 (value block)),
    List.forall₂_eq_eq_eq]

/-- A word that ends in 9 is refused, in a fetch and for the queue. -/
theorem minipools_refuse_nine :
    let client := Service.fixed (ExecutionQuery.sample fun _ => 2 ^ 255 + 9)
    let start : Surroundings Unit Unit := ⟨(), (), .new false⟩
    (∃ e, ((minipools (.blank .zero) 7 [.ofNat 80]).run
        (.ofChains client (.fixed BeaconQuery.sample)) start).1 = .error (.error e) ∧
      e.kind = .partialFetchFailure) ∧
    ((Queue.askContracts (.blank .zero) 7 (.depositType (.ofNat 80))).run
      (.ofChains client (.fixed BeaconQuery.sample)) start).1 =
        .error (.error (.of .decodeMismatch "deposit type 9")) := by
  intro client start
  have told (g : MinipoolGetter) :
      g.Tells (ExecutionQuery.sample fun _ => 2 ^ 255 + 9) 7 (.ofNat 80) (2 ^ 255 + 9) :=
    ⟨_, rfl, rfl, by decide⟩
  obtain ⟨fetches, lookups⟩ := @minipools_numbers Unit Unit client (.fixed BeaconQuery.sample)
    (ExecutionQuery.sample fun _ => 2 ^ 255 + 9) (fun _ => True)
    (fun calls _ => .ok (calls.map fun _ => Bytes.ofNat 32 (2 ^ 255 + 9)))
    (Service.fixed_steady _ fun _ => True) (batchesCalls_sample _) (fun _ _ => rfl) start trivial
    rfl (.blank .zero) 7
  refine ⟨?_, ?_⟩
  · exact (fetches [.ofNat 80] _ (.inl rfl)).2.1 _ (List.mem_singleton.mpr rfl) _
      (.status (told .status) (by decide))
  · rcases lookups _ _ (told .depositType) _ (.inl rfl) with ⟨type, number, -⟩ | ⟨-, refused⟩
    · have bound := DepositType.numbered.bound type
      rw [number] at bound
      exact absurd bound (by decide)
    · exact refused

/-- A word that ends in 2 is accepted, although it is the number 258. -/
theorem minipools_accept_wideNumber :
    let service := Service.ofChains (.fixed (ExecutionQuery.sample fun _ => 258))
      (.fixed BeaconQuery.sample)
    let start : Surroundings Unit Unit := ⟨(), (), .new false⟩
    MinipoolGetter.status.Tells (ExecutionQuery.sample fun _ => 258) 7 (.ofNat 80) 258 ∧
      MinipoolGetter.depositType.Tells (ExecutionQuery.sample fun _ => 258) 7 (.ofNat 80) 258 ∧
      ((minipools (.blank .zero) 7 [.ofNat 80]).run service start).1 =
        .ok [⟨.ofNat 80, .ofNat 258, .staking, true, 258, .half⟩] ∧
      ((Queue.askContracts (.blank .zero) 7 (.depositType (.ofNat 80))).run service start).1 =
        .ok .half := by
  refine ⟨⟨_, rfl, rfl, by decide⟩, ⟨_, rfl, rfl, by decide⟩, ?_, ?_⟩
  · decide +kernel
  · decide +kernel

end Client

end Fetch

end StakeSnapshot
