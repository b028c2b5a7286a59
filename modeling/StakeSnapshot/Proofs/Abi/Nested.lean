import StakeSnapshot.Proofs.Abi.RoundTrip

/-!
# Values inside values

Arrays and tuples are layouts of their own, in the head or in the tail of the layout around them.
Values of every type are read back from their layout (`Ty.readable`), by induction on the type. A
type without content is left out: an array of such values takes no room, and is refused.
-/

namespace StakeSnapshot.Abi

/-! ## The room that parts take -/

/-- The bytes of a part, in the head or in the tail. -/
def Part.bytes : Part → Bytes
  | .inline bytes => bytes
  | .apart bytes => bytes

theorem length_layout (parts : List Part) :
    (layout parts).length = headLength parts + (tails parts).length := by
  rw [layout, List.length_append, length_heads]

/-- A layout has room for each of its parts. -/
theorem length_bytes_le {part : Part} {parts : List Part} (h : part ∈ parts) :
    part.bytes.length ≤ (layout parts).length := by
  rw [length_layout]
  induction parts with
  | nil => cases h
  | cons first parts ih =>
      rw [headLength]
      rcases List.mem_cons.mp h with rfl | h
      · cases part with
        | inline bytes =>
            rw [Part.bytes, Part.headSize, tails]
            omega
        | apart bytes =>
            rw [Part.bytes, Part.headSize, tails, List.length_append]
            omega
      · have rest := ih h
        cases first with
        | inline bytes =>
            rw [tails]
            omega
        | apart bytes =>
            rw [tails, List.length_append]
            omega

mutual

/-- The values of the type have content, so each takes a word at least. -/
def Ty.hasContent : Ty → Bool
  | .array item => item.hasContent
  | .tuple ts => !ts.isEmpty && allHaveContent ts
  | _ => true

def allHaveContent : List Ty → Bool
  | [] => true
  | t :: ts => t.hasContent && allHaveContent ts

end

theorem headSize_apart (bytes : Bytes) : 32 ≤ (Part.apart bytes).headSize := Nat.le_refl 32

mutual

theorem Ty.word_le_headSize : (t : Ty) → t.hasContent = true → (value : t.Value) →
    32 ≤ (t.part value).headSize
  | .tuple ts, h, values => by
      rw [Ty.hasContent, Bool.and_eq_true] at h
      have room := word_le_headLength ts h.1 h.2 values
      rw [Ty.part]
      split
      · rw [Part.headSize, length_layout]
        omega
      · exact headSize_apart _
  | .array item, _, values => by
      rw [Ty.part]
      exact headSize_apart _
  | .bytes, _, bytes => by
      rw [Ty.part]
      exact headSize_apart _
  | .string, _, text => by
      rw [Ty.part]
      exact headSize_apart _
  | .address, _, _ | .uint8, _, _ | .bool, _, _ => by
      rw [Ty.part, Part.headSize]
      exact Nat.le_of_eq (length_wordOfNat _).symm
  | .uint256, _, w | .int256, _, w | .bytes32, _, w => by
      rw [Ty.part, Part.headSize]
      exact Nat.le_of_eq (Word.length_toBytes w).symm

theorem word_le_headLength : (ts : List Ty) → (!ts.isEmpty) = true → allHaveContent ts = true →
    (values : Values ts) → 32 ≤ headLength (valueParts ts values)
  | [], h, _, _ => by cases h
  | t :: ts, _, h, (value, values) => by
      rw [allHaveContent, Bool.and_eq_true] at h
      have room := t.word_le_headSize h.1 value
      rw [valueParts, headLength]
      omega

end

/-! ## Parts in the head -/

mutual

/-- Whether a value stands in the head depends on its type alone. -/
theorem Ty.isInline_part : (t : Ty) → (value : t.Value) → (t.part value).isInline = t.isInline
  | .tuple ts, values => by
      have all := all_isInline_valueParts ts values
      rw [Ty.part, Ty.isInline, ← all]
      split
      · next h => exact h.symm
      · next h => exact (Bool.eq_false_iff.mpr h).symm
  | .array item, values => by
      rw [Ty.part]
      rfl
  | .bytes, _ | .string, _ => by
      rw [Ty.part]
      rfl
  | .address, _ | .uint256, _ | .int256, _ | .uint8, _ | .bool, _ | .bytes32, _ => by
      rw [Ty.part]
      rfl

theorem all_isInline_valueParts : (ts : List Ty) → (values : Values ts) →
    (valueParts ts values).all Part.isInline = allInline ts
  | [], _ => rfl
  | t :: ts, (value, values) => by
      rw [valueParts, List.all_cons, t.isInline_part value, all_isInline_valueParts ts values,
        allInline]

end

theorem tails_of_inline {parts : List Part} (h : parts.all Part.isInline = true) :
    tails parts = [] := by
  induction parts with
  | nil => rfl
  | cons part parts ih =>
      rw [List.all_cons, Bool.and_eq_true] at h
      cases part with
      | inline bytes =>
          rw [tails]
          exact ih h.2
      | apart bytes => cases h.1

theorem along_inline {parts : List Part} (h : parts.all Part.isInline = true)
    (hsize : (layout parts).length < UInt64.size) (frame rest : Bytes) :
    Cursor.Along ⟨frame, layout parts ++ rest⟩ parts ⟨frame, rest⟩ := by
  have htails := tails_of_inline h
  have hframe : frame.drop (headLength parts) = tails parts ++ frame.drop (headLength parts) := by
    rw [htails, List.nil_append]
  rw [length_layout] at hsize
  have halong := along_heads rest hframe hsize
  rwa [layout, htails, List.append_nil]

/-! ## Reading -/

theorem readMany_of_along {item : Ty} {values : List item.Value}
    (h : ∀ value ∈ values, item.Readable value) {c next : Cursor}
    (halong : Cursor.Along c (values.map item.part) next) (done : List item.Value) :
    readMany item.read values.length done c = .ok (done.reverse ++ values) := by
  induction values generalizing c done with
  | nil => rw [List.length_nil, readMany, List.append_nil]
  | cons value values ih =>
      cases halong with
      | cons hpart hparts =>
          rw [List.length_cons, readMany, h value (List.mem_cons_self ..) _ _ hpart]
          dsimp only
          rw [ih (fun v hv => h v (List.mem_cons_of_mem _ hv)) hparts, List.reverse_cons,
            List.append_assoc, List.singleton_append]

theorem word_mul_le_headLength {item : Ty} (hitem : item.hasContent = true)
    (values : List item.Value) : 32 * values.length ≤ headLength (values.map item.part) := by
  induction values with
  | nil => exact Nat.le_refl 0
  | cons value values ih =>
      have room := item.word_le_headSize hitem value
      rw [List.map_cons, headLength, List.length_cons]
      omega

theorem readable_array {item : Ty} (hitem : item.hasContent = true) {values : List item.Value}
    (h : ∀ value ∈ values, item.Readable value)
    (hsize : ((Ty.array item).part values).bytes.length < UInt64.size) :
    (Ty.array item).Readable values := by
  intro c next hat
  have room := word_mul_le_headLength hitem values
  rw [Ty.part] at hat
  rw [Ty.part, Part.bytes, List.length_append, length_wordOfNat] at hsize
  have hlayout := length_layout (values.map item.part)
  obtain ⟨after, hfollow⟩ := Cursor.follow_of_at hat
  rw [Ty.read, hfollow, List.append_assoc]
  simp only [bind, Except.bind, Cursor.start]
  rw [Cursor.size_append (by omega)]
  have enough : ¬Cursor.wordsLeft
      ⟨wordOfNat values.length ++ (layout (values.map item.part) ++ after),
        layout (values.map item.part) ++ after⟩ < values.length := by
    rw [Cursor.wordsLeft, List.length_append]
    omega
  dsimp only
  rw [if_neg enough]
  have hmany := readMany_of_along h (along_layout (by omega) after) []
  rw [Cursor.start] at hmany
  rw [hmany]
  rfl

theorem readable_tuple {ts : List Ty} {values : Values ts} (h : AllReadable ts values)
    (hsize : ((Ty.tuple ts).part values).bytes.length < UInt64.size) :
    (Ty.tuple ts).Readable values := by
  intro c next hat
  have hinline := all_isInline_valueParts ts values
  rw [Ty.part] at hat hsize
  rw [Ty.read, ← hinline]
  split
  · next hall =>
      rw [if_pos hall] at hat hsize
      cases hat
      exact readValues_of_along h (along_inline hall hsize _ _)
  · next hall =>
      rw [if_neg hall] at hat hsize
      obtain ⟨after, hfollow⟩ := Cursor.follow_of_at hat
      rw [hfollow]
      simp only [bind, Except.bind]
      rw [readValues_of_along h (along_layout hsize after)]

theorem readable_bytes {bytes : Bytes} (h : bytes.length < UInt64.size) :
    Ty.bytes.Readable bytes := by
  intro c next hat
  rw [Ty.part] at hat
  rw [Ty.read, Cursor.packed_of_at h hat]

theorem length_le_packed (bytes : Bytes) : bytes.length ≤ (packed bytes).length := by
  rw [packed, List.length_append, List.length_append]
  omega

mutual

/-- A value is read back wherever it stands, if its bytes can be counted. -/
theorem Ty.readable : (t : Ty) → t.hasContent = true → ∀ value : t.Value,
    (t.part value).bytes.length < UInt64.size → t.Readable value
  | .bytes => fun _ bytes hsize => by
      rw [Ty.part] at hsize
      exact readable_bytes (Nat.lt_of_le_of_lt (length_le_packed bytes) hsize)
  | .string => fun _ text hsize => by
      rw [Ty.part] at hsize
      exact readable_string (Nat.lt_of_le_of_lt (length_le_packed _) hsize)
  | .array item => fun ht values hsize => by
      have ht : item.hasContent = true := by rwa [Ty.hasContent] at ht
      refine readable_array ht (fun value hvalue => item.readable ht value ?_) hsize
      have room := length_bytes_le (List.mem_map_of_mem (f := item.part) hvalue)
      rw [Ty.part, Part.bytes, List.length_append] at hsize
      omega
  | .tuple ts => fun ht values hsize => by
      rw [Ty.hasContent, Bool.and_eq_true] at ht
      refine readable_tuple (allReadable ts ht.2 values fun part hpart => ?_) hsize
      have room := length_bytes_le hpart
      rw [Ty.part] at hsize
      split at hsize
      · exact Nat.lt_of_le_of_lt room hsize
      · exact Nat.lt_of_le_of_lt room hsize
  | .address => fun _ a _ => readable_of_isWord rfl a
  | .uint256 => fun _ w _ => readable_of_isWord rfl w
  | .int256 => fun _ w _ => readable_of_isWord rfl w
  | .uint8 => fun _ n _ => readable_of_isWord rfl n
  | .bool => fun _ b _ => readable_of_isWord rfl b
  | .bytes32 => fun _ w _ => readable_of_isWord rfl w

theorem allReadable : (ts : List Ty) → allHaveContent ts = true → ∀ values : Values ts,
    (∀ part ∈ valueParts ts values, part.bytes.length < UInt64.size) → AllReadable ts values
  | [] => fun _ _ _ => trivial
  | t :: ts => fun hts (value, values) hsize => by
      rw [allHaveContent, Bool.and_eq_true] at hts
      rw [valueParts] at hsize
      exact ⟨t.readable hts.1 value (hsize _ (List.mem_cons_self ..)),
        allReadable ts hts.2 values fun part hpart => hsize part (List.mem_cons_of_mem _ hpart)⟩

end

theorem allReadable_of_encode {ts : List Ty} (hts : allHaveContent ts = true) {values : Values ts}
    (hsize : (encode ts values).length < UInt64.size) : AllReadable ts values :=
  allReadable ts hts values fun _ hpart => Nat.lt_of_le_of_lt (length_bytes_le hpart) hsize

namespace Method

variable {inputs : List Ty} {output : Ty}

/-- A contract finds the arguments in the calldata of a call. -/
theorem arguments?_calldata (m : Method inputs output) (h : allHaveContent inputs = true)
    {args : Values inputs} (hsize : (m.calldata args).length < UInt64.size) :
    m.arguments? (m.calldata args) = some args := by
  have hselector := m.length_selector
  rw [calldata, List.length_append] at hsize
  have hencode : (encode inputs args).length < UInt64.size := by omega
  rw [arguments?, calldata, List.take_left' hselector, List.drop_left' hselector, if_pos rfl,
    decodeValues_encode (allReadable_of_encode h hencode) hencode]
  rfl

/-- The caller finds the value in a result. -/
theorem decodeResult_value (m : Method inputs output) (h : output.hasContent = true)
    {value : output.Value} (hsize : (m.encodeResult value).length < UInt64.size) :
    m.decodeResult (m.encodeResult value) = .ok value := by
  have hall : allHaveContent [output] = true := by
    rw [allHaveContent, h]
    rfl
  exact decode_encode (allReadable_of_encode hall hsize).1 hsize

end Method

end StakeSnapshot.Abi
