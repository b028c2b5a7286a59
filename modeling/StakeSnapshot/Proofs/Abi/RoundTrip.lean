import StakeSnapshot.Abi.Method
import StakeSnapshot.Address.Lemmas
import StakeSnapshot.Amount.Lemmas
import StakeSnapshot.Proofs.Text.Utf8

/-!
# Reading what was written

A cursor stands at a part if the part's bytes come next, or a word that leads to them (`Cursor.At`).
A layout is made of its parts in order (`along_layout`), and a value is read where the cursor stands
at its part (`Ty.Readable`), so values are read back from their layout. Values of types that take
one word have a layout of words, which is the layout of no other values.
-/

namespace StakeSnapshot.Abi

theorem length_wordOfNat (n : Nat) : (wordOfNat n).length = 32 := Bytes.length_ofNat _ _

theorem toNat_wordOfNat {n : Nat} (h : n < 2 ^ 256) : Bytes.toNat (wordOfNat n) = n := by
  rw [wordOfNat, Bytes.toNat_ofNat]
  exact Nat.mod_eq_of_lt h

/-! ## Cursors and parts -/

namespace Cursor

/-- The part comes next, and the other cursor is where it ends in the head. -/
inductive At : Cursor → Part → Cursor → Prop
  | inline (frame bytes rest : Bytes) : At ⟨frame, bytes ++ rest⟩ (.inline bytes) ⟨frame, rest⟩
  | apart {frame bytes after : Bytes} {offset : Nat} (rest : Bytes) (hoffset : offset < UInt64.size)
      (hbytes : frame.drop offset = bytes ++ after) :
      At ⟨frame, wordOfNat offset ++ rest⟩ (.apart bytes) ⟨frame, rest⟩

/-- The parts come next, one after the other. -/
inductive Along : Cursor → List Part → Cursor → Prop
  | nil (c : Cursor) : Along c [] c
  | cons {c c' c'' : Cursor} {part : Part} {parts : List Part} (hpart : At c part c')
      (hparts : Along c' parts c'') : Along c (part :: parts) c''

theorem word_append {frame word rest : Bytes} (h : word.length = 32) :
    Cursor.word ⟨frame, word ++ rest⟩ = .ok (word, ⟨frame, rest⟩) := by
  rw [Cursor.word]
  dsimp only
  rw [List.take_left' h, List.drop_left' h, if_pos h]

theorem size_append {frame rest : Bytes} {n : Nat} (h : n < UInt64.size) :
    Cursor.size ⟨frame, wordOfNat n ++ rest⟩ = .ok (n, ⟨frame, rest⟩) := by
  have hsize : UInt64.size < 2 ^ 256 := by decide
  rw [Cursor.size, word_append (length_wordOfNat n)]
  simp only [bind, Except.bind]
  rw [toNat_wordOfNat (Nat.lt_trans h hsize), if_pos h]

theorem follow_of_at {c next : Cursor} {bytes : Bytes} (h : At c (.apart bytes) next) :
    ∃ after, c.follow = .ok (bytes ++ after, next) := by
  cases h with
  | @apart _ _ after _ rest hoffset hbytes =>
      refine ⟨after, ?_⟩
      rw [follow, size_append hoffset]
      simp only [bind, Except.bind]
      rw [hbytes]

theorem packed_of_at {c next : Cursor} {bytes : Bytes} (hlength : bytes.length < UInt64.size)
    (h : At c (.apart (Abi.packed bytes)) next) : c.packed = .ok (bytes, next) := by
  obtain ⟨after, hfollow⟩ := follow_of_at h
  rw [Cursor.packed, hfollow, Abi.packed, List.append_assoc, List.append_assoc]
  simp only [bind, Except.bind]
  rw [start, size_append hlength]
  dsimp only
  rw [List.take_left' rfl, if_pos rfl]

end Cursor

theorem length_heads (offset : Nat) (parts : List Part) :
    (heads offset parts).length = headLength parts := by
  induction parts generalizing offset with
  | nil => rfl
  | cons part parts ih =>
      cases part with
      | inline bytes => rw [heads, List.length_append, ih, headLength, Part.headSize]
      | apart bytes =>
          rw [heads, List.length_append, ih, headLength, Part.headSize,
            length_wordOfNat]

/-- A head whose words lead into the frame stands at its parts. -/
theorem along_heads {frame after : Bytes} (rest : Bytes) {parts : List Part} {offset : Nat}
    (htails : frame.drop offset = tails parts ++ after)
    (hsize : offset + (tails parts).length < UInt64.size) :
    Cursor.Along ⟨frame, heads offset parts ++ rest⟩ parts ⟨frame, rest⟩ := by
  induction parts generalizing offset with
  | nil => exact .nil _
  | cons part parts ih =>
      cases part with
      | inline bytes =>
          rw [heads, List.append_assoc]
          exact .cons (.inline _ _ _) (ih htails hsize)
      | apart bytes =>
          rw [tails, List.length_append] at hsize
          rw [tails, List.append_assoc] at htails
          have hnext : frame.drop (offset + bytes.length) = tails parts ++ after := by
            rw [← List.drop_drop, htails, List.drop_left' rfl]
          rw [heads, List.append_assoc]
          exact .cons (.apart _ (by omega) htails) (ih hnext (by omega))

/-- A layout stands at its parts, whatever follows it. -/
theorem along_layout {parts : List Part} (hsize : (layout parts).length < UInt64.size)
    (after : Bytes) :
    Cursor.Along (.start (layout parts ++ after)) parts
      ⟨layout parts ++ after, tails parts ++ after⟩ := by
  have hheads := length_heads (headLength parts) parts
  have htails : (layout parts ++ after).drop (headLength parts) = tails parts ++ after := by
    rw [layout, List.append_assoc, List.drop_left' hheads]
  rw [layout, List.length_append, hheads] at hsize
  have halong := along_heads (tails parts ++ after) htails hsize
  rwa [← List.append_assoc] at halong

/-! ## Values -/

/-- The value is read wherever a cursor stands at its part. -/
def Ty.Readable (t : Ty) (value : t.Value) : Prop :=
  ∀ c next, Cursor.At c (t.part value) next → t.read c = .ok (value, next)

def AllReadable : (ts : List Ty) → Values ts → Prop
  | [], _ => True
  | t :: ts, (value, values) => t.Readable value ∧ AllReadable ts values

theorem readValues_of_along {ts : List Ty} {values : Values ts} (h : AllReadable ts values)
    {c next : Cursor} (halong : Cursor.Along c (valueParts ts values) next) :
    readValues ts c = .ok (values, next) := by
  induction ts generalizing c with
  | nil =>
      cases halong
      rw [readValues]
  | cons t ts ih =>
      obtain ⟨value, values⟩ := values
      rw [valueParts] at halong
      cases halong with
      | cons hpart hparts =>
          rw [readValues, h.1 _ _ hpart]
          simp only [bind, Except.bind]
          rw [ih h.2 hparts]

/-- Values that are readable are read back from their layout. -/
theorem decodeValues_encode {ts : List Ty} {values : Values ts} (h : AllReadable ts values)
    (hsize : (encode ts values).length < UInt64.size) :
    decodeValues ts (encode ts values) = .ok values := by
  have halong := along_layout hsize []
  rw [List.append_nil] at halong
  rw [encode, decodeValues, readValues_of_along h halong]
  rfl

theorem decode_encode {t : Ty} {value : t.Value} (h : t.Readable value)
    (hsize : (encode [t] (value, ())).length < UInt64.size) :
    decode t (encode [t] (value, ())) = .ok value := by
  have halong := along_layout hsize []
  rw [List.append_nil, valueParts, valueParts] at halong
  cases halong with
  | cons hpart _ =>
      rw [encode, valueParts, valueParts, decode, h _ _ hpart]
      rfl

/-! ## Words -/

/-- The values of the type take one word. -/
def Ty.isWord : Ty → Bool
  | .address | .uint256 | .int256 | .uint8 | .bool | .bytes32 => true
  | .bytes | .string | .array _ | .tuple _ => false

/-- A word type writes a word and reads it as the value that it wrote. -/
theorem exists_word {t : Ty} (ht : t.isWord = true) (value : t.Value) :
    ∃ word, t.part value = .inline word ∧ word.length = 32 ∧
      ∀ frame rest, t.read ⟨frame, word ++ rest⟩ = .ok (value, ⟨frame, rest⟩) := by
  cases t with
  | bytes | string | array | tuple => cases ht
  | address =>
      refine ⟨wordOfNat value.toNat, by rw [Ty.part], length_wordOfNat _, fun frame rest => ?_⟩
      have hlt : value.toNat < 2 ^ 256 := Nat.lt_trans value.toNat_lt (by decide)
      rw [Ty.read, Cursor.word_append (length_wordOfNat _)]
      simp only [bind, Except.bind]
      rw [Address.ofBytes, toNat_wordOfNat hlt, Address.ofNat_toNat]
  | uint256 | int256 | bytes32 =>
      refine ⟨Word.toBytes value, by rw [Ty.part], Word.length_toBytes _, fun frame rest => ?_⟩
      rw [Ty.read, Cursor.word_append (Word.length_toBytes _)]
      simp only [bind, Except.bind]
      rw [Word.ofBytes_toBytes]
  | uint8 =>
      refine ⟨wordOfNat (UInt8.toNat value), by rw [Ty.part], length_wordOfNat _,
        fun frame rest => ?_⟩
      have hlt : UInt8.toNat value < 2 ^ 256 := Nat.lt_trans (UInt8.toNat_lt value) (by decide)
      rw [Ty.read, Cursor.word_append (length_wordOfNat _)]
      simp only [bind, Except.bind]
      rw [toNat_wordOfNat hlt, UInt8.ofNat_toNat]
  | bool =>
      refine ⟨wordOfNat (Bool.toNat value), by rw [Ty.part], length_wordOfNat _,
        fun frame rest => ?_⟩
      have hlt : Bool.toNat value < 2 ^ 256 := Nat.lt_trans (Bool.toNat_lt value) (by decide)
      rw [Ty.read, Cursor.word_append (length_wordOfNat _)]
      simp only [bind, Except.bind]
      rw [toNat_wordOfNat hlt]
      cases value <;> rfl

theorem readable_of_isWord {t : Ty} (ht : t.isWord = true) (value : t.Value) :
    t.Readable value := by
  intro c next hat
  obtain ⟨word, hpart, -, hread⟩ := exists_word ht value
  rw [hpart] at hat
  cases hat
  exact hread _ _

theorem allReadable_of_isWord {ts : List Ty} (hts : ∀ t ∈ ts, t.isWord = true)
    (values : Values ts) : AllReadable ts values := by
  induction ts with
  | nil => trivial
  | cons t ts ih =>
      exact ⟨readable_of_isWord (hts t (List.mem_cons_self ..)) values.1,
        ih (fun t' ht' => hts t' (List.mem_cons_of_mem _ ht')) values.2⟩

theorem length_layout_of_isWord {ts : List Ty} (hts : ∀ t ∈ ts, t.isWord = true)
    (values : Values ts) :
    headLength (valueParts ts values) = 32 * ts.length ∧ tails (valueParts ts values) = [] := by
  induction ts with
  | nil => exact ⟨rfl, rfl⟩
  | cons t ts ih =>
      obtain ⟨value, values⟩ := values
      obtain ⟨word, hpart, hlength, -⟩ := exists_word (hts t (List.mem_cons_self ..)) value
      obtain ⟨hheads, htails⟩ := ih (fun t' ht' => hts t' (List.mem_cons_of_mem _ ht')) values
      rw [valueParts, hpart]
      constructor
      · rw [headLength, Part.headSize, hheads, hlength, List.length_cons]
        omega
      · rw [tails, htails]

theorem length_encode_of_isWord {ts : List Ty} (hts : ∀ t ∈ ts, t.isWord = true)
    (values : Values ts) : (encode ts values).length = 32 * ts.length := by
  obtain ⟨hheads, htails⟩ := length_layout_of_isWord hts values
  rw [encode, layout, List.length_append, length_heads, hheads, htails, List.length_nil,
    Nat.add_zero]

/-- Different words have different layouts. -/
theorem encode_injective {ts : List Ty} (hts : ∀ t ∈ ts, t.isWord = true)
    (hlength : 32 * ts.length < UInt64.size) : Function.Injective (encode ts) := by
  have read : ∀ values, decodeValues ts (encode ts values) = .ok values := fun values =>
    decodeValues_encode (allReadable_of_isWord hts values)
      (by rwa [length_encode_of_isWord hts values])
  intro values values' h
  have hread := read values
  rw [h, read values'] at hread
  cases hread
  rfl

/-! ## Texts -/

theorem readable_string {text : String} (h : (Bytes.ofString text).length < UInt64.size) :
    Ty.string.Readable text := by
  intro c next hat
  rw [Ty.part] at hat
  rw [Ty.read, Cursor.packed_of_at h hat]
  simp only [bind, Except.bind]
  rw [Utf8.decodeLossy_ofString]

theorem length_encode_string (text : String) :
    (encode [.string] (text, ())).length ≤ 96 + (Bytes.ofString text).length := by
  rw [encode, valueParts, valueParts, Ty.part, layout, heads, heads, tails, tails, packed]
  simp only [List.length_append, List.length_replicate, List.length_nil, length_wordOfNat]
  omega

namespace Method

variable {inputs inputs' : List Ty} {output output' : Ty}

theorem length_selector (m : Method inputs output) : m.selector.length = 4 := by
  rw [m.selector_eq, selectorOf, List.length_take, length_keccak256]
  rfl

/-- A call tells its target, its selector and the layout of its arguments. -/
theorem call_eq_iff {m : Method inputs output} {m' : Method inputs' output'}
    {target target' : Address} {args : Values inputs} {args' : Values inputs'} :
    m.call target args = m'.call target' args' ↔
      target = target' ∧ m.selector = m'.selector ∧ encode inputs args = encode inputs' args' := by
  have hlength : m.selector.length = m'.selector.length := by
    rw [m.length_selector, m'.length_selector]
  rw [call, call, ContractCall.mk.injEq, calldata, calldata]
  refine and_congr_right fun _ => ⟨fun h => List.append_inj h hlength, fun ⟨hs, hargs⟩ => ?_⟩
  rw [hs, hargs]

theorem decodeResult_encodeResult (m : Method inputs output) (h : output.isWord = true)
    (value : output.Value) : m.decodeResult (m.encodeResult value) = .ok value := by
  have hword : ∀ t ∈ [output], t.isWord = true := by
    intro t ht
    rwa [List.mem_singleton.mp ht]
  have hlength := length_encode_of_isWord hword (value, ())
  refine decode_encode (readable_of_isWord h value) ?_
  rw [hlength, List.length_singleton]
  decide

theorem decodeResult_string (m : Method inputs .string) {text : String}
    (h : (Bytes.ofString text).length ≤ Memory.limit) :
    m.decodeResult (m.encodeResult text) = .ok text := by
  have hlimit : Memory.limit + 97 < UInt64.size := by decide
  have hlength := length_encode_string text
  exact decode_encode (readable_string (by omega)) (by omega)

end Method

end StakeSnapshot.Abi
