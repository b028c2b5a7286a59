import StakeSnapshot.Text.Utf8

/-!
# Texts and their bytes

A text is read back from its own bytes in UTF-8, character by character: the first byte of a
character says how many more there are and in which range the next one is, and each of these adds
six bits (`Utf8.decodeLossy_ofString`).
-/

namespace StakeSnapshot.Utf8

/-! ## The bytes of a text -/

theorem byteArrayToList_loop (bytes : ByteArray) (i : Nat) (done : List UInt8) :
    ByteArray.toList.loop bytes i done = done.reverse ++ bytes.data.toList.drop i := by
  induction i, done using ByteArray.toList.loop.induct bytes with
  | case1 i done h ih =>
      have hnext : bytes.data.toList.drop i = bytes.data[i] :: bytes.data.toList.drop (i + 1) := by
        rw [List.drop_eq_getElem_cons (by simpa using h)]
        rfl
      rw [ByteArray.toList.loop, if_pos h, ih, hnext]
      simp [ByteArray.get!, h]
  | case2 i done h =>
      rw [ByteArray.toList.loop, if_neg h, List.drop_of_length_le (by simpa using h),
        List.append_nil]

theorem ofString_eq (text : String) :
    Bytes.ofString text = text.toList.flatMap String.utf8EncodeChar := by
  have hbytes : text.toUTF8 = text.toList.utf8Encode := String.utf8Encode_toList.symm
  rw [Bytes.ofString, ByteArray.toList, byteArrayToList_loop, hbytes, List.utf8Encode,
    List.data_toByteArray]
  simp

/-- The bytes of a text are valid, and name the text. -/
theorem fromUTF8?_ofString (text : String) :
    String.fromUTF8? ⟨(Bytes.ofString text).toArray⟩ = some text := by
  have hbytes : (⟨(Bytes.ofString text).toArray⟩ : ByteArray) = text.toUTF8 := by
    rw [Bytes.ofString, ByteArray.toList, byteArrayToList_loop]
    simp
  rw [hbytes]
  exact dif_pos text.isValidUTF8

/-! ## Reading a character -/

/-- The byte that ends in the lowest six bits of a number, as the bytes after a first one do. -/
def following (n : Nat) : UInt8 := UInt8.ofNat (n % 64 + 128)

theorem toNat_following (n : Nat) : (following n).toNat = n % 64 + 128 :=
  UInt8.toNat_ofNat_of_lt' (by have : UInt8.size = 256 := rfl; omega)

theorem readFrom_missing {bits missing n : Nat} {low high : UInt8} (rest : Bytes)
    (hlow : low ≤ following n) (hhigh : following n ≤ high) (hmissing : missing ≠ 1) :
    readFrom (some ⟨bits, missing, low, high⟩) (following n :: rest) =
      readFrom (some ⟨bits * 64 + n % 64, missing - 1, 0x80, 0xBF⟩) rest := by
  rw [readFrom, if_pos ⟨hlow, hhigh⟩, toNat_following]
  dsimp only
  rw [if_neg hmissing, show (n % 64 + 128) % 64 = n % 64 by omega]

theorem readFrom_last {bits n : Nat} {low high : UInt8} (rest : Bytes)
    (hlow : low ≤ following n) (hhigh : following n ≤ high) :
    readFrom (some ⟨bits, 1, low, high⟩) (following n :: rest) =
      Char.ofNat (bits * 64 + n % 64) :: readFrom none rest := by
  rw [readFrom, if_pos ⟨hlow, hhigh⟩, toNat_following]
  dsimp only
  rw [if_pos rfl, show (n % 64 + 128) % 64 = n % 64 by omega]

/-- A byte that follows is in the widest range that there is. -/
theorem following_mem (n : Nat) : 0x80 ≤ following n ∧ following n ≤ 0xBF := by
  rw [UInt8.le_iff_toNat_le, UInt8.le_iff_toNat_le, toNat_following]
  constructor
  · exact Nat.le_add_left 128 _
  · change n % 64 + 128 ≤ 191
    omega

theorem lead_one {v : Nat} (hv : v ≤ 127) : lead (UInt8.ofNat v) = .complete (Char.ofNat v) := by
  have hb : (UInt8.ofNat v).toNat = v :=
    UInt8.toNat_ofNat_of_lt' (by have : UInt8.size = 256 := rfl; omega)
  rw [lead, if_pos (by rw [UInt8.lt_iff_toNat_lt, hb]; exact Nat.lt_succ_of_le hv), hb]

theorem lead_two {v : Nat} (hlow : 127 < v) (hv : v ≤ 2047) :
    lead (UInt8.ofNat (v / 64 % 32 + 192)) = .pending ⟨v / 64, 1, 0x80, 0xBF⟩ := by
  have hb : (UInt8.ofNat (v / 64 % 32 + 192)).toNat = v / 64 % 32 + 192 :=
    UInt8.toNat_ofNat_of_lt' (by have : UInt8.size = 256 := rfl; omega)
  generalize UInt8.ofNat (v / 64 % 32 + 192) = b at hb
  simp only [lead, UInt8.lt_iff_toNat_lt, UInt8.le_iff_toNat_le, hb, UInt8.reduceToNat]
  rw [if_neg (by omega), if_pos (by omega)]
  congr 2
  omega

/-- The range of the second byte leaves out the numbers that fit into fewer bytes, and those that
stand for no character. -/
theorem lead_three {v : Nat} (hlow : 2047 < v) (hv : v ≤ 65535) (hchar : v < 55296 ∨ 57343 < v) :
    ∃ low high, lead (UInt8.ofNat (v / 4096 % 16 + 224)) = .pending ⟨v / 4096, 2, low, high⟩ ∧
      low ≤ following (v / 64) ∧ following (v / 64) ≤ high := by
  have hb : (UInt8.ofNat (v / 4096 % 16 + 224)).toNat = v / 4096 % 16 + 224 :=
    UInt8.toNat_ofNat_of_lt' (by have : UInt8.size = 256 := rfl; omega)
  generalize UInt8.ofNat (v / 4096 % 16 + 224) = b at hb
  have hfollowing := toNat_following (v / 64)
  simp only [lead, UInt8.lt_iff_toNat_lt, UInt8.le_iff_toNat_le, ← UInt8.toNat_inj, hb, hfollowing,
    UInt8.reduceToNat]
  rw [if_neg (by omega), if_neg (by omega)]
  by_cases hzero : v / 4096 = 0
  · rw [if_pos (by omega), hzero]
    exact ⟨0xA0, 0xBF, rfl, by simp only [UInt8.reduceToNat]; omega,
      by simp only [UInt8.reduceToNat]; omega⟩
  · rw [if_neg (by omega)]
    by_cases hthirteen : v / 4096 = 13
    · rw [if_pos (by omega), hthirteen]
      exact ⟨0x80, 0x9F, rfl, by simp only [UInt8.reduceToNat]; omega,
        by simp only [UInt8.reduceToNat]; omega⟩
    · rw [if_neg (by omega), if_pos (by omega), show (v / 4096 % 16 + 224) % 16 = v / 4096 by omega]
      exact ⟨0x80, 0xBF, rfl, by simp only [UInt8.reduceToNat]; omega,
        by simp only [UInt8.reduceToNat]; omega⟩

theorem lead_four {v : Nat} (hlow : 65535 < v) (hv : v < 1114112) :
    ∃ low high, lead (UInt8.ofNat (v / 262144 % 8 + 240)) = .pending ⟨v / 262144, 3, low, high⟩ ∧
      low ≤ following (v / 4096) ∧ following (v / 4096) ≤ high := by
  have hb : (UInt8.ofNat (v / 262144 % 8 + 240)).toNat = v / 262144 % 8 + 240 :=
    UInt8.toNat_ofNat_of_lt' (by have : UInt8.size = 256 := rfl; omega)
  generalize UInt8.ofNat (v / 262144 % 8 + 240) = b at hb
  have hfollowing := toNat_following (v / 4096)
  simp only [lead, UInt8.lt_iff_toNat_lt, UInt8.le_iff_toNat_le, ← UInt8.toNat_inj, hb, hfollowing,
    UInt8.reduceToNat]
  rw [if_neg (by omega), if_neg (by omega), if_neg (by omega), if_neg (by omega),
    if_neg (by omega)]
  by_cases hzero : v / 262144 = 0
  · rw [if_pos (by omega), hzero]
    exact ⟨0x90, 0xBF, rfl, by simp only [UInt8.reduceToNat]; omega,
      by simp only [UInt8.reduceToNat]; omega⟩
  · rw [if_neg (by omega)]
    by_cases hfour : v / 262144 = 4
    · rw [if_neg (by omega), if_pos (by omega), hfour]
      exact ⟨0x80, 0x8F, rfl, by simp only [UInt8.reduceToNat]; omega,
        by simp only [UInt8.reduceToNat]; omega⟩
    · rw [if_pos (by omega), show (v / 262144 % 8 + 240) % 8 = v / 262144 by omega]
      exact ⟨0x80, 0xBF, rfl, by simp only [UInt8.reduceToNat]; omega,
        by simp only [UInt8.reduceToNat]; omega⟩

theorem readFrom_encodeChar (c : Char) (rest : Bytes) :
    readFrom none (String.utf8EncodeChar c ++ rest) = c :: readFrom none rest := by
  have hvalid : c.toNat < 55296 ∨ 57343 < c.toNat ∧ c.toNat < 1114112 := c.valid
  have hchar : Char.ofNat c.toNat = c := Char.ofNat_toNat c
  unfold String.utf8EncodeChar
  change readFrom none (ite (c.toNat ≤ 127) _ _ ++ rest) = _
  have hv : c.val.toNat = c.toNat := rfl
  rw [hv]
  generalize hn : c.toNat = v at hvalid hchar ⊢
  by_cases hone : v ≤ 127
  · rw [if_pos hone, List.singleton_append, readFrom, lead_one hone]
    dsimp only
    rw [hchar]
  rw [if_neg hone]
  by_cases htwo : v ≤ 2047
  · rw [if_pos htwo]
    change readFrom none (_ :: following v :: rest) = _
    rw [readFrom, lead_two (by omega) htwo]
    dsimp only
    rw [readFrom_last rest (following_mem v).1 (following_mem v).2,
      show v / 64 * 64 + v % 64 = v by omega, hchar]
  rw [if_neg htwo]
  by_cases hthree : v ≤ 65535
  · rw [if_pos hthree]
    change readFrom none (_ :: following (v / 64) :: following v :: rest) = _
    obtain ⟨low, high, hlead, hlow, hhigh⟩ := lead_three (by omega) hthree (by omega)
    rw [readFrom, hlead]
    dsimp only
    rw [readFrom_missing _ hlow hhigh (by omega),
      readFrom_last rest (following_mem v).1 (following_mem v).2,
      show (v / 4096 * 64 + v / 64 % 64) * 64 + v % 64 = v by omega, hchar]
  · rw [if_neg hthree]
    change readFrom none (_ :: following (v / 4096) :: following (v / 64) :: following v :: rest) =
      _
    obtain ⟨low, high, hlead, hlow, hhigh⟩ := lead_four (v := v) (by omega) (by omega)
    rw [readFrom, hlead]
    dsimp only
    rw [readFrom_missing _ hlow hhigh (by omega),
      readFrom_missing _ (following_mem (v / 64)).1 (following_mem (v / 64)).2 (by omega),
      readFrom_last rest (following_mem v).1 (following_mem v).2,
      show ((v / 262144 * 64 + v / 4096 % 64) * 64 + v / 64 % 64) * 64 + v % 64 = v by omega, hchar]

theorem readFrom_encode (chars : List Char) :
    readFrom none (chars.flatMap String.utf8EncodeChar) = chars := by
  induction chars with
  | nil => rfl
  | cons c chars ih => rw [List.flatMap_cons, readFrom_encodeChar, ih]

/-- A text is read from its own bytes unchanged. -/
theorem decodeLossy_ofString (text : String) : decodeLossy (Bytes.ofString text) = text := by
  rw [decodeLossy, ofString_eq, readFrom_encode, String.ofList_toList]

end StakeSnapshot.Utf8
