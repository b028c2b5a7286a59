import StakeSnapshot.Address.Lemmas
import StakeSnapshot.Amount.Lemmas
import StakeSnapshot.Json.Reader

/-!
# Numbers and their texts

The digits of a number are read back, in decimal as in JSON, and in hexadecimal as in the texts of
amounts. A byte string is read back from its hexadecimal text, and so is an address.
-/

namespace StakeSnapshot

/-! ## Digits -/

theorem digitValue?_digitChar : ∀ d < 16, digitValue? (Nat.digitChar d) = some d := by
  decide

theorem hexValue?_hexDigit : ∀ d < 16, hexValue? (hexDigit d) = some d := by
  decide

theorem digitChar_ne_underscore : ∀ d < 16, Nat.digitChar d ≠ '_' := by
  decide

theorem mem_toDigits {base : Nat} (hbase : 1 < base) {n : Nat} {c : Char}
    (h : c ∈ Nat.toDigits base n) : ∃ d < base, c = Nat.digitChar d := by
  induction n using Nat.strongRecOn with
  | ind n ih =>
      rw [Nat.toDigits_eq_if hbase] at h
      split at h
      · next hn => exact ⟨n, hn, List.mem_singleton.mp h⟩
      · next hn =>
          rcases List.mem_append.mp h with h | h
          · exact ih (n / base) (Nat.div_lt_self (by omega) hbase) h
          · exact ⟨n % base, Nat.mod_lt _ (by omega), List.mem_singleton.mp h⟩

/-! ## Numerals in some base -/

theorem continueNumeral?_append (base : Nat) (digits rest : List Char) (n : Nat) :
    continueNumeral? base n (digits ++ rest) =
      (continueNumeral? base n digits).bind fun m => continueNumeral? base m rest := by
  induction digits generalizing n with
  | nil => rfl
  | cons c digits ih =>
      simp only [List.cons_append, continueNumeral?]
      cases digitValue? c with
      | none => rfl
      | some d =>
          simp only [Option.bind_eq_bind, Option.bind_some]
          split
          · exact ih _
          · rfl

theorem continueNumeral?_toDigits {base : Nat} (hbase : 1 < base) (hdigits : base ≤ 16) (n : Nat) :
    continueNumeral? base 0 (Nat.toDigits base n) = some n := by
  -- One digit continues a numeral.
  have one (m d : Nat) (hd : d < base) :
      continueNumeral? base m [Nat.digitChar d] = some (m * base + d) := by
    simp only [continueNumeral?, digitValue?_digitChar d (Nat.lt_of_lt_of_le hd hdigits),
      Option.bind_eq_bind, Option.bind_some, if_pos hd]
  induction n using Nat.strongRecOn with
  | ind n ih =>
      rw [Nat.toDigits_eq_if hbase]
      split
      · next hn =>
          rw [one 0 n hn, Nat.zero_mul, Nat.zero_add]
      · next hn =>
          rw [continueNumeral?_append, ih (n / base) (Nat.div_lt_self (by omega) hbase),
            Option.bind_some, one _ _ (Nat.mod_lt _ (by omega)), Nat.div_add_mod']

theorem toList_hexPrefix (text : String) : ("0x" ++ text).toList = '0' :: 'x' :: text.toList := by
  rw [String.toList_append]
  rfl

theorem naturalOfText?_digitsIn (n : Nat) :
    naturalOfText? ("0x" ++ digitsIn 16 n) = some n := by
  have digits : (Nat.toDigits 16 n).filter (· ≠ '_') = Nat.toDigits 16 n := by
    refine List.filter_eq_self.mpr fun c hc => ?_
    obtain ⟨d, hd, rfl⟩ := mem_toDigits (by decide) hc
    exact decide_eq_true (digitChar_ne_underscore d hd)
  rw [naturalOfText?, toList_hexPrefix, digitsIn, String.toList_ofList, splitBase]
  dsimp only
  rw [digits]
  exact continueNumeral?_toDigits (by decide) (by decide) n

namespace Amount

theorem ofText?_digitsIn {n : Nat} (h : n < 2 ^ 256) :
    ofText? ("0x" ++ digitsIn 16 n) = some (BitVec.ofNat 256 n) := by
  rw [ofText?, naturalOfText?_digitsIn]
  refine ofNat?_eq_some_iff.mpr ?_
  rw [BitVec.toNat_ofNat, Nat.mod_eq_of_lt h]

/-- An amount is read back from its text. -/
theorem ofText?_toText (a : Amount) : ofText? a.toText = some a := by
  rw [toText, ofText?_digitsIn a.isLt, BitVec.ofNat_toNat, BitVec.setWidth_eq]

end Amount

/-- The decimal digits of a number, as JSON reads them. -/
theorem Json.naturalOfDigits_toDigits (n : Nat) :
    Json.naturalOfDigits (Nat.toDigits 10 n) = n := by
  have same (digits : List Char) (m : Nat) :
      digits.foldl (fun n c => n * 10 + (c.toNat - 48)) m = Nat.ofDigitChars 10 digits m := by
    induction digits generalizing m with
    | nil => rfl
    | cons c digits ih =>
        rw [List.foldl_cons, ih, Nat.ofDigitChars_cons, Nat.mul_comm m 10]
        rfl
  rw [Json.naturalOfDigits, same]
  exact Nat.ofDigitChars_toDigits (by decide) (by decide)

/-! ## Bytes -/

namespace Bytes

theorem ofHexDigits?_pairs (bytes : Bytes) :
    ofHexDigits? (bytes.flatMap fun b => [hexDigit (b.toNat / 16), hexDigit (b.toNat % 16)]) =
      some bytes := by
  induction bytes with
  | nil => rfl
  | cons b bytes ih =>
      have hb := b.toNat_lt
      have halves : b.toNat / 16 * 16 + b.toNat % 16 = b.toNat := Nat.div_add_mod' ..
      rw [List.flatMap_cons]
      simp only [List.cons_append, List.nil_append, ofHexDigits?,
        hexValue?_hexDigit (b.toNat / 16) (by omega), hexValue?_hexDigit (b.toNat % 16) (by omega),
        ih, Option.bind_eq_bind, Option.bind_some, halves, UInt8.ofNat_toNat]
      rfl

/-- A byte string is read back from its text. -/
theorem ofHex?_toText (bytes : Bytes) : ofHex? bytes.toText = some bytes := by
  rw [ofHex?, toText, toList_hexPrefix, stripHexPrefix, hex, String.toList_ofList,
    ofHexDigits?_pairs]

end Bytes

theorem Address.length_toBytes (a : Address) : a.toBytes.length = 20 := Bytes.length_ofNat _ _

end StakeSnapshot
