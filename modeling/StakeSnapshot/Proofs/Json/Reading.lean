import Mathlib.Data.List.TakeDrop
import StakeSnapshot.Proofs.Text.Numerals

/-!
# Reading what was written in JSON

A string, a number and a truth value are read from their text, whatever blanks stand before it and
whatever follows, as long as what follows does not go on with a number (`Stops`). Larger values are
read by readers that are put together from these.
-/

namespace StakeSnapshot.Json

/-! ## What stands around a value -/

/-- All characters are blanks. -/
def Blank (text : List Char) : Prop := ∀ c ∈ text, isBlank c = true

/-- No character comes next that would go on with a number. -/
def Stops (rest : List Char) : Prop :=
  ∀ c, rest.head? = some c → c.isDigit = false ∧ c ≠ '.' ∧ c ≠ 'e' ∧ c ≠ 'E'

theorem blank_nil : Blank [] := fun _ hc => (List.not_mem_nil hc).elim

theorem blank_lineBreak (spacing : Spacing) : Blank spacing.lineBreak := by
  cases spacing with
  | compact => exact blank_nil
  | indented depth =>
      intro c hc
      rcases List.mem_cons.mp hc with rfl | hc
      · rfl
      · rw [List.eq_of_mem_replicate hc]
        rfl

theorem stops_nil : Stops [] := fun _ hc => by cases hc

theorem stops_cons {c : Char} {rest : List Char}
    (h : c.isDigit = false ∧ c ≠ '.' ∧ c ≠ 'e' ∧ c ≠ 'E') : Stops (c :: rest) := by
  intro d hd
  cases hd
  exact h

theorem stops_of_isBlank {c : Char} (h : isBlank c = true) :
    c.isDigit = false ∧ c ≠ '.' ∧ c ≠ 'e' ∧ c ≠ 'E' := by
  have blank : c = ' ' ∨ c = '\n' ∨ c = '\t' ∨ c = '\r' := by
    simpa [isBlank, or_assoc] using h
  rcases blank with rfl | rfl | rfl | rfl <;> decide

theorem Blank.stops_append {blanks rest : List Char} (hblanks : Blank blanks) (h : Stops rest) :
    Stops (blanks ++ rest) := by
  cases blanks with
  | nil => exact h
  | cons c blanks => exact stops_cons (stops_of_isBlank (hblanks c (List.mem_cons_self ..)))

theorem Blank.skipBlank_append {blanks : List Char} (h : Blank blanks) (rest : List Char) :
    skipBlank (blanks ++ rest) = skipBlank rest :=
  List.dropWhile_append_of_pos h

theorem skipBlank_cons {c : Char} (h : isBlank c = false) (rest : List Char) :
    skipBlank (c :: rest) = c :: rest :=
  List.dropWhile_cons_of_neg (by simp [h])

/-! ## Strings -/

theorem unitOfDigits?_controlDigits : ∀ n < 32,
    unitOfDigits? '0' '0'
      (if n / 16 < 10 then Char.ofNat (48 + n / 16) else Char.ofNat (87 + n / 16))
      (if n % 16 < 10 then Char.ofNat (48 + n % 16) else Char.ofNat (87 + n % 16)) = some n := by
  decide

theorem readPieces_escape (c : Char) (read : List Piece) (rest : List Char) :
    readPieces read (escape c ++ rest) = readPieces (.char c :: read) rest := by
  have char {n : Nat} (h : c.toNat = n) : Char.ofNat n = c := by rw [← h, Char.ofNat_toNat]
  unfold escape
  split
  · next h => rw [h]; rfl
  split
  · next h => rw [h]; rfl
  split
  · next h => rw [h]; rfl
  split
  · next h => rw [h]; rfl
  split
  · next h => rw [h]; rfl
  split
  · next h => rw [← char h]; rfl
  split
  · next h => rw [← char h]; rfl
  split
  · next h =>
      have plain : ¬(0xD800 ≤ c.toNat ∧ c.toNat ≤ 0xDFFF) := by omega
      simp only [controlDigits, List.cons_append, List.nil_append, readPieces,
        unitOfDigits?_controlDigits c.toNat h, Piece.ofUnit, if_neg plain, Char.ofNat_toNat]
  · next hquote hbackslash _ _ _ _ _ hcontrol =>
      rw [List.singleton_append, readPieces.eq_def]
      split
      · next h => cases h
      · next h => exact absurd (List.cons.inj h).1 hquote
      · next h => exact absurd (List.cons.inj h).1 hbackslash
      · next h => exact absurd (List.cons.inj h).1 hbackslash
      · next h =>
          obtain ⟨rfl, rfl⟩ := List.cons.inj h
          rw [if_neg hcontrol]

theorem readPieces_quoted (chars : List Char) (read : List Piece) (rest : List Char) :
    readPieces read (chars.flatMap escape ++ '"' :: rest) =
      some ((chars.map Piece.char).reverse ++ read, rest) := by
  induction chars generalizing read with
  | nil => rfl
  | cons c chars ih =>
      rw [List.flatMap_cons, List.append_assoc, readPieces_escape, ih, List.map_cons,
        List.reverse_cons, List.append_assoc, List.singleton_append]

theorem joinPieces_chars (chars joined : List Char) :
    joinPieces joined (chars.map Piece.char) = some (chars.reverse ++ joined) := by
  induction chars generalizing joined with
  | nil => rfl
  | cons c chars ih =>
      rw [List.map_cons, joinPieces, ih, List.reverse_cons, List.append_assoc,
        List.singleton_append]

/-- A literal is read after its opening quote. -/
theorem readString_quoted (text : String) (rest : List Char) :
    readString (text.toList.flatMap escape ++ '"' :: rest) = some (some text, rest) := by
  rw [readString, readPieces_quoted, List.append_nil, ← List.map_reverse]
  dsimp only
  rw [joinPieces_chars, List.reverse_reverse, List.append_nil, Option.map_some,
    String.ofList_toList]

theorem quote_append (text : String) (rest : List Char) :
    quote text ++ rest = '"' :: (text.toList.flatMap escape ++ '"' :: rest) := by
  rw [quote, List.cons_append, List.append_assoc, List.singleton_append]

/-! ## Numbers -/

theorem digitChar_ne_zero : ∀ d < 10, 0 < d → Nat.digitChar d ≠ '0' := by
  decide

theorem toDigits_cases (n : Nat) :
    Nat.toDigits 10 n = ['0'] ∧ n = 0 ∨
      ∃ c digits, Nat.toDigits 10 n = c :: digits ∧ c ≠ '0' ∧ 0 < n := by
  induction n using Nat.strongRecOn with
  | ind n ih =>
      rw [Nat.toDigits_eq_if (by decide)]
      split
      · next hn =>
          rcases Nat.eq_zero_or_pos n with rfl | hpos
          · exact .inl ⟨rfl, rfl⟩
          · exact .inr ⟨_, [], rfl, digitChar_ne_zero n hn hpos, hpos⟩
      · next hn =>
          rcases ih (n / 10) (by omega) with ⟨-, hzero⟩ | ⟨c, digits, hdigits, hc, -⟩
          · omega
          · rw [hdigits]
            exact .inr ⟨c, _, rfl, hc, by omega⟩

theorem spanDigits_append {digits rest : List Char} (hdigits : ∀ c ∈ digits, c.isDigit = true)
    (h : Stops rest) : spanDigits (digits ++ rest) = (digits, rest) := by
  have tail : rest.takeWhile Char.isDigit = [] ∧ rest.dropWhile Char.isDigit = rest := by
    cases rest with
    | nil => exact ⟨rfl, rfl⟩
    | cons c rest =>
        have hc : ¬c.isDigit = true := by simp [(h c rfl).1]
        exact ⟨List.takeWhile_cons_of_neg hc, List.dropWhile_cons_of_neg hc⟩
  rw [spanDigits, List.span_eq_takeWhile_dropWhile, List.takeWhile_append_of_pos hdigits,
    List.dropWhile_append_of_pos hdigits, tail.1, tail.2, List.append_nil]

theorem readWhole_toDigits (n : Nat) {rest : List Char} (h : Stops rest) :
    readWhole (Nat.toDigits 10 n ++ rest) = some (Nat.toDigits 10 n, rest) := by
  have digits : ∀ c ∈ Nat.toDigits 10 n, c.isDigit = true := fun c hc =>
    Nat.isDigit_of_mem_toDigits (by decide) (by decide) hc
  rw [readWhole, spanDigits_append digits h]
  rcases toDigits_cases n with ⟨hzero, -⟩ | ⟨c, digits, hdigits, hc, -⟩
  · rw [hzero]
    rfl
  · rw [hdigits]
    split
    · next heq => cases heq
    · next heq => exact absurd (List.cons.inj (Prod.mk.inj heq).1).1 hc
    · next heq => exact absurd (List.cons.inj (Prod.mk.inj heq).1).1 hc
    · next heq =>
        cases heq
        rfl

theorem readFraction_stops {rest : List Char} (h : Stops rest) :
    readFraction rest = some ([], rest) := by
  cases rest with
  | nil => rfl
  | cons c rest =>
      rw [readFraction.eq_def]
      split
      · next heq => exact absurd (List.cons.inj heq).1 (h c rfl).2.1
      · rfl

theorem readExponent_stops {rest : List Char} (h : Stops rest) :
    readExponent rest = some ([], rest) := by
  cases rest with
  | nil => rfl
  | cons c rest =>
      obtain ⟨-, -, he, hE⟩ := h c rfl
      rw [readExponent, if_neg fun hc => hc.elim he hE]

theorem exists_toList_toString (n : Nat) :
    ∃ c digits, (toString n).toList = c :: digits ∧ c.isDigit = true := by
  rw [Nat.toString_eq_ofList_toDigits, String.toList_ofList]
  cases hdigits : Nat.toDigits 10 n with
  | nil => exact absurd hdigits Nat.toDigits_ne_nil
  | cons c digits =>
      exact ⟨c, digits, rfl, Nat.isDigit_of_mem_toDigits (b := 10) (n := n) (by decide) (by decide)
        (by rw [hdigits]; exact List.mem_cons_self ..)⟩

theorem ne_of_isDigit {c d : Char} (hc : c.isDigit = true) (hd : d.isDigit = false) : c ≠ d := by
  rintro rfl
  rw [hd] at hc
  cases hc

theorem isBlank_of_isDigit {c : Char} (h : c.isDigit = true) : isBlank c = false := by
  simp [isBlank, ne_of_isDigit h (d := ' ') rfl, ne_of_isDigit h (d := '\n') rfl,
    ne_of_isDigit h (d := '\t') rfl, ne_of_isDigit h (d := '\r') rfl]

theorem readNumber_toString (n : Nat) {rest : List Char} (h : Stops rest) :
    readNumber ((toString n).toList ++ rest) = some (.natural n, rest) := by
  have unsigned : ∀ {text : List Char}, (toString n).toList ++ rest ≠ '-' :: text := by
    intro text heq
    obtain ⟨c, digits, hdigits, hc⟩ := exists_toList_toString n
    rw [hdigits] at heq
    exact ne_of_isDigit hc rfl (List.cons.inj heq).1
  have whole := readWhole_toDigits n h
  rw [← String.toList_ofList (l := Nat.toDigits 10 n), ← Nat.toString_eq_ofList_toDigits] at whole
  have value : naturalOfDigits (toString n).toList = n := by
    rw [Nat.toString_eq_ofList_toDigits, String.toList_ofList, naturalOfDigits_toDigits]
  rw [readNumber]
  · simp only [whole, readFraction_stops h, readExponent_stops h, Option.bind_eq_bind,
      Option.bind_some, List.isEmpty_nil, and_self, if_true, value]
    rfl
  · exact fun _ => unsigned

/-! ## Values -/

section Values

variable {bound : Nat} {blanks rest : List Char}

theorem readValue_quote (hblanks : Blank blanks) (text : String) :
    readValue (bound + 1) (blanks ++ (quote text ++ rest)) = some (.string text, rest) := by
  rw [readValue, hblanks.skipBlank_append, quote_append, skipBlank_cons rfl]
  simp only [readString_quoted]

theorem readValue_natural (hblanks : Blank blanks) (n : Nat) (h : Stops rest) :
    readValue (bound + 1) (blanks ++ ((toString n).toList ++ rest)) = some (.natural n, rest) := by
  have number := readNumber_toString n h
  obtain ⟨c, digits, hdigits, hc⟩ := exists_toList_toString n
  rw [hdigits, List.cons_append] at number
  rw [readValue, hblanks.skipBlank_append, hdigits, List.cons_append,
    skipBlank_cons (isBlank_of_isDigit hc)]
  -- No other kind of value opens with a digit.
  split
  · next heq => exact absurd (List.cons.inj heq).1 (ne_of_isDigit hc rfl)
  · next heq => exact absurd (List.cons.inj heq).1 (ne_of_isDigit hc rfl)
  · next heq => exact absurd (List.cons.inj heq).1 (ne_of_isDigit hc rfl)
  · next heq => exact absurd (List.cons.inj heq).1 (ne_of_isDigit hc rfl)
  · next heq => exact absurd (List.cons.inj heq).1 (ne_of_isDigit hc rfl)
  · next heq => exact absurd (List.cons.inj heq).1 (ne_of_isDigit hc rfl)
  · exact number

theorem readValue_bool (hblanks : Blank blanks) (b : Bool) (spacing : Spacing) :
    readValue (bound + 1) (blanks ++ (render spacing (.bool b) ++ rest)) =
      some (.bool b, rest) := by
  rw [readValue, hblanks.skipBlank_append]
  cases b <;> rfl

end Values

end StakeSnapshot.Json
