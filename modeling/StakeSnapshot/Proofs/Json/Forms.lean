import StakeSnapshot.Json.Codec
import StakeSnapshot.Proofs.Json.Reading

/-!
# Forms that are read back

A form is lawful if the value that is written, and its text in either spacing, are read back
(`LawfulJsonForm`). A text is read wherever it stands (`Reads`), so that the reader of a list or of
a record can be followed item by item.
-/

namespace StakeSnapshot

namespace Json

variable {α β : Type} {read : Reader α} {text : List Char} {a : α}

/-- The reader takes the text for the value, whatever blanks stand before it and whatever
follows. -/
def Reads (read : Reader α) (text : List Char) (a : α) : Prop :=
  ∀ bound blanks rest, text.length < bound → Blank blanks → Stops rest →
    read bound (blanks ++ (text ++ rest)) = some (a, rest)

theorem Reads.map (h : Reads read text a) (f : α → β) : Reads (read.map f) text (f a) := by
  intro bound blanks rest hbound hblanks hrest
  rw [Reader.map, h bound blanks rest hbound hblanks hrest, Option.map_some]

theorem Reads.via {value : Json} (h : Reads readValue text value) {f : Json → Option α}
    (hf : f value = some a) : Reads (.via f) text a := by
  intro bound blanks rest hbound hblanks hrest
  simp only [Reader.via, h bound blanks rest hbound hblanks hrest, hf, Option.bind_eq_bind,
    Option.bind_some]

theorem Reads.whole {text : String} (h : Reads read text.toList a) :
    Reader.whole read text = some a := by
  have all := h (2 * text.toList.length + 2) [] [] (by omega) blank_nil stops_nil
  rw [List.nil_append, List.append_nil] at all
  simp only [Reader.whole, all]
  rfl

theorem reads_string (text : String) : Reads readValue (quote text) (.string text) := by
  intro bound blanks rest hbound hblanks _
  obtain ⟨bound, rfl⟩ := Nat.exists_eq_succ_of_ne_zero (Nat.ne_zero_of_lt hbound)
  exact readValue_quote hblanks text

theorem reads_natural (n : Nat) (spacing : Spacing) :
    Reads readValue (render spacing (.natural n)) (.natural n) := by
  intro bound blanks rest hbound hblanks hrest
  obtain ⟨bound, rfl⟩ := Nat.exists_eq_succ_of_ne_zero (Nat.ne_zero_of_lt hbound)
  exact readValue_natural hblanks n hrest

theorem reads_bool (b : Bool) (spacing : Spacing) :
    Reads readValue (render spacing (.bool b)) (.bool b) := by
  intro bound blanks rest hbound hblanks _
  obtain ⟨bound, rfl⟩ := Nat.exists_eq_succ_of_ne_zero (Nat.ne_zero_of_lt hbound)
  exact readValue_bool hblanks b spacing

/-! ## How texts open -/

/-- The text starts like a value, and not with a blank or with what ends an item. -/
def Opens (text : List Char) : Prop :=
  ∃ c tail, text = c :: tail ∧ isBlank c = false ∧ c ≠ ']' ∧ c ≠ ','

theorem opens_of_isDigit {c : Char} (h : c.isDigit = true) (tail : List Char) :
    Opens (c :: tail) := by
  exact ⟨c, tail, rfl, isBlank_of_isDigit h, ne_of_isDigit h rfl, ne_of_isDigit h rfl⟩

theorem opens_render (spacing : Spacing) {value : Json} (h : ∀ literal, value ≠ .number literal) :
    Opens (render spacing value) := by
  cases value with
  | null => exact ⟨'n', _, rfl, by decide⟩
  | bool b => cases b <;> exact ⟨_, _, rfl, by decide⟩
  | natural n =>
      obtain ⟨c, digits, hdigits, hc⟩ := exists_toList_toString n
      rw [render, hdigits]
      exact opens_of_isDigit hc digits
  | number literal => exact absurd rfl (h literal)
  | string text => exact ⟨'"', _, rfl, by decide⟩
  | array items => cases items <;> exact ⟨'[', _, rfl, by decide⟩
  | object members =>
      cases members with
      | nil => exact ⟨'\x7b', _, rfl, by decide⟩
      | cons member members => exact ⟨'\x7b', _, rfl, by decide⟩
  | unreadable => exact ⟨'n', _, rfl, by decide⟩

theorem Opens.skipBlank {text : List Char} (h : Opens text) (rest : List Char) :
    Json.skipBlank (text ++ rest) = text ++ rest := by
  obtain ⟨c, tail, rfl, hc, -⟩ := h
  exact skipBlank_cons hc _

theorem Opens.next? {text blanks : List Char} (h : Opens text) (hblanks : Blank blanks)
    (rest : List Char) :
    Reader.next? true (blanks ++ (text ++ rest)) = some (.item (text ++ rest)) := by
  rw [Reader.next?, hblanks.skipBlank_append, h.skipBlank]
  obtain ⟨c, tail, rfl, -, hclose, hcomma⟩ := h
  rw [List.cons_append]
  split
  · next heq => exact absurd (List.cons.inj heq).1 hclose
  · next heq => exact absurd (List.cons.inj heq).1 hcomma
  · rfl

/-! ## Objects -/

section Objects

variable {σ : Type} {visit : String → σ → Reader σ} {spacing : Spacing}

theorem Spacing.colon_eq (spacing : Spacing) :
    ∃ gap, Blank gap ∧ spacing.colon = ':' :: gap := by
  cases spacing with
  | compact => exact ⟨[], blank_nil, rfl⟩
  | indented depth => exact ⟨[' '], by simp [Blank, isBlank], rfl⟩

theorem stops_renderMembers (spacing : Spacing) (members : List (String × Json)) {rest : List Char}
    (h : Stops rest) : Stops (renderMembers spacing members ++ rest) := by
  cases members with
  | nil => exact h
  | cons member members => exact stops_cons (by decide)

theorem render_object (spacing : Spacing) (members : List (String × Json)) :
    ∃ tail, render spacing (.object members) = '\x7b' :: tail := by
  cases members with
  | nil => exact ⟨_, rfl⟩
  | cons member members => exact ⟨_, rfl⟩

/-- The values of the members are read one after the other, each with what was found before. -/
def Reader.Visits (visit : String → σ → Reader σ) (spacing : Spacing) :
    σ → List (String × Json) → σ → Prop
  | found, [], last => found = last
  | found, (key, value) :: members, last =>
      ∃ next, Reads (visit key found) (render spacing value) next ∧
        Visits visit spacing next members last

/-- A member is read, and then what follows it. -/
theorem Reader.members_member {key : String} {found next : σ} {text : List Char}
    (hvalue : Reads (visit key found) text next) {bound : Nat} {blanks tail : List Char}
    (hbound : text.length < bound) (hblanks : Blank blanks) (htail : Stops tail)
    {result : Option (σ × List Char)}
    (hresult : (match skipBlank tail with
      | ',' :: rest => Reader.members visit bound next rest
      | '\x7d' :: rest => some (next, rest)
      | _ => none) = result) :
    Reader.members visit (bound + 1) found
        (blanks ++ (quote key ++ (spacing.colon ++ (text ++ tail)))) = result := by
  obtain ⟨gap, hgap, hcolon⟩ := spacing.colon_eq
  have hread := hvalue bound gap tail hbound hgap htail
  simp only [Reader.members, hblanks.skipBlank_append, quote_append, hcolon, List.cons_append,
    skipBlank_cons (c := '"') rfl, skipBlank_cons (c := ':') rfl, readString_quoted, hread]
  exact hresult

/-- A member is read, and all that follow it. -/
theorem Reader.members_visits {close : List Char} (hclose : Blank close) (rest : List Char)
    {key : String} {value : Json} {members : List (String × Json)} {found last : σ}
    (h : Visits visit spacing found ((key, value) :: members) last) {bound : Nat}
    {blanks : List Char}
    (hbound : (render spacing value).length + (renderMembers spacing members).length + 1 < bound)
    (hblanks : Blank blanks) :
    Reader.members visit bound found
        (blanks ++ (quote key ++ (spacing.colon ++ (render spacing value
          ++ (renderMembers spacing members ++ (close ++ '\x7d' :: rest)))))) =
      some (last, rest) := by
  obtain ⟨next, hvalue, h⟩ := h
  obtain ⟨bound, rfl⟩ := Nat.exists_eq_succ_of_ne_zero (Nat.ne_zero_of_lt hbound)
  induction members generalizing key value found next bound blanks with
  | nil =>
      cases h
      refine members_member hvalue (by omega) hblanks
        (stops_renderMembers _ _ (hclose.stops_append (stops_cons (by decide)))) ?_
      simp only [renderMembers, List.nil_append, hclose.skipBlank_append,
        skipBlank_cons (c := '\x7d') rfl]
  | cons member members ih =>
      obtain ⟨next', hvalue', h⟩ := h
      refine members_member hvalue (by omega) hblanks
        (stops_renderMembers _ _ (hclose.stops_append (stops_cons (by decide)))) ?_
      simp only [renderMembers, List.cons_append, List.append_assoc, List.length_cons,
        List.length_append, skipBlank_cons (c := ',') rfl] at hbound ⊢
      obtain ⟨bound, rfl⟩ := Nat.exists_eq_succ_of_ne_zero (n := bound) (by omega)
      exact ih (blank_lineBreak spacing) next' hvalue' h bound (by omega)

theorem Reader.Visits.object {members : List (String × Json)} {start last : σ}
    (h : Visits visit spacing.inner start members last) :
    Reads (Reader.object visit start) (render spacing (.object members)) last := by
  intro bound blanks rest hbound hblanks _
  rw [Reader.object, hblanks.skipBlank_append]
  cases members with
  | nil =>
      cases h
      rfl
  | cons member members =>
      simp only [render, List.length_cons, List.length_append] at hbound
      have hsize : (render spacing.inner member.2).length
          + (renderMembers spacing.inner members).length + 1 < bound := by omega
      have hread := members_visits (blank_lineBreak spacing) rest h hsize
        (blank_lineBreak spacing.inner)
      simp only [render, List.cons_append, List.append_assoc, List.nil_append,
        skipBlank_cons (c := '\x7b') rfl]
      split
      · next heq =>
          rw [(blank_lineBreak spacing.inner).skipBlank_append, quote_append,
            skipBlank_cons rfl] at heq
          cases heq
      · exact hread

end Objects

end Json

open Json

/-- What is written is read back, from the value and from its text. -/
class LawfulJsonForm (α : Type) [JsonForm α] : Prop where
  ofJson?_toJson : ∀ a : α, JsonForm.ofJson? (toJson a) = some a
  reads_toJson : ∀ (a : α) (spacing : Spacing), Reads JsonForm.read (render spacing (toJson a)) a
  /-- The text of a value never depends on a literal. -/
  toJson_ne_number : ∀ (a : α) (literal : String), toJson a ≠ .number literal

export LawfulJsonForm (ofJson?_toJson reads_toJson toJson_ne_number)

attribute [simp] LawfulJsonForm.ofJson?_toJson

/-! ## Truth values, texts, counts, addresses and amounts -/

instance : LawfulJsonForm Bool where
  ofJson?_toJson _ := rfl
  reads_toJson b spacing := (reads_bool b spacing).via rfl
  toJson_ne_number := nofun

instance : LawfulJsonForm String where
  ofJson?_toJson _ := rfl
  reads_toJson text _ := (reads_string text).via rfl
  toJson_ne_number := nofun

theorem Json.count?_natural (n : UInt64) : count? (.natural n.toNat) = some n := by
  rw [count?, if_pos n.toNat_lt_size, UInt64.ofNat_toNat]

instance : LawfulJsonForm UInt64 where
  ofJson?_toJson := count?_natural
  reads_toJson n spacing := (reads_natural n.toNat spacing).via (count?_natural n)
  toJson_ne_number := nofun

theorem Json.ByteArray.ofJson?_toText (a : Address) :
    ofJson? 20 (.string a.toText) = some a.toBytes := by
  simp only [ofJson?, Address.toText, Bytes.ofHex?_toText, Option.bind_eq_bind, Option.bind_some,
    if_pos a.length_toBytes]

theorem Json.ByteArray.reads_toText (a : Address) :
    Reads (ByteArray.read 20) (quote a.toText) a.toBytes := by
  intro bound blanks rest hbound hblanks hrest
  have value :=
    ((reads_string a.toText).via (ofJson?_toText a)) bound [] rest hbound blank_nil hrest
  rw [List.nil_append] at value
  rw [ByteArray.read, hblanks.skipBlank_append, quote_append, skipBlank_cons rfl, ← quote_append]
  split
  · next heq => cases heq
  · exact value

instance : LawfulJsonForm Address where
  ofJson?_toJson a := by
    rw [JsonForm.ofJson?, toJson]
    simp [instJsonFormAddress, ByteArray.ofJson?_toText, Address.ofBytes_toBytes]
  reads_toJson a _ := by
    have h := (ByteArray.reads_toText a).map Address.ofBytes
    rwa [Address.ofBytes_toBytes] at h
  toJson_ne_number := nofun

instance : LawfulJsonForm Amount where
  ofJson?_toJson := Amount.ofText?_toText
  reads_toJson a _ := (reads_string a.toText).via (Amount.ofText?_toText a)
  toJson_ne_number := nofun

/-! ## Names -/

theorem JsonForm.lawful_ofNames {α : Type} {all : List α} {name : α → String}
    (h : ∀ a, all.find? (name · = name a) = some a) :
    letI := JsonForm.ofNames all name
    LawfulJsonForm α :=
  letI := JsonForm.ofNames all name
  { ofJson?_toJson := h
    reads_toJson := fun a _ => (reads_string (name a)).via (h a)
    toJson_ne_number := nofun }

/-! ## Lists -/

section Lists

variable {α : Type} [JsonForm α] [LawfulJsonForm α]

theorem Json.ofJson?_items (items : List α) :
    (items.map toJson).mapM JsonForm.ofJson? = some items := by
  induction items with
  | nil => rfl
  | cons item items ih => simp [List.mapM_cons, ih]

theorem Json.stops_renderItems (spacing : Spacing) (items : List Json) {rest : List Char}
    (h : Stops rest) : Stops (renderItems spacing items ++ rest) := by
  cases items with
  | nil => exact h
  | cons item items => exact stops_cons (by decide)

/-- The items after the first are read one by one. -/
theorem Json.Reader.items_renderItems (spacing : Spacing) {close : List Char}
    (hclose : Blank close) (rest : List Char) (items : List α) {found : List α}
    (hfound : found ≠ []) {bound : Nat}
    (hbound : (renderItems spacing (items.map toJson)).length + 1 < bound) :
    Reader.items JsonForm.read bound found
        (renderItems spacing (items.map toJson) ++ (close ++ ']' :: rest)) =
      some (found.reverse ++ items, rest) := by
  have hfirst : found.isEmpty = false := List.isEmpty_eq_false_iff.mpr hfound
  induction items generalizing found bound with
  | nil =>
      obtain ⟨bound, rfl⟩ := Nat.exists_eq_succ_of_ne_zero (Nat.ne_zero_of_lt hbound)
      have hnext : next? false (close ++ ']' :: rest) = some (.close rest) := by
        rw [next?, hclose.skipBlank_append, skipBlank_cons rfl]
        rfl
      simp only [List.map_nil, renderItems, List.nil_append, items, hfirst, hnext, List.append_nil]
  | cons item items ih =>
      obtain ⟨bound, rfl⟩ := Nat.exists_eq_succ_of_ne_zero (Nat.ne_zero_of_lt hbound)
      have hnext (text : List Char) : next? false (',' :: text) = some (.item text) := rfl
      simp only [List.map_cons, renderItems, List.length_cons, List.length_append] at hbound
      have hitem := reads_toJson item spacing bound spacing.lineBreak
        (renderItems spacing (items.map toJson) ++ (close ++ ']' :: rest)) (by omega)
        (blank_lineBreak spacing)
        (stops_renderItems spacing _ (hclose.stops_append (stops_cons (by decide))))
      simp only [List.map_cons, renderItems, List.cons_append, List.append_assoc, Reader.items,
        hfirst, hnext, hitem]
      rw [ih (List.cons_ne_nil item found) (by omega) rfl, List.reverse_cons, List.append_assoc,
        List.singleton_append]

instance : LawfulJsonForm (List α) where
  ofJson?_toJson := ofJson?_items
  toJson_ne_number := nofun
  reads_toJson items spacing := by
    intro bound blanks rest hbound hblanks hrest
    have hopen (text : List Char) :
        JsonForm.read (α := List α) bound (blanks ++ '[' :: text) =
          Reader.items JsonForm.read bound [] text := by
      change Reader.list JsonForm.read bound _ = _
      rw [Reader.list, hblanks.skipBlank_append, skipBlank_cons rfl]
      rfl
    obtain ⟨bound, rfl⟩ := Nat.exists_eq_succ_of_ne_zero (Nat.ne_zero_of_lt hbound)
    cases items with
    | nil => exact hopen (']' :: rest)
    | cons item items =>
        simp only [toJson, List.map_cons, render, List.length_cons, List.length_append,
          List.length_nil] at hbound
        have hitem := reads_toJson item spacing.inner bound []
          (renderItems spacing.inner (items.map toJson) ++ (spacing.lineBreak ++ ']' :: rest))
          (by omega) blank_nil
          (stops_renderItems _ _ ((blank_lineBreak spacing).stops_append (stops_cons (by decide))))
        have hnext := (opens_render spacing.inner (toJson_ne_number item)).next?
          (blank_lineBreak spacing.inner)
          (renderItems spacing.inner (items.map toJson) ++ (spacing.lineBreak ++ ']' :: rest))
        rw [List.nil_append] at hitem
        have hsize : (renderItems spacing.inner (items.map toJson)).length + 1 < bound := by omega
        have hrest := Reader.items_renderItems spacing.inner (blank_lineBreak spacing) rest items
          (List.cons_ne_nil item []) hsize
        simp only [toJson, List.map_cons, render, List.cons_append, List.append_assoc,
          List.nil_append, hopen]
        simp only [Reader.items, List.isEmpty_nil]
        rw [hnext]
        simp only [hitem, hrest]
        rfl

end Lists

/-! ## Counts that may be missing -/

instance : LawfulJsonForm (Option UInt64) where
  toJson_ne_number n := by cases n <;> nofun
  ofJson?_toJson n := by
    cases n with
    | none => rfl
    | some n => exact congrArg (Option.map some) (count?_natural n)
  reads_toJson n spacing := by
    intro bound blanks rest hbound hblanks hrest
    change Reader.optional JsonForm.read bound _ = _
    rw [Reader.optional, hblanks.skipBlank_append]
    cases n with
    | none => rfl
    | some n =>
        have hcount := (reads_toJson n spacing).map some bound [] rest hbound blank_nil hrest
        obtain ⟨c, digits, hdigits, hc⟩ := exists_toList_toString n.toNat
        simp only [toJson, render, hdigits, List.nil_append, List.cons_append] at hcount ⊢
        rw [skipBlank_cons (isBlank_of_isDigit hc)]
        split
        · next heq => exact absurd (List.cons.inj heq).1 (ne_of_isDigit hc rfl)
        · exact hcount

end StakeSnapshot
