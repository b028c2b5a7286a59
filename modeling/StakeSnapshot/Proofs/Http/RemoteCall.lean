import StakeSnapshot.Http.ExecutionApi
import StakeSnapshot.Proofs.Json.Records
import StakeSnapshot.Proofs.Text.Utf8

/-!
# Remote calls and their replies

What is posted for a call is found in it by a server (`RemoteCall.ofJson?_toJson`), and what a
server replies is found by the caller: a result is read by the reader of its type, and an error is
an error (`RemoteCall.readResult_ofResult`, `RemoteCall.readResult_ofError`).
-/

namespace StakeSnapshot

open Json

namespace Http

theorem Reply.read?_ofJson {α : Type} {read : Reader α} {value : Json} {a : α}
    (h : Reads read (render .compact value) a) :
    (Reply.ofJson 200 value).read? read = some a := by
  have hcontent : (Reply.ofJson 200 value).content = Bytes.ofString value.compact := rfl
  have hwhole : read.whole value.compact = some a := by
    refine Reads.whole ?_
    rwa [Json.compact, String.toList_ofList]
  rw [Reply.read?, hcontent, Utf8.fromUTF8?_ofString]
  exact hwhole

/-- A value is passed on with the text that it was written as. -/
theorem reads_raw {value value' : Json} {spacing : Spacing}
    (hopens : ∀ literal, value ≠ .number literal)
    (h : Reads readValue (render spacing value) value') :
    Reads .raw (render spacing value) (String.ofList (render spacing value)) := by
  intro bound blanks rest hbound hblanks hrest
  have hread := h bound [] rest hbound blank_nil hrest
  rw [List.nil_append] at hread
  have htake : (render spacing value ++ rest).take
      ((render spacing value ++ rest).length - rest.length) = render spacing value := by
    rw [List.length_append, Nat.add_sub_cancel, List.take_left' rfl]
  simp only [Reader.raw, hblanks.skipBlank_append, (opens_render spacing hopens).skipBlank, hread,
    htake, Option.bind_eq_bind, Option.bind_some]

namespace RemoteAnswer

theorem reads_version (d : Draft) :
    Reads (readMember "jsonrpc" d) (render .compact (.string "2.0")) d := by
  have hskip : readMember "jsonrpc" d = .skip d := by simp [readMember]
  rw [hskip]
  exact (reads_string "2.0").via rfl

theorem reads_id (result : Option String) (error : Option RemoteError) :
    Reads (readMember "id" ⟨none, result, error⟩) (render .compact (.natural 0))
      ⟨some (), result, error⟩ := by
  have hid : readMember "id" ⟨none, result, error⟩ =
      (Reader.via id?).map fun id => ⟨some id, result, error⟩ := by simp [readMember, Reader.once]
  have hnumber : id? (.natural 0) = some () := rfl
  rw [hid]
  exact ((reads_natural 0 .compact).via hnumber).map _

/-- An answer is read by its last member, which is a result or an error. -/
theorem reads_toJson {member : String × Json} {last : Draft} {answer : RemoteAnswer}
    (hmember : Reads (readMember member.1 ⟨some (), none, none⟩) (render .compact member.2) last)
    (hlast : ∀ rest : List Char,
      (match last.result, last.error with
        | some result, none => some (Except.ok result, rest)
        | none, some e => some (.error e, rest)
        | _, _ => none) = some (answer, rest)) :
    Reads readOne (render .compact (toJson member)) (some answer) := by
  intro bound blanks rest hbound hblanks hrest
  have hvisits : Reader.Visits readMember Spacing.compact.inner ⟨none, none, none⟩
      [("jsonrpc", .string "2.0"), ("id", .natural 0), member] last :=
    ⟨_, reads_version _, _, reads_id none none, _, hmember, rfl⟩
  have hreads : Reads (Reader.object readMember ⟨none, none, none⟩) (render .compact
      (.object [("jsonrpc", .string "2.0"), ("id", .natural 0), member])) last := hvisits.object
  have hobject := hreads bound [] rest hbound blank_nil hrest
  obtain ⟨tail, htail⟩ := render_object .compact
    [("jsonrpc", .string "2.0"), ("id", .natural 0), member]
  rw [htail, List.nil_append, List.cons_append] at hobject
  rw [readOne, hblanks.skipBlank_append, toJson, htail, List.cons_append, skipBlank_cons rfl]
  split
  · next heq => cases heq
  · rw [Reader.map, RemoteAnswer.read, hobject]
    exact congrArg (Option.map _) (hlast rest)

theorem reads_ofResult {value value' : Json} (hopens : ∀ literal, value ≠ .number literal)
    (h : Reads readValue (render .compact value) value') :
    Reads readOne (render .compact (ofResult value))
      (some (.ok (String.ofList (render .compact value)))) := by
  have hresult : readMember "result" ⟨some (), none, none⟩ =
      Reader.raw.map fun result => ⟨some (), some result, none⟩ := by
    simp [readMember, Reader.once]
  have hmember : Reads (readMember "result" ⟨some (), none, none⟩) (render .compact value)
      ⟨some (), some (String.ofList (render .compact value)), none⟩ := by
    rw [hresult]
    exact (reads_raw hopens h).map fun result => (⟨some (), some result, none⟩ : Draft)
  exact reads_toJson hmember fun _ => rfl

theorem reads_ofError {code : Nat} (hcode : (code : Int) ≤ RemoteError.largestCode)
    (message : String) :
    Reads readOne (render .compact (ofError code message))
      (some (.error ⟨code, message, none⟩)) := by
  have herror : readMember "error" ⟨some (), none, none⟩ =
      RemoteError.read.map fun e => ⟨some (), none, some e⟩ := by
    simp [readMember, Reader.once]
  have hread : Reads RemoteError.read
      (render .compact (.object [("code", .natural code), ("message", .string message)]))
      ⟨code, message, none⟩ := by
    have hcodeMember : RemoteError.readMember "code" ⟨none, none, none⟩ =
        (Reader.via RemoteError.code?).map fun code => ⟨some code, none, none⟩ := by
      simp [RemoteError.readMember, Reader.once]
    have hmessageMember : RemoteError.readMember "message" ⟨some code, none, none⟩ =
        JsonForm.read.map fun message => ⟨some code, some message, none⟩ := by
      simp [RemoteError.readMember, Reader.once]
    have hnumber : RemoteError.code? (.natural code) = some code := if_pos hcode
    have hvisits : Reader.Visits RemoteError.readMember Spacing.compact.inner ⟨none, none, none⟩
        [("code", .natural code), ("message", .string message)]
        ⟨some code, some message, none⟩ := by
      refine ⟨⟨some code, none, none⟩, ?_, ⟨some code, some message, none⟩, ?_, rfl⟩
      · rw [hcodeMember]
        exact ((reads_natural code _).via hnumber).map _
      · rw [hmessageMember]
        exact (LawfulJsonForm.reads_toJson message Spacing.compact).map _
    have hreads : Reads (Reader.object RemoteError.readMember ⟨none, none, none⟩)
        (render .compact (.object [("code", .natural code), ("message", .string message)]))
        ⟨some code, some message, none⟩ := hvisits.object
    intro bound blanks rest hbound hblanks hrest
    rw [RemoteError.read, hreads bound blanks rest hbound hblanks hrest]
    rfl
  have hmember := hread.map fun e => (⟨some (), none, some e⟩ : Draft)
  rw [← herror] at hmember
  exact reads_toJson hmember fun _ => rfl

end RemoteAnswer

namespace RemoteCall

/-- The call is found in what is posted for it. -/
theorem ofJson?_toJson (c : RemoteCall) : ofJson? c.toJson = some c := by
  simp [ofJson?, toJson, Json.member?]

/-- A result is read by the reader of its type. -/
theorem readResult_ofResult {α : Type} {read : Reader α} {value value' : Json} {a : α}
    (hopens : ∀ literal, value ≠ .number literal)
    (hvalue : Reads readValue (render .compact value) value')
    (h : Reads read (render .compact value) a) :
    readResult read (some (.ofJson 200 (RemoteAnswer.ofResult value))) = .ok a := by
  have hreply : readReply (some (.ofJson 200 (RemoteAnswer.ofResult value))) =
      .ok (String.ofList (render .compact value)) := by
    have hread := Reply.read?_ofJson (RemoteAnswer.reads_ofResult hopens hvalue)
    simp only [readReply, hread]
    rfl
  have hwhole : read.whole (String.ofList (render .compact value)) = some a := by
    refine Reads.whole ?_
    rwa [String.toList_ofList]
  rw [readResult, hreply]
  simp only [bind, Except.bind, hwhole]

/-- An error is no result of any type. -/
theorem readResult_ofError {α : Type} (read : Reader α) {code : Nat}
    (hcode : (code : Int) ≤ RemoteError.largestCode) (message : String) :
    readResult read (some (.ofJson 200 (RemoteAnswer.ofError code message))) =
      .error (.rejected ⟨code, message, none⟩) := by
  have hreply : readReply (some (.ofJson 200 (RemoteAnswer.ofError code message))) =
      .error (.rejected ⟨code, message, none⟩) := by
    have hread := Reply.read?_ofJson (RemoteAnswer.reads_ofError hcode message)
    simp only [readReply, hread]
    rfl
  rw [readResult, hreply]
  rfl

end RemoteCall

namespace ExecutionApi

/-! ## Parameters -/

theorem quantity?_quantity (n : UInt64) : quantity? (quantity n) = some n := by
  have hn := n.toNat_lt
  have hword : n.toNat < 2 ^ 256 := Nat.lt_trans hn (by decide)
  have hamount : (JsonForm.ofJson? (quantity n) : Option Amount) =
      some (BitVec.ofNat 256 n.toNat) := Amount.ofText?_digitsIn hword
  have hvalue : (BitVec.ofNat 256 n.toNat).toNat = n.toNat := by
    rw [BitVec.toNat_ofNat, Nat.mod_eq_of_lt hword]
  have hnumber : number? 64 (quantity n) = some n.toNat := by
    simp only [number?, hamount, Option.bind_eq_bind, Option.bind_some, hvalue]
    exact if_pos hn
  rw [quantity?, hnumber, Option.map_some, UInt64.ofNat_toNat]

/-- Bytes are read from their text. -/
theorem reads_bytes (bytes : Bytes) : Reads (.via bytes?) (quote bytes.toText) bytes :=
  (reads_string bytes.toText).via (Bytes.ofHex?_toText bytes)

end ExecutionApi

end Http

end StakeSnapshot
