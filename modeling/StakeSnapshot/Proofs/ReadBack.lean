import StakeSnapshot.Chain.Block
import StakeSnapshot.Contract.Registry
import StakeSnapshot.Proofs.Json.Records
import StakeSnapshot.Queue.Partition
import StakeSnapshot.Snapshot

/-!
# What is written can be read back

Every value that the tool writes is read back from its text, with or without blanks. So a text that
was read once can be written again: the value stays, and the new text stays from then on.
-/

namespace StakeSnapshot

open Json

/-! ## Names -/

instance : LawfulJsonForm ErrorKind :=
  JsonForm.lawful_ofNames fun kind => by cases kind <;> rfl

instance : LawfulJsonForm MinipoolStatus :=
  JsonForm.lawful_ofNames fun status => by cases status <;> rfl

instance : LawfulJsonForm DepositType :=
  JsonForm.lawful_ofNames fun deposit => by cases deposit <;> rfl

/-! ## Records -/

instance : LawfulRecordForm Error where

instance : LawfulRecordForm BeaconConfig where

instance : LawfulRecordForm BeaconHead where

instance : LawfulRecordForm BeaconBlock where

instance : LawfulRecordForm BlockHeader where

instance : LawfulRecordForm QueueLengths where

instance : LawfulRecordForm QueueCapacity where

instance : LawfulRecordForm QueueStatus where

instance : LawfulRecordForm Registry where
  copy_fields _ := by simp [RecordForm.copy, RecordForm.fields, Registry.set]

instance : LawfulRecordForm BonusEligibility where

instance : LawfulRecordForm Shares where

instance : LawfulRecordForm Minipool where

instance : LawfulRecordForm Node where

instance : LawfulRecordForm Snapshot where

/-! ## Texts -/

namespace Json

section Rewriting

variable (α : Type) [JsonForm α]

/-- Reads a text and writes the value again. -/
def rewrite? (write : Json → String) (text : String) : Option String :=
  (parse? text : Option α).map fun a => write (toJson a)

/-- What is written of a type is read back, and does not change when it is written again. -/
structure ReadsBack : Prop where
  compact : ∀ a : α, parse? (toJson a).compact = some a
  pretty : ∀ a : α, parse? (toJson a).pretty = some a
  rewritten : ∀ write ∈ [Json.compact, Json.pretty], ∀ text new : String,
    rewrite? α write text = some new →
      (parse? new : Option α) = parse? text ∧ rewrite? α write new = some new

end Rewriting

variable {α : Type} [JsonForm α] [LawfulJsonForm α]

theorem parse?_ofList_render (a : α) (spacing : Spacing) :
    parse? (String.ofList (render spacing (toJson a))) = some a := by
  refine Reads.whole ?_
  rw [String.toList_ofList]
  exact reads_toJson a spacing

theorem readsBack : ReadsBack α where
  compact a := parse?_ofList_render a .compact
  pretty a := parse?_ofList_render a (.indented 0)
  rewritten := by
    intro write hwrite text new hnew
    obtain ⟨a, htext, rfl⟩ := Option.map_eq_some_iff.mp hnew
    have hback : parse? (write (toJson a)) = some a := by
      have hwrites : write = Json.compact ∨ write = Json.pretty := by simpa using hwrite
      rcases hwrites with rfl | rfl
      · exact parse?_ofList_render a .compact
      · exact parse?_ofList_render a (.indented 0)
    exact ⟨hback.trans htext.symm, by rw [rewrite?, hback, Option.map_some]⟩

end Json

/-- All that is written of snapshots, chains, queues, contracts and errors is read back, for each
value and in both spacings. -/
theorem written_values_readBack :
    ReadsBack Snapshot ∧ ReadsBack Node ∧ ReadsBack Minipool ∧ ReadsBack BonusEligibility ∧
      ReadsBack Shares ∧ ReadsBack BeaconConfig ∧ ReadsBack BeaconHead ∧ ReadsBack BeaconBlock ∧
      ReadsBack BlockHeader ∧ ReadsBack QueueLengths ∧ ReadsBack QueueCapacity ∧
      ReadsBack QueueStatus ∧ ReadsBack Registry ∧ ReadsBack Error :=
  ⟨readsBack, readsBack, readsBack, readsBack, readsBack, readsBack, readsBack, readsBack,
    readsBack, readsBack, readsBack, readsBack, readsBack, readsBack⟩

end StakeSnapshot
