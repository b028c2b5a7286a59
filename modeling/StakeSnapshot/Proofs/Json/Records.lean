import StakeSnapshot.Proofs.Json.Forms

/-!
# Records that are read back

A record is written field by field, and its members are read into a blank record one by one. The
form of the record is lawful if each field reads what it writes, the fields have different names,
and together they leave nothing of the record out (`LawfulRecordForm`).
-/

namespace StakeSnapshot

open Json

variable {ρ α : Type}

namespace FieldForm

/-- What the field puts into a record from the value is also what it reads from its text. -/
def Lawful (f : FieldForm ρ) : Prop :=
  ∀ r found next spacing, f.set? (f.write r) found = some next →
    Reads (f.read found) (render spacing (f.write r)) next

section Constructors

variable [JsonForm α] [LawfulJsonForm α] (name : String) (get : ρ → α) (set : α → ρ → ρ)

@[simp] theorem set?_required (r found : ρ) :
    (required name get set).set? ((required name get set).write r) found =
      some (set (get r) found) := by
  simp [required]

@[simp] theorem set?_mayMiss (r found : ρ) :
    (mayMiss name get set).set? ((mayMiss name get set).write r) found =
      some (set (get r) found) :=
  set?_required name get set r found

@[simp] theorem lawful_required : (required name get set).Lawful := by
  intro r found next spacing h
  rw [set?_required] at h
  cases h
  exact (reads_toJson (get r) spacing).map (set · found)

@[simp] theorem lawful_mayMiss : (mayMiss name get set).Lawful := lawful_required name get set

end Constructors

end FieldForm

namespace RecordForm

/-- Puts the fields of one record into another. -/
def copy (fields : List (FieldForm ρ)) (r found : ρ) : Option ρ :=
  fields.foldlM (fun found f => f.set? (f.write r) found) found

theorem copy_cons (f : FieldForm ρ) (fields : List (FieldForm ρ)) (r found : ρ) :
    copy (f :: fields) r found = (f.set? (f.write r) found).bind (copy fields r) := rfl

end RecordForm

/-- The fields of a record make up all of it, and each can be told from the others. For a list of
fields that is written out, each law is found by evaluation. -/
class LawfulRecordForm (ρ : Type) [RecordForm ρ] : Prop where
  nodup_names : ((RecordForm.fields : List (FieldForm ρ)).map (·.name)).Nodup := by decide +kernel
  lawful : ∀ f ∈ (RecordForm.fields : List (FieldForm ρ)), f.Lawful := by simp [RecordForm.fields]
  copy_fields : ∀ r : ρ, RecordForm.copy RecordForm.fields r RecordForm.blank = some r := by
    simp [RecordForm.copy, RecordForm.fields]

namespace RecordForm

/-- The names of the fields that were read, the last one first. -/
def seen (read : List (FieldForm ρ)) : List String := (read.map (·.name)).reverse

theorem seen_concat (read : List (FieldForm ρ)) (f : FieldForm ρ) :
    seen (read ++ [f]) = f.name :: seen read := by
  simp [seen]

/-- The member of an object in which a field of a record is written. -/
def member (r : ρ) (f : FieldForm ρ) : String × Json := (f.name, f.write r)

variable [RecordForm ρ] [LawfulRecordForm ρ] {before after : List (FieldForm ρ)} {f : FieldForm ρ}

theorem find?_field (h : (fields : List (FieldForm ρ)) = before ++ f :: after) :
    (fields : List (FieldForm ρ)).find? (·.name = f.name) = some f := by
  have hnodup := LawfulRecordForm.nodup_names (ρ := ρ)
  rw [h, List.map_append, List.nodup_append] at hnodup
  have hbefore : before.find? (·.name = f.name) = none := by
    refine List.find?_eq_none.mpr fun g hg => ?_
    simpa using hnodup.2.2 g.name (List.mem_map_of_mem hg) f.name (by simp)
  simp [h, List.find?_append, hbefore]

theorem not_mem_seen (h : (fields : List (FieldForm ρ)) = before ++ f :: after) :
    f.name ∉ seen before := by
  have hnodup := LawfulRecordForm.nodup_names (ρ := ρ)
  rw [h, List.map_append, List.nodup_append] at hnodup
  rw [seen, List.mem_reverse]
  exact fun hmem => hnodup.2.2 _ hmem f.name (by simp) rfl

omit [LawfulRecordForm ρ] in
theorem isComplete_fields : isComplete (ρ := ρ) (seen (fields : List (FieldForm ρ))) = true := by
  refine List.all_eq_true.mpr fun f hf => ?_
  have hmem : f.name ∈ seen (fields : List (FieldForm ρ)) := by simpa [seen] using ⟨f, hf, rfl⟩
  simp [hmem]

/-! ### From a value -/

/-- The members after those that were read are put into the record in turn. -/
theorem foldlM_addMember (r : ρ) {found last : ρ}
    (h : (fields : List (FieldForm ρ)) = before ++ after) (hcopy : copy after r found = some last) :
    (after.map (member r)).foldlM addMember (found, seen before) =
      some (last, seen (fields : List (FieldForm ρ))) := by
  induction after generalizing before found with
  | nil =>
      cases hcopy
      rw [h, List.append_nil]
      rfl
  | cons f after ih =>
      rw [copy_cons] at hcopy
      obtain ⟨next, hnext, hcopy⟩ := Option.bind_eq_some_iff.mp hcopy
      have hadd : addMember (found, seen before) (f.name, f.write r) =
          some (next, seen (before ++ [f])) := by
        simp [addMember, find?_field h, not_mem_seen h, hnext, seen_concat]
      rw [List.map_cons, List.foldlM_cons, member, hadd]
      exact ih (by simp [h]) hcopy

theorem ofJson?_members (r : ρ) : ofJson? (.object (members r)) = some r := by
  have hfold := foldlM_addMember r (List.nil_append (fields : List (FieldForm ρ))).symm
    (LawfulRecordForm.copy_fields r)
  change ((fields.map (member r)).foldlM addMember
    (blank, seen ([] : List (FieldForm ρ)))).bind _ = _
  rw [hfold, Option.bind_some]
  exact if_pos isComplete_fields

/-! ### From a text -/

/-- A field is read behind its key. -/
theorem readMember_field (r : ρ) {found next : ρ}
    (h : (fields : List (FieldForm ρ)) = before ++ f :: after)
    (hnext : f.set? (f.write r) found = some next) (spacing : Spacing) :
    Reads (readMember f.name (found, seen before)) (render spacing (f.write r))
      (next, seen (before ++ [f])) := by
  have hf : f.Lawful := LawfulRecordForm.lawful f (by simp [h])
  have hread := (hf r found next spacing hnext).map (·, f.name :: seen before)
  rw [seen_concat]
  simpa [readMember, find?_field h, not_mem_seen h] using hread

/-- The members after those that were read are read into the record in turn. -/
theorem visits_fields (r : ρ) (spacing : Spacing) {found last : ρ}
    (h : (fields : List (FieldForm ρ)) = before ++ after) (hcopy : copy after r found = some last) :
    Reader.Visits readMember spacing (found, seen before) (after.map (member r))
      (last, seen (fields : List (FieldForm ρ))) := by
  induction after generalizing before found with
  | nil =>
      cases hcopy
      rw [h, List.append_nil]
      rfl
  | cons f after ih =>
      rw [copy_cons] at hcopy
      obtain ⟨next, hnext, hcopy⟩ := Option.bind_eq_some_iff.mp hcopy
      exact ⟨_, readMember_field r h hnext spacing, ih (by simp [h]) hcopy⟩

theorem reads_members (r : ρ) (spacing : Spacing) :
    Reads read (render spacing (.object (members r))) r := by
  intro bound blanks rest hbound hblanks hrest
  have hvisits := visits_fields r spacing.inner
    (List.nil_append (fields : List (FieldForm ρ))).symm (LawfulRecordForm.copy_fields r)
  have hobject := hvisits.object bound [] rest hbound blank_nil hrest
  obtain ⟨tail, htail⟩ := render_object spacing (members r)
  change Reader.object readMember (blank, []) bound
    ([] ++ (render spacing (.object (members r)) ++ rest)) = _ at hobject
  rw [htail, List.nil_append, List.cons_append] at hobject
  rw [read, hblanks.skipBlank_append, htail, List.cons_append, skipBlank_cons rfl]
  split
  · next heq => cases heq
  · rw [hobject]
    exact if_pos isComplete_fields

instance : LawfulJsonForm ρ where
  ofJson?_toJson := ofJson?_members
  reads_toJson := reads_members
  toJson_ne_number := nofun

end RecordForm

end StakeSnapshot
