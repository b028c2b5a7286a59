import StakeSnapshot.Proofs.Task.Trails

/-!
# Changed answers

Some questions are answered otherwise after a `Change`. What becomes of a task that has had a value
before can be told from the record that it has left (`Task.Feels`): it has the same value if the
record shows no affected question, and otherwise it fails, in a way for which one of the affected
questions is the cause. This goes from the parts of a task to the whole, so it is shown function by
function.
-/

namespace StakeSnapshot

variable {Q : Type → Type} {σ α β ν : Type}

/-- What the surroundings may reply before and after some of their answers have changed. -/
structure Change (Q : Type → Type) (ν : Type) where
  before : Replies Q
  after : Replies Q
  /-- What is recorded of a question. -/
  note : {α : Type} → Q α → Option ν
  /-- The records of the questions that are answered otherwise. -/
  affects : ν → Prop
  /-- Where permits were given out, none is refused. -/
  permits : before.grants → ∀ e, ¬ after.refusal e

/-- Before the change, the task may have had the value `v` and left the record `l`. -/
abbrev Change.Had (change : Change Q ν) (t : Task Q α) (v : α) (l : List ν) : Prop :=
  t.Leaves change.before change.note (fun _ _ => none) (some (.ok v)) l

/-- The task leaves only records with the property `known`. After the change it has the same value
as before if none of these is affected, and else it fails, with a failure of which one of the
affected ones is a `cause`. -/
structure Task.Feels (change : Change Q ν) (known : ν → Prop) (cause : ν → Failure → Prop)
    (t : Task Q α) : Prop where
  noted {v : α} {l : List ν} : change.Had t v l → ∀ n ∈ l, known n
  spared {v : α} {l : List ν} {o : Outcome α} : change.Had t v l → (∀ n ∈ l, ¬ change.affects n) →
    t.MayEnd change.after o → o = .ok v
  fails {v : α} {l : List ν} {o : Outcome α} : change.Had t v l → (∃ n ∈ l, change.affects n) →
    t.MayEnd change.after o → ∃ e, o = .error e ∧ ∃ n ∈ l, change.affects n ∧ cause n e

namespace Task

variable {change : Change Q ν} {known : ν → Prop} {cause cause' : ν → Failure → Prop}

theorem Feels.done (r : Outcome α) : (Task.done r : Task Q α).Feels change known cause where
  noted := by
    rintro v l ⟨-, rfl⟩ n hn
    cases hn
  spared := by
    rintro v l o ⟨hr, -⟩ - rfl
    exact (Option.some.inj hr).symm
  fails := by
    rintro v l o ⟨-, rfl⟩ ⟨n, hn, -⟩
    cases hn

/-- A question that is recorded. -/
theorem Feels.ask {q : Q α} {n : ν} (hnote : change.note q = some n) (hknown : known n)
    (hspared : ¬ change.affects n → ∀ v o, change.before.answer q (.ok v) →
      change.after.answer q o → o = .ok v)
    (hfails : change.affects n → ∀ v o, change.before.answer q (.ok v) →
      change.after.answer q o → ∃ e, o = .error e ∧ cause n e) :
    (Task.ask q).Feels change known cause := by
  have record {v : α} {l : List ν} (hv : change.Had (.ask q) v l) :
      change.before.answer q (.ok v) ∧ l = [n] := by
    refine ⟨hv.1, hv.2.trans ?_⟩
    show (change.note q).toList ++ [] = [n]
    rw [hnote]
    rfl
  refine ⟨fun {v l} hv m hm => ?_, fun {v l o} hv hl ho => ?_, fun {v l o} hv hl ho => ?_⟩
  · obtain ⟨-, rfl⟩ := record hv
    rwa [List.mem_singleton.mp hm]
  · obtain ⟨hanswer, rfl⟩ := record hv
    exact hspared (hl n (List.mem_singleton_self n)) v o hanswer ho
  · obtain ⟨hanswer, rfl⟩ := record hv
    obtain ⟨m, hm, haffects⟩ := hl
    obtain rfl := List.mem_singleton.mp hm
    obtain ⟨e, rfl, hcause⟩ := hfails haffects v o hanswer ho
    exact ⟨e, rfl, m, hm, haffects, hcause⟩

/-- A task of which nothing is recorded, and that has the same value after the change. -/
theorem Feels.unrecorded {t : Task Q α}
    (hasks : t.Asks change.before fun q => change.note q = none)
    (h : ∀ v o, t.MayEnd change.before (.ok v) → t.MayEnd change.after o → o = .ok v) :
    t.Feels change known cause := by
  have nothing {v : α} {l : List ν} (hv : change.Had t v l) : ∀ n ∈ l, False :=
    Leaves.recorded (fun q n hq hn => by cases hq.symm.trans hn) hasks hv
  exact {
    noted := fun hv n hn => (nothing hv n hn).elim
    spared := fun hv _ ho => h _ _ hv.mayEnd ho
    fails := fun hv ⟨n, hn, _⟩ => (nothing hv n hn).elim }

/-- A task that goes on after a value only, and may change the failure before that. -/
theorem Feels.andThen {t : Task Q α} {next : Outcome α → Task Q β}
    (ht : t.Feels change known cause) (hnext : ∀ a, (next (.ok a)).Feels change known cause')
    (herror : ∀ e, ∃ e', next (.error e) = .done (.error e') ∧ ∀ n, cause n e → cause' n e') :
    (Task.andThen t next).Feels change known cause' := by
  have parts {v : β} {l : List ν} (hv : change.Had (.andThen t next) v l) :
      ∃ a l₁ l₂, l = l₁ ++ l₂ ∧ change.Had t a l₁ ∧ change.Had (next (.ok a)) v l₂ := by
    rcases hv with ⟨hv, -⟩ | ⟨e | a, l₁, l₂, hl, hr, hv⟩
    · cases hv
    · obtain ⟨e', he', -⟩ := herror e
      rw [he'] at hv
      cases hv.1
    · exact ⟨a, l₁, l₂, hl, hr, hv⟩
  refine ⟨fun {v l} hv n hn => ?_, fun {v l o} hv hl ho => ?_, fun {v l o} hv hl ho => ?_⟩
  · obtain ⟨a, l₁, l₂, rfl, hfirst, hrest⟩ := parts hv
    rcases List.mem_append.mp hn with hn | hn
    · exact ht.noted hfirst n hn
    · exact (hnext a).noted hrest n hn
  · obtain ⟨a, l₁, l₂, rfl, hfirst, hrest⟩ := parts hv
    rw [List.forall_mem_append] at hl
    obtain ⟨r, hr, ho⟩ := ho
    obtain rfl := ht.spared hfirst hl.1 hr
    exact (hnext a).spared hrest hl.2 ho
  · obtain ⟨a, l₁, l₂, rfl, hfirst, hrest⟩ := parts hv
    obtain ⟨r, hr, ho⟩ := ho
    by_cases haffected : ∃ n ∈ l₁, change.affects n
    · obtain ⟨e, rfl, n, hn, haffects, hcause⟩ := ht.fails hfirst haffected hr
      obtain ⟨e', he', himp⟩ := herror e
      rw [he'] at ho
      exact ⟨e', ho, n, List.mem_append_left _ hn, haffects, himp n hcause⟩
    · -- The first part has its value, so it is the rest that shows the change.
      obtain rfl := ht.spared hfirst (fun n hn h => haffected ⟨n, hn, h⟩) hr
      have later : ∃ n ∈ l₂, change.affects n := by
        obtain ⟨n, hn, h⟩ := hl
        exact (List.mem_append.mp hn).elim (fun hn => (haffected ⟨n, hn, h⟩).elim)
          fun hn => ⟨n, hn, h⟩
      obtain ⟨e, rfl, n, hn, h⟩ := (hnext a).fails hrest later ho
      exact ⟨e, rfl, n, List.mem_append_right _ hn, h⟩

theorem Feels.bind {t : Task Q α} {f : α → Task Q β} (ht : t.Feels change known cause)
    (hf : ∀ a, (f a).Feels change known cause) : (t >>= f).Feels change known cause :=
  ht.andThen hf fun e => ⟨e, rfl, fun _ h => h⟩

theorem Feels.map {t : Task Q α} (ht : t.Feels change known cause) (f : α → β) :
    (f <$> t).Feels change known cause :=
  ht.bind fun _ => .done _

theorem Feels.mapError {t : Task Q α} (ht : t.Feels change known cause) {f : Error → Error}
    (hf : ∀ n e, cause n e → cause' n (e.mapError f)) :
    (t.mapError f).Feels change known cause' :=
  ht.andThen (fun _ => .done _) fun e => ⟨e.mapError f, rfl, fun n => hf n e⟩

theorem Feels.both {t : Task Q α} {u : Task Q β} (ht : t.Feels change known cause)
    (hu : u.Feels change known cause) : (Task.both t u).Feels change known cause := by
  have parts {v : α × β} {l : List ν} (hv : change.Had (.both t u) v l) :
      ∃ l₁ l₂, (∀ n, n ∈ l ↔ n ∈ l₁ ∨ n ∈ l₂) ∧ change.Had t v.1 l₁ ∧ change.Had u v.2 l₂ := by
    rcases hv with ⟨r, r', l₁, l₂, hperm, hr, hr', joined⟩ | ⟨e, he, -⟩
    · cases joined with
      | ends a b => exact ⟨l₁, l₂, fun n => hperm.mem_iff.trans List.mem_append, hr, hr'⟩
    · cases he
  refine ⟨fun {v l} hv n hn => ?_, fun {v l o} hv hl ho => ?_, fun {v l o} hv hl ho => ?_⟩
  · obtain ⟨l₁, l₂, hmem, hleft, hright⟩ := parts hv
    exact ((hmem n).mp hn).elim (ht.noted hleft n) (hu.noted hright n)
  · obtain ⟨l₁, l₂, hmem, hleft, hright⟩ := parts hv
    have spared {o : Outcome α} (ho : t.MayEnd change.after o) : o = .ok v.1 :=
      ht.spared hleft (fun n hn => hl n ((hmem n).mpr (.inl hn))) ho
    have spared' {o : Outcome β} (ho : u.MayEnd change.after o) : o = .ok v.2 :=
      hu.spared hright (fun n hn => hl n ((hmem n).mpr (.inr hn))) ho
    cases o with
    | ok w =>
        have left := Except.ok.inj (spared ho.1)
        have right := Except.ok.inj (spared' ho.2)
        exact congrArg Except.ok (Prod.ext left right)
    | error e =>
        rcases ho with ho | ho
        · cases spared ho
        · cases spared' ho
  · obtain ⟨l₁, l₂, hmem, hleft, hright⟩ := parts hv
    -- A part that fails has an affected record of its own.
    have left {e : Failure} (he : t.MayEnd change.after (.error e)) :
        ∃ n ∈ l, change.affects n ∧ cause n e := by
      by_cases haffected : ∃ n ∈ l₁, change.affects n
      · obtain ⟨e', he', n, hn, h⟩ := ht.fails hleft haffected he
        cases he'
        exact ⟨n, (hmem n).mpr (.inl hn), h⟩
      · cases ht.spared hleft (fun n hn h => haffected ⟨n, hn, h⟩) he
    have right {e : Failure} (he : u.MayEnd change.after (.error e)) :
        ∃ n ∈ l, change.affects n ∧ cause n e := by
      by_cases haffected : ∃ n ∈ l₂, change.affects n
      · obtain ⟨e', he', n, hn, h⟩ := hu.fails hright haffected he
        cases he'
        exact ⟨n, (hmem n).mpr (.inr hn), h⟩
      · cases hu.spared hright (fun n hn h => haffected ⟨n, hn, h⟩) he
    cases o with
    | error e => exact ⟨e, rfl, ho.elim left right⟩
    | ok w =>
        obtain ⟨n, hn, h⟩ := hl
        rcases (hmem n).mp hn with hn | hn
        · obtain ⟨_, he, -⟩ := ht.fails hleft ⟨n, hn, h⟩ ho.1
          cases he
        · obtain ⟨_, he, -⟩ := hu.fails hright ⟨n, hn, h⟩ ho.2
          cases he

theorem Feels.all {ts : List (Task Q α)} (hts : ∀ t ∈ ts, t.Feels change known cause) :
    (Task.all ts).Feels change known cause := by
  induction ts with
  | nil => exact .done _
  | cons t ts ih =>
      rw [List.forall_mem_cons] at hts
      exact (hts.1.both (ih hts.2)).map _

theorem Feels.permitted {t : Task Q α} (ht : t.Feels change known cause) :
    (Task.permitted t).Feels change known cause := by
  have body {v : α} {l : List ν} (hv : change.Had (.permitted t) v l) :
      change.before.grants ∧ change.Had t v l := by
    rcases hv with ⟨grants, hv | ⟨hv, -⟩⟩ | ⟨e, -, he, -⟩
    · exact ⟨grants, hv⟩
    · cases hv
    · cases he
  refine ⟨fun hv => ht.noted (body hv).2, fun hv hl ho => ?_, fun hv hl ho => ?_⟩
  · obtain ⟨grants, hv⟩ := body hv
    rcases ho with ⟨-, ho⟩ | ⟨e, he, -⟩
    · exact ht.spared hv hl ho
    · exact (change.permits grants e he).elim
  · obtain ⟨grants, hv⟩ := body hv
    rcases ho with ⟨-, ho⟩ | ⟨e, he, -⟩
    · exact ht.fails hv hl ho
    · exact (change.permits grants e he).elim

end Task

end StakeSnapshot
