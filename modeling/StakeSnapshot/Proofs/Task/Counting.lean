import StakeSnapshot.Proofs.Task.Noting

/-!
# How much a task asks

`Task.Notes note t n` says that `t` asks for `n` notes by the time it succeeds. The number is read
off the tree, and the notes of a run that succeeds, in order or in time, are as many
(`Task.Notes.length_eq`): a part that is dropped belongs to a task that fails.
-/

namespace StakeSnapshot

variable {Q : Type → Type} {σ α β ν : Type}

/-- The task asks for `n` notes by the time it succeeds, and it fails as soon as a part of it
does. -/
def Task.Notes (note : {α : Type} → Q α → Option ν) : {γ : Type} → Task Q γ → Nat → Prop
  | _, .done (.ok _), n => n = 0
  | _, .done (.error _), _ => True
  | _, .ask q, n => n = (note q).toList.length
  | _, .andThen t next, n =>
      ∃ k l, n = k + l ∧ Notes note t k ∧ (∀ a, Notes note (next (.ok a)) l) ∧
        ∀ e, ∃ e', next (.error e) = .done (.error e')
  | _, .both t u, n => ∃ k l, n = k + l ∧ Notes note t k ∧ Notes note u l
  | _, .permitted t, n => Notes note t n
  | _, .within _ _ t, n => Notes note t n

/-- The notes that a task under way still asks for before it succeeds. -/
def Running.Notes (note : {α : Type} → Q α → Option ν) : {γ : Type} → Running Q γ → Nat → Prop
  | _, .finished (.ok _), n => n = 0
  | _, .finished (.error _), _ => True
  | _, .asked _ _, n => n = 0
  | _, .andThen x next, n =>
      ∃ k l, n = k + l ∧ Notes note x k ∧ (∀ a, Task.Notes note (next (.ok a)) l) ∧
        ∀ e, ∃ e', next (.error e) = .done (.error e')
  | _, .both x y, n => ∃ k l, n = k + l ∧ Notes note x k ∧ Notes note y l
  | _, .queued _ t, n => Task.Notes note t n
  | _, .holding x, n => Notes note x n
  | _, .within _ _ x, n => Notes note x n

namespace Task

variable {note : {α : Type} → Q α → Option ν}

/-! ## The notes of composed tasks -/

theorem notes_pure (a : α) : (pure a : Task Q α).Notes note 0 := rfl

theorem notes_ofExcept (r : Except Error α) : (ofExcept r : Task Q α).Notes note 0 := by
  cases r with
  | ok a => rfl
  | error e => trivial

theorem Notes.permitted {t : Task Q α} {n : Nat} (ht : t.Notes note n) :
    (Task.permitted t).Notes note n := ht

theorem Notes.bind {t : Task Q α} {f : α → Task Q β} {k l : Nat} (ht : t.Notes note k)
    (hf : ∀ a, (f a).Notes note l) : (t >>= f).Notes note (k + l) :=
  ⟨k, l, rfl, ht, hf, fun e => ⟨e, rfl⟩⟩

theorem Notes.map {t : Task Q α} {n : Nat} (ht : t.Notes note n) (f : α → β) :
    (f <$> t).Notes note n :=
  ht.bind fun _ => notes_pure _

theorem Notes.mapError {t : Task Q α} {n : Nat} (ht : t.Notes note n) (f : Error → Error) :
    (t.mapError f).Notes note n :=
  ⟨n, 0, rfl, ht, fun _ => rfl, fun e => ⟨e.mapError f, rfl⟩⟩

/-- Tasks at once, each of which asks for as many notes. -/
theorem Notes.all {n : Nat} {ts : List (Task Q α)} (hts : ∀ t ∈ ts, t.Notes note n) :
    (Task.all ts).Notes note (n * ts.length) := by
  induction ts with
  | nil => rfl
  | cons t ts ih =>
      have hall := ih fun u hu => hts u (List.mem_cons_of_mem _ hu)
      have both : (Task.both t (Task.all ts)).Notes note (n * (ts.length + 1)) :=
        ⟨n, n * ts.length, by rw [Nat.mul_add_one, Nat.add_comm], hts t (List.mem_cons_self ..),
          hall⟩
      exact both.map _

/-! ## Runs in order -/

theorem run_notes (service : Service Q σ) : ∀ {γ : Type} (t : Task Q γ) {n : Nat}
    {s : σ × List ν} {v : γ}, t.Notes note n → (run (service.noting note) t s).1 = .ok v →
      (run (service.noting note) t s).2.2.length = s.2.length + n
  | _, .done (.ok _), n, s, v, hn, _ => by
      obtain rfl : n = 0 := hn
      rfl
  | _, .done (.error _), _, _, _, _, hv => by cases hv
  | _, .ask q, n, s, v, hn, _ => by
      obtain rfl : n = (note q).toList.length := hn
      exact List.length_append
  | _, .andThen t next, n, s, v, hn, hv => by
      obtain ⟨k, l, rfl, ht, hnext, hfail⟩ := hn
      rw [run_andThen] at hv ⊢
      -- Only a value of the first part leads on to a success of the whole.
      cases hr : (run (service.noting note) t s).1 with
      | error e =>
          obtain ⟨e', he'⟩ := hfail e
          rw [hr, he'] at hv
          cases hv
      | ok a =>
          have first := run_notes service t ht hr
          rw [hr] at hv
          have rest := run_notes service _ (hnext a) hv
          omega
  | _, .both t u, n, s, v, hn, hv => by
      obtain ⟨k, l, rfl, ht, hu⟩ := hn
      have left := fun a => run_notes service t (s := s) (v := a) ht
      simp only [run] at hv ⊢
      generalize run (service.noting note) t s = x at hv left ⊢
      obtain ⟨r, s₁⟩ := x
      cases r with
      | error e => cases hv
      | ok a =>
          have right := fun b => run_notes service u (s := s₁) (v := b) hu
          dsimp only at hv ⊢
          generalize run (service.noting note) u s₁ = x at hv right ⊢
          obtain ⟨r, s₂⟩ := x
          cases r with
          | error e => cases hv
          | ok b =>
              have hleft := left a rfl
              have hright := right b rfl
              dsimp only at hleft hright ⊢
              omega
  | _, .permitted t, n, s, v, hn, hv => by
      have ht : t.Notes note n := hn
      simp only [run] at hv ⊢
      cases hp : (service.noting note).permit s with
      | error e =>
          rw [hp] at hv
          cases hv
      | ok _ =>
          rw [hp] at hv
          exact run_notes service t ht hv
  | _, .within _ _ t, n, s, v, hn, hv => by
      have ht : t.Notes note n := hn
      exact run_notes service t ht hv

end Task

/-! ## Runs in time -/

/-- The task under way has failed, or the notes that have been made and those that it still asks
for are `total` together. -/
def Running.OnCourse (note : {α : Type} → Q α → Option ν) (total : Nat)
    (now : Running Q α × Machine (σ × List ν)) : Prop :=
  (∃ e, now.1 = .finished (.error e)) ∨
    ∃ n, total = now.2.state.2.length + n ∧ now.1.Notes note n

namespace Running

variable {note : {α : Type} → Q α → Option ν} {total : Nat}

theorem onCourse_hold {now : Running Q α × Machine (σ × List ν)} (h : OnCourse note total now) :
    OnCourse note total (hold now) := by
  obtain ⟨x, m⟩ := now
  cases x with
  | finished r => exact h
  | _ =>
      rcases h with ⟨e, he⟩ | ⟨n, htotal, hn⟩
      · cases he
      · exact .inr ⟨n, htotal, hn⟩

theorem onCourse_limit {now : Running Q α × Machine (σ × List ν)} (deadline : Nat) (late : Error)
    (h : OnCourse note total now) : OnCourse note total (limit deadline late now) := by
  obtain ⟨x, m⟩ := now
  have waiting : (∃ n, total = m.state.2.length + n ∧ x.Notes note n) →
      OnCourse note total (if deadline ≤ m.now then
        (.finished (.error (.error late)), abandon x m) else (.within deadline late x, m)) := by
    rintro ⟨n, htotal, hn⟩
    split
    · exact .inl ⟨_, rfl⟩
    · exact .inr ⟨n, htotal, hn⟩
  cases x with
  | finished r => exact h
  | _ =>
      rcases h with ⟨e, he⟩ | h
      · cases he
      · exact waiting h

/-- Two parts are put together: the left one asks for `n` more notes, and the right one is on its
course to what is left of the total then. -/
theorem onCourse_join {x : Running Q α} {now : Running Q β × Machine (σ × List ν)} {n : Nat}
    (hx : x.Notes note n) (h : OnCourse note total now) :
    OnCourse note (total + n) (x.join now.1 now.2) := by
  obtain ⟨y, m⟩ := now
  have going : (∃ l, total = m.state.2.length + l ∧ y.Notes note l) →
      OnCourse note (total + n) (.both x y, m) := by
    rintro ⟨l, htotal, hl⟩
    exact .inr ⟨n + l, by dsimp only; omega, n, l, rfl, hx, hl⟩
  cases y with
  | finished r =>
      cases r with
      | error e =>
          rw [join_error]
          exact .inl ⟨e, rfl⟩
      | ok b =>
          rcases h with ⟨e, he⟩ | h
          · cases he
          · cases x with
            | finished r =>
                cases r with
                | error e => exact going h
                | ok a =>
                    obtain ⟨l, htotal, hl⟩ := h
                    obtain rfl : n = 0 := hx
                    obtain rfl : l = 0 := hl
                    exact .inr ⟨0, htotal, rfl⟩
            | _ => exact going h
  | _ =>
      rcases h with ⟨e, he⟩ | h
      · cases he
      · cases x with
        | finished r => cases r <;> exact going h
        | _ => exact going h

theorem OnCourse.of_ok {v : α} {m : Machine (σ × List ν)}
    (h : OnCourse note total ((.finished (.ok v) : Running Q α), m)) :
    m.state.2.length = total := by
  rcases h with ⟨e, he⟩ | ⟨n, htotal, hn⟩
  · cases he
  · obtain rfl : n = 0 := hn
    exact htotal.symm

section Parts

variable {x : Running Q α} {m : Machine (σ × List ν)} (hx : ∀ e, x ≠ .finished (.error e))
  {l : Nat}

include hx

theorem OnCourse.andThen (h : OnCourse note total (x, m)) {next : Outcome α → Task Q β}
    (hnext : ∀ a, (next (.ok a)).Notes note l)
    (hfail : ∀ e, ∃ e', next (.error e) = .done (.error e')) :
    OnCourse note (total + l) (.andThen x next, m) := by
  rcases h with ⟨e, he⟩ | ⟨n, htotal, hn⟩
  · exact absurd he (hx e)
  · exact .inr ⟨n + l, by dsimp only at htotal ⊢; omega, n, l, rfl, hn, hnext, hfail⟩

theorem OnCourse.both {count k : Nat} (left : OnCourse note (count + k) (x, m))
    {now : Running Q β × Machine (σ × List ν)}
    (right : OnCourse note (m.state.2.length + l) now) :
    OnCourse note (count + (k + l)) (x.join now.1 now.2) := by
  rcases left with ⟨e, he⟩ | ⟨n, htotal, hn⟩
  · exact absurd he (hx e)
  · have joined := onCourse_join hn right
    dsimp only at htotal
    rwa [show count + (k + l) = m.state.2.length + l + n by omega]

end Parts

end Running

theorem Task.start_onCourse (service : Service Q σ) (note : {α : Type} → Q α → Option ν) :
    ∀ {γ : Type} (t : Task Q γ) {n : Nat} (m : Machine (σ × List ν)), t.Notes note n →
      Running.OnCourse note (m.state.2.length + n) (start (service.noting note) t m)
  | _, .done (.ok _), n, m, hn => .inr ⟨n, rfl, hn⟩
  | _, .done (.error e), _, _, _ => .inl ⟨e, rfl⟩
  | _, .ask q, n, m, hn => by
      obtain rfl : n = (note q).toList.length := hn
      have hlength : m.state.2.length + (note q).toList.length =
          (m.state.2 ++ (note q).toList).length + 0 := List.length_append.symm
      simp only [start]
      split
      · simp only [Service.noting]
        cases (service.answer q (service.accept q m.state.1).1).1 with
        | ok a => exact .inr ⟨0, hlength, rfl⟩
        | error e => exact .inl ⟨e, rfl⟩
      · exact .inr ⟨0, hlength, rfl⟩
  | _, .andThen t next, n, m, hn => by
      obtain ⟨k, l, rfl, ht, hnext, hfail⟩ := hn
      have first := start_onCourse service note t m ht
      simp only [start]
      generalize start (service.noting note) t m = now at first ⊢
      obtain ⟨x, m₁⟩ := now
      cases x with
      | finished r =>
          cases r with
          | error e =>
              obtain ⟨e', he'⟩ := hfail e
              dsimp only
              rw [he']
              exact .inl ⟨e', rfl⟩
          | ok a =>
              have rest := start_onCourse service note _ m₁ (hnext a)
              rwa [first.of_ok, Nat.add_assoc] at rest
      | _ =>
          rw [← Nat.add_assoc]
          exact first.andThen (fun _ h => by cases h) hnext hfail
  | _, .both t u, n, m, hn => by
      obtain ⟨k, l, rfl, ht, hu⟩ := hn
      have first := start_onCourse service note t m ht
      simp only [start]
      generalize start (service.noting note) t m = now at first ⊢
      obtain ⟨x, m₁⟩ := now
      -- The right part counts on from the notes that the left one has made so far.
      have second := start_onCourse service note u m₁ hu
      cases x with
      | finished r =>
          cases r with
          | error e => exact .inl ⟨e, rfl⟩
          | ok a => exact Running.OnCourse.both (fun _ h => by cases h) first second
      | _ => exact Running.OnCourse.both (fun _ h => by cases h) first second
  | _, .permitted t, n, m, hn => by
      have ht : t.Notes note n := hn
      simp only [start]
      cases (service.noting note).permit m.state with
      | error e => exact .inl ⟨e, rfl⟩
      | ok _ =>
          cases m.permits.take? with
          | none => exact .inr ⟨n, rfl, ht⟩
          | some permits =>
              exact Running.onCourse_hold (start_onCourse service note t { m with permits } ht)
  | _, .within seconds late t, n, m, hn => by
      have ht : t.Notes note n := hn
      exact Running.onCourse_limit _ late (start_onCourse service note t m ht)

theorem Running.resume_onCourse (service : Service Q σ) (note : {α : Type} → Q α → Option ν) :
    ∀ {γ : Type} (x : Running Q γ) {n : Nat} (m : Machine (σ × List ν)), x.Notes note n →
      OnCourse note (m.state.2.length + n) (resume (service.noting note) x m)
  | _, .finished (.ok _), n, m, hn => .inr ⟨n, rfl, hn⟩
  | _, .finished (.error e), _, _, _ => .inl ⟨e, rfl⟩
  | _, .asked q ready, n, m, hn => by
      obtain rfl : n = 0 := hn
      simp only [resume]
      split
      · simp only [Service.noting]
        cases (service.answer q m.state.1).1 with
        | ok a => exact .inr ⟨0, rfl, rfl⟩
        | error e => exact .inl ⟨e, rfl⟩
      · exact .inr ⟨0, rfl, rfl⟩
  | _, .andThen x next, n, m, hn => by
      obtain ⟨k, l, rfl, hx, hnext, hfail⟩ := hn
      have first := resume_onCourse service note x m hx
      simp only [resume]
      generalize resume (service.noting note) x m = now at first ⊢
      obtain ⟨y, m₁⟩ := now
      cases y with
      | finished r =>
          cases r with
          | error e =>
              obtain ⟨e', he'⟩ := hfail e
              dsimp only
              rw [he']
              exact .inl ⟨e', rfl⟩
          | ok a =>
              have rest := Task.start_onCourse service note _ m₁ (hnext a)
              rwa [first.of_ok, Nat.add_assoc] at rest
      | _ =>
          rw [← Nat.add_assoc]
          exact first.andThen (fun _ h => by cases h) hnext hfail
  | _, .both x y, n, m, hn => by
      obtain ⟨k, l, rfl, hx, hy⟩ := hn
      have first := resume_onCourse service note x m hx
      simp only [resume]
      generalize resume (service.noting note) x m = now at first ⊢
      obtain ⟨x', m₁⟩ := now
      have second := resume_onCourse service note y m₁ hy
      cases x' with
      | finished r =>
          cases r with
          | error e => exact .inl ⟨e, rfl⟩
          | ok a => exact Running.OnCourse.both (fun _ h => by cases h) first second
      | _ => exact Running.OnCourse.both (fun _ h => by cases h) first second
  | _, .queued ticket t, n, m, hn => by
      have ht : t.Notes note n := hn
      simp only [resume]
      cases m.permits.redeem? ticket with
      | none => exact .inr ⟨n, rfl, ht⟩
      | some permits =>
          exact onCourse_hold (Task.start_onCourse service note t { m with permits } ht)
  | _, .holding x, n, m, hn => by
      have hx : x.Notes note n := hn
      exact onCourse_hold (resume_onCourse service note x m hx)
  | _, .within deadline late x, n, m, hn => by
      have hx : x.Notes note n := hn
      exact onCourse_limit deadline late (resume_onCourse service note x m hx)

theorem Running.finish_onCourse (service : Service Q σ) {note : {α : Type} → Q α → Option ν}
    {total : Nat} (bound : Nat) {now : Running Q α × Machine (σ × List ν)}
    (h : OnCourse note total now) {v : α} {s : σ × List ν}
    (hlast : finish (service.noting note) bound now = some (.ok v, s)) : s.2.length = total := by
  induction bound generalizing now with
  | zero =>
      obtain ⟨x, m⟩ := now
      cases x with
      | finished r =>
          cases hlast
          exact h.of_ok
      | _ => cases hlast
  | succ bound ih =>
      obtain ⟨x, m⟩ := now
      rcases h with ⟨e, rfl⟩ | ⟨n, htotal, hn⟩
      · cases hlast
      · have next := resume_onCourse service note x (waitFor x m) hn
        rw [waitFor_state] at next
        cases x with
        | finished r =>
            cases hlast
            exact OnCourse.of_ok (.inr ⟨n, htotal, hn⟩)
        | _ => exact ih (htotal ▸ next) hlast

/-- A run that succeeds has made the notes that the tree of the task asks for. -/
theorem Task.Notes.length_eq {service : Service Q σ} {note : {α : Type} → Q α → Option ν}
    {t : Task Q α} {n : Nat} (hn : t.Notes note n) {s s' : σ × List ν} {v : α}
    (hlast : t.EndsIn (service.noting note) s (.ok v, s')) : s'.2.length = s.2.length + n := by
  rcases hlast with hrun | ⟨permits, bound, hlast⟩
  · have length := run_notes service t hn (congrArg Prod.fst hrun).symm
    rwa [← hrun] at length
  · exact Running.finish_onCourse service bound (start_onCourse service note t _ hn) hlast

end StakeSnapshot
