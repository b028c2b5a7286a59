import StakeSnapshot.Proofs.Task.InTime

/-!
# What a task guarantees

A task that waits leaves its state to others. A `Rely` says what may become of the state meanwhile,
and what the task has to keep to whenever it waits. `Task.Ensures service w t post s` says that the
task `t`, begun in the state `s`, keeps to this and ends as `post` says, in order or in time,
however often and whenever it is looked at. What comes after a first part is what the first part has
to ensure, so a proof goes through a task from its beginning to its end.
-/

namespace StakeSnapshot

variable {Q : Type → Type} {σ α β : Type}

/-- What a task that waits can rely on, and what others can rely on then. -/
structure Rely (σ : Type) where
  /-- What the task keeps to whenever it waits. -/
  holds : σ → Prop
  /-- What may become of a state before the task is looked at again. -/
  mayBecome : σ → σ → Prop
  keeps {s s' : σ} : holds s → mayBecome s s' → holds s'
  refl {s : σ} : holds s → mayBecome s s
  trans {s s' s'' : σ} : mayBecome s s' → mayBecome s' s'' → mayBecome s s''

namespace Rely

/-- Nobody else touches the state. -/
def alone (I : σ → Prop) : Rely σ where
  holds := I
  mayBecome s s' := s' = s
  keeps hs h := h ▸ hs
  refl _ := rfl
  trans h h' := h'.trans h

/-- Others may change the state in any way, as long as they keep to the same. -/
def among (J : σ → Prop) : Rely σ where
  holds := J
  mayBecome _ s' := J s'
  keeps _ h := h
  refl h := h
  trans _ h := h

end Rely

/-! ## Tasks under way -/

namespace Running

/-- The task under way has not ended. -/
def Waits : Running Q α → Prop
  | .finished _ => False
  | _ => True

/-- For the next `n` looks at it, the task under way keeps to what it should whenever it waits, and
ends as `post` says if it ends. -/
def Safe (service : Service Q σ) (w : Rely σ) (post : Outcome α → σ → Prop) :
    Nat → Running Q α × Machine σ → Prop
  | _, (.finished r, m) => post r m.state
  | 0, (_, m) => w.holds m.state
  | n + 1, (x, m) =>
      w.holds m.state ∧
        ∀ m', w.mayBecome m.state m'.state → Safe service w post n (resume service x m')

end Running

/-- The task, begun in a state, keeps to what it should whenever it waits, and ends as `post`
says. -/
structure Task.Ensures (service : Service Q σ) (w : Rely σ) (t : Task Q α)
    (post : Outcome α → σ → Prop) (s : σ) : Prop where
  start (n : Nat) {m : Machine σ} : m.state = s → Running.Safe service w post n (start service t m)
  run : post (run service t s).1 (run service t s).2

variable {service : Service Q σ} {w : Rely σ}

namespace Running

section Safe

variable {post : Outcome α → σ → Prop} {n : Nat}

theorem safe_finished {r : Outcome α} {m : Machine σ} :
    Safe service w post n (.finished r, m) ↔ post r m.state := by
  cases n <;> exact Iff.rfl

theorem Safe.waiting {x : Running Q α} {m : Machine σ} (hx : x.Waits) (hm : w.holds m.state)
    (h : ∀ k, n = k + 1 → ∀ m', w.mayBecome m.state m'.state →
      Safe service w post k (Running.resume service x m')) :
    Safe service w post n (x, m) := by
  cases x with
  | finished r => exact hx.elim
  | _ =>
      cases n with
      | zero => exact hm
      | succ n => exact ⟨hm, h n rfl⟩

theorem Safe.holds {x : Running Q α} {m : Machine σ} (h : Safe service w post n (x, m))
    (hx : x.Waits) : w.holds m.state := by
  cases x with
  | finished r => exact hx.elim
  | _ =>
      cases n with
      | zero => exact h
      | succ n => exact h.1

theorem Safe.resume {x : Running Q α} {m m' : Machine σ} (h : Safe service w post (n + 1) (x, m))
    (hx : x.Waits) (hm : w.mayBecome m.state m'.state) :
    Safe service w post n (Running.resume service x m') := by
  cases x with
  | finished r => exact hx.elim
  | _ => exact h.2 m' hm

/-- Looks say nothing of the time and of the permits, so these may be others. -/
theorem Safe.of_state {x : Running Q α} {m m' : Machine σ} (h : Safe service w post n (x, m))
    (hm : m'.state = m.state) : Safe service w post n (x, m') := by
  cases x with
  | finished r =>
      rw [safe_finished] at h ⊢
      rwa [hm]
  | _ =>
      refine .waiting trivial (hm ▸ h.holds trivial) fun k hk m'' hm'' => ?_
      subst hk
      exact h.resume trivial (hm ▸ hm'')

theorem Safe.imp {post' : Outcome α → σ → Prop} (hpost : ∀ r s, post r s → post' r s)
    {now : Running Q α × Machine σ} (h : Safe service w post n now) :
    Safe service w post' n now := by
  induction n generalizing now with
  | zero =>
      obtain ⟨x, m⟩ := now
      cases x with
      | finished r => exact hpost _ _ h
      | _ => exact h
  | succ n ih =>
      obtain ⟨x, m⟩ := now
      cases x with
      | finished r => exact hpost _ _ h
      | _ => exact ⟨h.1, fun m' hm => ih (h.2 m' hm)⟩

theorem abandon_state : ∀ {γ : Type} (x : Running Q γ) (m : Machine σ),
    (x.abandon m).state = m.state
  | _, .finished _, _ => rfl
  | _, .asked _ _, _ => rfl
  | _, .andThen x _, m => abandon_state x m
  | _, .both x y, m => (abandon_state y _).trans (abandon_state x m)
  | _, .queued _ _, _ => rfl
  | _, .holding x, m => abandon_state x m
  | _, .within _ _ x, m => abandon_state x m

/-! ### Parts of a task -/

/-- What comes next starts where the first part has ended. -/
theorem Safe.andThen {next : Outcome α → Task Q β} {post : Outcome β → σ → Prop}
    {x : Running Q α} {m : Machine σ}
    (h : Safe service w (fun r => (next r).Ensures service w post) n (x, m)) (hx : x.Waits) :
    Safe service w post n (.andThen x next, m) := by
  induction n generalizing x m with
  | zero => exact h.holds hx
  | succ n ih =>
      refine ⟨h.holds hx, fun m' hm => ?_⟩
      have first := h.resume hx hm
      simp only [Running.resume]
      generalize Running.resume service x m' = now at first ⊢
      obtain ⟨y, m₁⟩ := now
      cases y with
      | finished r => exact (safe_finished.mp first).start n rfl
      | _ => exact ih first trivial

theorem Safe.hold {now : Running Q α × Machine σ} (h : Safe service w post n now) :
    Safe service w post n (Running.hold now) := by
  induction n generalizing now with
  | zero =>
      obtain ⟨x, m⟩ := now
      cases x <;> exact h
  | succ n ih =>
      obtain ⟨x, m⟩ := now
      cases x with
      | finished r => exact h
      | _ => exact ⟨h.1, fun m' hm => ih (h.2 m' hm)⟩

/-- A task that waits is given up, or waits on in the same way. -/
theorem Safe.givenUp {deadline : Nat} {late : Error}
    (hlate : ∀ s, w.holds s → post (.error (.error late)) s) {x : Running Q α} {m : Machine σ}
    (hm : w.holds m.state) (h : Safe service w post n (.within deadline late x, m)) :
    Safe service w post n (if deadline ≤ m.now then
      (.finished (.error (.error late)), abandon x m) else (.within deadline late x, m)) := by
  split
  · rw [safe_finished, abandon_state]
    exact hlate _ hm
  · exact h

theorem Safe.limit {deadline : Nat} {late : Error}
    (hlate : ∀ s, w.holds s → post (.error (.error late)) s) {now : Running Q α × Machine σ}
    (h : Safe service w post n now) : Safe service w post n (Running.limit deadline late now) := by
  induction n generalizing now with
  | zero =>
      obtain ⟨x, m⟩ := now
      cases x with
      | finished r => exact h
      | _ => exact Safe.givenUp hlate h h
  | succ n ih =>
      obtain ⟨x, m⟩ := now
      cases x with
      | finished r => exact h
      | _ => exact Safe.givenUp hlate h.1 ⟨h.1, fun m' hm => ih (h.2 m' hm)⟩

end Safe

/-- Among others that keep to `J`, a task that waits does not notice what they do. -/
theorem Safe.stable {J : σ → Prop} {post : Outcome α → σ → Prop} {n : Nat} {x : Running Q α}
    {m m' : Machine σ} (h : Safe service (.among J) post n (x, m)) (hx : x.Waits)
    (hm : J m'.state) : Safe service (.among J) post n (x, m') := by
  refine .waiting hx hm fun k hk m'' hm'' => ?_
  subst hk
  exact h.resume hx hm''

/-! ### Parts at once -/

section Among

variable {J : σ → Prop} {n : Nat} {x : Running Q α} {y : Running Q β} {m m' : Machine σ}

theorem Safe.state (h : Safe service (.among J) (fun _ => J) n (x, m)) : J m.state := by
  cases x with
  | finished r => exact safe_finished.mp h
  | _ => exact h.holds trivial

theorem Safe.elsewhere (h : Safe service (.among J) (fun _ => J) n (x, m)) (hm : J m'.state) :
    Safe service (.among J) (fun _ => J) n (x, m') := by
  cases x with
  | finished r => exact safe_finished.mpr hm
  | _ => exact h.stable trivial hm

theorem Safe.look (h : Safe service (.among J) (fun _ => J) (n + 1) (x, m)) (hm : J m'.state) :
    Safe service (.among J) (fun _ => J) n (Running.resume service x m') := by
  cases x with
  | finished r => exact safe_finished.mpr hm
  | _ => exact h.resume trivial hm

theorem Safe.join (hx : Safe service (.among J) (fun _ => J) n (x, m))
    (hy : Safe service (.among J) (fun _ => J) n (y, m)) :
    Safe service (.among J) (fun _ => J) n (x.join y m) := by
  induction n generalizing x y m with
  | zero =>
      unfold Running.join
      split
      · exact hx.state
      · rw [safe_finished, abandon_state]
        exact hx.state
      · exact hx.state
  | succ n ih =>
      unfold Running.join
      split
      · exact hx.state
      · rw [safe_finished, abandon_state]
        exact hx.state
      · refine ⟨hx.state, fun m' hm => ?_⟩
        have left := hx.look hm
        simp only [Running.resume]
        generalize Running.resume service x m' = now at left ⊢
        obtain ⟨x', m₁⟩ := now
        have right := hy.look left.state
        have joined := ih (left.elsewhere right.state) right
        cases x' with
        | finished r =>
            cases r with
            | error e =>
                rw [safe_finished, abandon_state]
                exact left.state
            | ok a => exact joined
        | _ => exact joined

end Among

end Running

/-! ## Rules -/

namespace Task.Ensures

variable {s : σ} {post : Outcome α → σ → Prop}

theorem imp {post' : Outcome α → σ → Prop} {t : Task Q α} (h : t.Ensures service w post s)
    (hpost : ∀ r s, post r s → post' r s) : t.Ensures service w post' s :=
  ⟨fun n _ hm => (h.start n hm).imp hpost, hpost _ _ h.run⟩

theorem done {r : Outcome α} (h : post r s) : (Task.done r : Task Q α).Ensures service w post s :=
  ⟨fun _ _ hm => Running.safe_finished.mpr (hm ▸ h), h⟩

/-- A question that takes no time is answered before anyone else does something. -/
theorem ask_now {q : Q α} (hdelay : (service.accept q s).2 = 0)
    (h : post (service.answer q (service.accept q s).1).1
      (service.answer q (service.accept q s).1).2) :
    (Task.ask q).Ensures service w post s where
  start n m hm := by
    subst hm
    simp only [Task.start, hdelay, if_true]
    exact Running.safe_finished.mpr h
  run := h

/-- A question that is answered at some time. -/
theorem ask {q : Q α} (hasked : w.holds (service.accept q s).1)
    (h : ∀ s', w.mayBecome (service.accept q s).1 s' →
      post (service.answer q s').1 (service.answer q s').2) :
    (Task.ask q).Ensures service w post s where
  start n m hm := by
    subst hm
    have waits (ready : Nat) (k : Nat) {m' : Machine σ}
        (hm' : w.mayBecome (service.accept q m.state).1 m'.state) :
        Running.Safe service w post k (.asked q ready, m') := by
      induction k generalizing m' with
      | zero => exact w.keeps hasked hm'
      | succ k ih =>
          refine ⟨w.keeps hasked hm', fun m'' hm'' => ?_⟩
          have hm'' := w.trans hm' hm''
          simp only [Running.resume]
          split
          · exact Running.safe_finished.mpr (h _ hm'')
          · exact ih hm''
    simp only [Task.start]
    split
    · exact Running.safe_finished.mpr (h _ (w.refl hasked))
    · exact waits _ n (w.refl hasked)
  run := h _ (w.refl hasked)

theorem andThen {t : Task Q α} {next : Outcome α → Task Q β} {post : Outcome β → σ → Prop}
    (h : t.Ensures service w (fun r => (next r).Ensures service w post) s) :
    (Task.andThen t next).Ensures service w post s where
  start n m hm := by
    have first := h.start n hm
    simp only [Task.start]
    generalize Task.start service t m = now at first ⊢
    obtain ⟨x, m₁⟩ := now
    cases x with
    | finished r => exact (Running.safe_finished.mp first).start n rfl
    | _ => exact first.andThen trivial
  run := h.run.run

theorem bind {t : Task Q α} {f : α → Task Q β} {post : Outcome β → σ → Prop}
    (h : t.Ensures service w (fun
      | .ok a => (f a).Ensures service w post
      | .error e => post (.error e)) s) :
    (t >>= f).Ensures service w post s := by
  refine andThen (h.imp fun r s' hr => ?_)
  cases r with
  | ok a => exact hr
  | error e => exact done hr

theorem mapError {f : Error → Error} {t : Task Q α}
    (h : t.Ensures service w (fun r => post (r.mapError f)) s) :
    (t.mapError f).Ensures service w post s :=
  andThen (h.imp fun _ _ hr => done hr)

/-- A task that wants a permit waits for it, or is refused. -/
theorem permitted {t : Task Q α} (hs : w.holds s)
    (hrefused : ∀ e, service.permit s = .error e → post (.error e) s)
    (h : ∀ s', w.mayBecome s s' → t.Ensures service w post s') :
    (Task.permitted t).Ensures service w post s where
  start n m hm := by
    subst hm
    have waits (ticket : Nat) (k : Nat) {m' : Machine σ} (hm' : w.mayBecome m.state m'.state) :
        Running.Safe service w post k (.queued ticket t, m') := by
      induction k generalizing m' with
      | zero => exact w.keeps hs hm'
      | succ k ih =>
          refine ⟨w.keeps hs hm', fun m'' hm'' => ?_⟩
          have hm'' := w.trans hm' hm''
          simp only [Running.resume]
          split
          · exact .hold ((h _ hm'').start k rfl)
          · exact ih hm''
    simp only [Task.start]
    split
    · next e he => exact Running.safe_finished.mpr (hrefused e he)
    · split
      · exact .hold ((h _ (w.refl hs)).start n rfl)
      · exact waits _ n (w.refl hs)
  run := by
    simp only [Task.run]
    split
    · next e he => exact hrefused e he
    · exact (h _ (w.refl hs)).run

theorem within {seconds : Nat} {late : Error} {t : Task Q α}
    (hlate : ∀ s, w.holds s → post (.error (.error late)) s) (h : t.Ensures service w post s) :
    (Task.within seconds late t).Ensures service w post s :=
  ⟨fun n _ hm => (h.start n hm).limit hlate, h.run⟩

theorem both {J : σ → Prop} {t : Task Q α} {u : Task Q β}
    (ht : t.Ensures service (.among J) (fun _ => J) s)
    (hu : ∀ s, J s → u.Ensures service (.among J) (fun _ => J) s) :
    (Task.both t u).Ensures service (.among J) (fun _ => J) s where
  start n m hm := by
    have left := ht.start n hm
    simp only [Task.start]
    generalize Task.start service t m = now at left ⊢
    obtain ⟨x, m₁⟩ := now
    have right := (hu m₁.state left.state).start n rfl
    have joined := (left.elsewhere right.state).join right
    cases x with
    | finished r =>
        cases r with
        | error e => exact Running.safe_finished.mpr left.state
        | ok a => exact joined
    | _ => exact joined
  run := by
    have left := ht.run
    simp only [Task.run]
    split
    · next e s₁ h =>
        rw [h] at left
        exact left
    · next a s₁ h =>
        rw [h] at left
        have right := (hu s₁ left).run
        split
        · next e s₂ h =>
            rw [h] at right
            exact right
        · next b s₂ h =>
            rw [h] at right
            exact right

end Task.Ensures

/-! ## Tasks that keep a property of the state -/

/-- Among others that do the same, the task keeps the property `J`. -/
def Task.Upholds (service : Service Q σ) (J : σ → Prop) (t : Task Q α) : Prop :=
  ∀ s, J s → t.Ensures service (.among J) (fun _ => J) s

namespace Task.Upholds

variable {J : σ → Prop}

theorem done (r : Outcome α) : (Task.done r : Task Q α).Upholds service J :=
  fun _ hs => .done hs

/-- What keeps the property may follow what establishes it. -/
theorem after {t : Task Q α} {f : α → Task Q β} {s : σ} (hf : ∀ a, (f a).Upholds service J)
    (ht : t.Ensures service (.among J) (fun _ => J) s) :
    (t >>= f).Ensures service (.among J) (fun _ => J) s := by
  refine .bind (ht.imp fun r s' hs' => ?_)
  cases r with
  | ok a => exact hf a s' hs'
  | error e => exact hs'

theorem bind {t : Task Q α} {f : α → Task Q β} (ht : t.Upholds service J)
    (hf : ∀ a, (f a).Upholds service J) : (t >>= f).Upholds service J :=
  fun s hs => after hf (ht s hs)

theorem map {t : Task Q α} (ht : t.Upholds service J) (f : α → β) :
    (f <$> t).Upholds service J :=
  ht.bind fun _ => done _

theorem mapError {t : Task Q α} (ht : t.Upholds service J) (f : Error → Error) :
    (t.mapError f).Upholds service J :=
  fun s hs => .mapError (ht s hs)

theorem both {t : Task Q α} {u : Task Q β} (ht : t.Upholds service J) (hu : u.Upholds service J) :
    (Task.both t u).Upholds service J :=
  fun s hs => .both (ht s hs) hu

theorem all {ts : List (Task Q α)} (hts : ∀ t ∈ ts, t.Upholds service J) :
    (Task.all ts).Upholds service J := by
  induction ts with
  | nil => exact done _
  | cons t ts ih =>
      rw [List.forall_mem_cons] at hts
      exact (hts.1.both (ih hts.2)).map _

theorem within {seconds : Nat} {late : Error} {t : Task Q α} (ht : t.Upholds service J) :
    (Task.within seconds late t).Upholds service J :=
  fun s hs => .within (fun _ hs => hs) (ht s hs)

theorem permitted {t : Task Q α} (ht : t.Upholds service J) :
    (Task.permitted t).Upholds service J :=
  fun _ hs => .permitted hs (fun _ _ => hs) ht

/-- A task over other questions keeps what the tasks for these keep. -/
theorem substitute {R : Type → Type} {f : {γ : Type} → R γ → Task Q γ}
    (hf : ∀ {γ : Type} (q : R γ), (f q).Upholds service J) :
    ∀ {γ : Type} (t : Task R γ), (t.substitute f).Upholds service J
  | _, .done r => done r
  | _, .ask q => hf q
  | _, .andThen t next => fun s hs =>
      .andThen ((substitute hf t s hs).imp fun r => substitute hf (next r))
  | _, .both t u => (substitute hf t).both (substitute hf u)
  | _, .permitted t => (substitute hf t).permitted
  | _, .within _ _ t => (substitute hf t).within

end Task.Upholds

/-- In states with the property `J`, a service answers the questions with the property `P` without
leaving it. -/
structure Service.Keeps (service : Service Q σ) (P : {α : Type} → Q α → Prop) (J : σ → Prop) :
    Prop where
  accept {α : Type} (q : Q α) {s : σ} : P q → J s → J (service.accept q s).1
  answer {α : Type} (q : Q α) {s : σ} : P q → J s → J (service.answer q s).2

section Keeps

variable {P : {α : Type} → Q α → Prop} {J : σ → Prop}

theorem Service.Keeps.matches_self (h : service.Keeps P J) :
    service.Matches service .any P fun s s' => s = s' ∧ J s where
  accept q _ _ hq hs := ⟨by rw [hs.1], h.accept q hq hs.2⟩
  outcome _ _ _ _ hs := by rw [hs.1]
  answer q _ _ hq hs := ⟨by rw [hs.1], h.answer q hq hs.2⟩
  reply _ _ _ _ _ := trivial
  permit hs := by rw [hs.1]
  grant _ _ := trivial
  refusal _ _ := trivial

theorem Service.Keeps.samePace (service : Service Q σ) (P : {α : Type} → Q α → Prop)
    (J : σ → Prop) : service.SamePace service P fun s s' => s = s' ∧ J s :=
  ⟨fun _ _ _ _ hs => by rw [hs.1]⟩

theorem Service.Keeps.safe (h : service.Keeps P J) (hJ : ∀ s, J s → w.holds s)
    (hw : ∀ s s', J s → w.mayBecome s s' → J s') (n : Nat) {x : Running Q α} {m : Machine σ}
    (hx : x.Asks .any P) (hm : J m.state) : Running.Safe service w (fun _ => J) n (x, m) := by
  induction n generalizing x m with
  | zero =>
      cases x with
      | finished r => exact hm
      | _ => exact hJ _ hm
  | succ n ih =>
      have next (m' : Machine σ) (hm' : w.mayBecome m.state m'.state) :
          Running.Safe service w (fun _ => J) n (Running.resume service x m') := by
        have alike := Running.resume_alike h.matches_self (samePace service P J) x hx
          ⟨⟨rfl, hw _ _ hm hm'⟩, rfl, rfl⟩
        exact ih alike.asks alike.machine.state.2
      cases x with
      | finished r => exact hm
      | _ => exact ⟨hJ _ hm, next⟩

/-- What holds before and after every question of a task holds throughout. -/
theorem Service.Keeps.ensures (h : service.Keeps P J) (hJ : ∀ s, J s → w.holds s)
    (hw : ∀ s s', J s → w.mayBecome s s' → J s') {t : Task Q α} (ht : t.Asks .any P) {s : σ}
    (hs : J s) : t.Ensures service w (fun _ => J) s where
  start n m hm := by
    subst hm
    have alike := Task.start_alike h.matches_self (samePace service P J) t ht
      ⟨⟨rfl, hs⟩, rfl, rfl⟩
    exact h.safe hJ hw n alike.asks alike.machine.state.2
  run := (Task.run_matches h.matches_self t ht ⟨rfl, hs⟩).state.2

theorem Service.Keeps.upholds (h : service.Keeps P J) {t : Task Q α} (ht : t.Asks .any P) :
    t.Upholds service J :=
  fun _ hs => h.ensures (fun _ hs => hs) (fun _ _ _ hs => hs) ht hs

end Keeps

/-! ## Looks at a task on its own -/

/-- The outcome of a task that has ended. -/
def Running.outcome? : Running Q α → Option (Outcome α)
  | .finished r => some r
  | _ => none

/-- What a task may have come to, and its state, when nobody else touches that state: it is looked
at any number of times, at any times and with any permits. -/
inductive Task.ComesTo (service : Service Q σ) (t : Task Q α) (s : σ) : Running Q α → σ → Prop where
  | start (m : Machine σ) (hm : m.state = s) :
      ComesTo service t s (t.start service m).1 (t.start service m).2.state
  | look {x : Running Q α} (m : Machine σ) (h : ComesTo service t s x m.state) :
      ComesTo service t s (x.resume service m).1 (x.resume service m).2.state

/-- A task that has ended in time has come to its end. -/
theorem Task.ComesTo.of_finish {t : Task Q α} {s : σ} {last : Outcome α × σ} {bound : Nat}
    {x : Running Q α} {m : Machine σ} (h : t.ComesTo service s x m.state)
    (hlast : Running.finish service bound (x, m) = some last) :
    t.ComesTo service s (.finished last.1) last.2 := by
  induction bound generalizing x m with
  | zero =>
      cases x with
      | finished r =>
          cases hlast
          exact h
      | _ => cases hlast
  | succ bound ih =>
      have looked : t.ComesTo service s (x.resume service (x.waitFor m)).1
          (x.resume service (x.waitFor m)).2.state :=
        .look _ (by rwa [Running.waitFor_state])
      cases x with
      | finished r =>
          cases hlast
          exact h
      | _ => exact ih looked hlast

theorem Task.ComesTo.of_schedule {t : Task Q α} {s : σ} {last : Outcome α × σ}
    {permits bound : Nat} (h : t.schedule service permits bound s = some last) :
    t.ComesTo service s (.finished last.1) last.2 :=
  .of_finish (.start _ rfl) h

section ComesTo

variable {I : σ → Prop} {post : Outcome α → σ → Prop} {t : Task Q α} {s s' : σ} {x : Running Q α}

theorem Task.Ensures.safe (h : t.Ensures service (.alone I) post s)
    (hx : t.ComesTo service s x s') (n : Nat) {m : Machine σ} (hm : m.state = s') :
    Running.Safe service (.alone I) post n (x, m) := by
  induction hx generalizing n m with
  | start m₀ hm₀ => exact (h.start n hm₀).of_state hm
  | @look x m₀ _ ih =>
      have before := ih (n + 1) rfl
      refine Running.Safe.of_state ?_ hm
      cases x with
      | finished r => exact Running.safe_finished.mpr (Running.safe_finished.mp before)
      | _ => exact before.resume trivial rfl

/-- A task that has ended, has ended as it ensures. -/
theorem Task.Ensures.ended (h : t.Ensures service (.alone I) post s)
    (hx : t.ComesTo service s x s') {r : Outcome α} (hr : x.outcome? = some r) : post r s' := by
  have safe := h.safe hx 0 (m := ⟨s', 0, .ofCount 0⟩) rfl
  cases x with
  | finished r' =>
      cases hr
      exact safe
  | _ => cases hr

/-- A task that has not ended keeps to what it should. -/
theorem Task.Ensures.waiting (h : t.Ensures service (.alone I) post s)
    (hx : t.ComesTo service s x s') (hr : x.outcome? = none) : I s' := by
  have safe := h.safe hx 0 (m := ⟨s', 0, .ofCount 0⟩) rfl
  cases x with
  | finished r => cases hr
  | _ => exact safe

end ComesTo

end StakeSnapshot
