import StakeSnapshot.Proofs.Task.InTime

/-!
# Tasks with a first part in order

A task that does one thing after the other runs in time as it runs in order: at every moment, what
is left of it leads to the end that the run in order has (`Running.Settles`). So when a task begins
with such a part, what the rest of it asks has to be known for one outcome of that part only
(`Task.schedule_within_matches`).
-/

namespace StakeSnapshot

variable {Q : Type → Type} {σ τ α β : Type}

/-- A task that does one thing after the other, without permits and limits. -/
def Task.Sequential : {γ : Type} → Task Q γ → Prop
  | _, .done _ => True
  | _, .ask _ => True
  | _, .andThen t next => Sequential t ∧ ∀ r, Sequential (next r)
  | _, .both _ _ => False
  | _, .permitted _ => False
  | _, .within _ _ _ => False

theorem Task.Sequential.bind {t : Task Q α} {f : α → Task Q β} (ht : t.Sequential)
    (hf : ∀ a, (f a).Sequential) : (t >>= f).Sequential := by
  refine ⟨ht, fun r => ?_⟩
  cases r with
  | ok a => exact hf a
  | error e => trivial

theorem Task.Sequential.context {t : Task Q α} (ht : t.Sequential) (c : String) :
    (t.context c).Sequential :=
  ⟨ht, fun _ => trivial⟩

/-- The task under way is sequential, and the rest of it, run in order, leads to the given end. -/
def Running.Settles (service : Service Q σ) : {γ : Type} → Running Q γ → σ → Outcome γ × σ → Prop
  | _, .finished r, s, last => last = (r, s)
  | _, .asked q _, s, last => last = service.answer q s
  | _, .andThen x next, s, last =>
      ∃ r s₁, Settles service x s (r, s₁) ∧ (next r).Sequential ∧
        last = Task.run service (next r) s₁
  | _, .both _ _, _, _ => False
  | _, .queued _ _, _, _ => False
  | _, .holding _, _, _ => False
  | _, .within _ _ _, _, _ => False

variable {service : Service Q σ} {other : Service Q τ}

theorem Task.start_settles (service : Service Q σ) :
    ∀ {γ : Type} (t : Task Q γ) (m : Machine σ), t.Sequential →
      Running.Settles service (start service t m).1 (start service t m).2.state
        (run service t m.state)
  | _, .done _, _, _ => rfl
  | _, .ask q, m, _ => by
      simp only [start]
      split <;> rfl
  | _, .andThen t next, m, ht => by
      have first := start_settles service t m ht.1
      rw [run_andThen]
      simp only [start]
      generalize run service t m.state = last at first ⊢
      generalize start service t m = now at first ⊢
      obtain ⟨x, m₁⟩ := now
      cases x with
      | finished r =>
          cases first
          exact start_settles service (next r) m₁ (ht.2 r)
      | _ => exact ⟨_, _, first, ht.2 _, rfl⟩

theorem Running.resume_settles : ∀ {γ : Type} (x : Running Q γ) (m : Machine σ)
    {last : Outcome γ × σ}, Settles service x m.state last →
      Settles service (resume service x m).1 (resume service x m).2.state last
  | _, .finished _, _, _, hx => hx
  | _, .asked q ready, m, _, hx => by
      simp only [resume]
      split
      · exact hx
      · exact hx
  | _, .andThen x next, m, _, hx => by
      obtain ⟨r, s₁, hx, hr, rfl⟩ := hx
      have first := resume_settles x m hx
      simp only [resume]
      generalize resume service x m = now at first ⊢
      obtain ⟨y, m₁⟩ := now
      cases y with
      | finished o =>
          cases first
          exact Task.start_settles service (next _) m₁ hr
      | _ => exact ⟨_, _, first, hr, rfl⟩

/-! ## A first part in order, under a limit -/

section FirstPart

variable {replies : Replies Q} {P : {α : Type} → Q α → Prop} {R : σ → τ → Prop}

/-- A task that is in its first part, which will end in the outcome `o`, or past it. -/
inductive Running.Underway (service : Service Q σ) (replies : Replies Q)
    (P : {α : Type} → Q α → Prop) (next : Outcome α → Task Q β) (o : Outcome α) :
    Running Q β → σ → Prop where
  | first {x : Running Q α} {s s₁ : σ} (asks : x.Asks replies P)
      (settles : Settles service x s (o, s₁)) :
      Underway service replies P next o (.andThen x next) s
  | second {x : Running Q β} {s : σ} (asks : x.Asks replies P) :
      Underway service replies P next o x s

/-- Two looks at a task that is the same on two machines and well under way. -/
structure Running.UnderwayAlike (service : Service Q σ) (replies : Replies Q)
    (P : {α : Type} → Q α → Prop) (R : σ → τ → Prop) (next : Outcome α → Task Q β) (o : Outcome α)
    (left : Running Q β × Machine σ) (right : Running Q β × Machine τ) : Prop where
  running : left.1 = right.1
  machine : Machine.Alike R left.2 right.2
  underway : Underway service replies P next o left.1 left.2.state

variable {next : Outcome α → Task Q β} {o : Outcome α}

theorem Task.start_underway (h : service.Matches other replies P R)
    (hpace : service.SamePace other P R) {t : Task Q α} (ht : t.Sequential)
    (hasks : t.Asks replies P) {m : Machine σ} {m' : Machine τ} (hm : m.Alike R m')
    (ho : (run service t m.state).1 = o) (hnext : (next o).Asks replies P) :
    Running.UnderwayAlike service replies P R next o (start service (.andThen t next) m)
      (start other (.andThen t next) m') := by
  have first := start_alike h hpace t hasks hm
  have settles := start_settles service t m ht
  simp only [start]
  subst ho
  generalize run service t m.state = last at settles ⊢ hnext
  generalize start service t m = left, start other t m' = right at first settles ⊢
  obtain ⟨x, m₁⟩ := left
  obtain ⟨_, m₁'⟩ := right
  obtain ⟨rfl, hm₁, hx, -⟩ := first
  cases x with
  | finished r =>
      cases settles
      have rest := start_alike h hpace (next r) hnext hm₁
      exact ⟨rest.running, rest.machine, .second rest.asks⟩
  | _ => exact ⟨rfl, hm₁, .first hx settles⟩

theorem Running.resume_underway (h : service.Matches other replies P R)
    (hpace : service.SamePace other P R) (hnext : (next o).Asks replies P) {x : Running Q β}
    {m : Machine σ} {m' : Machine τ} (hm : m.Alike R m')
    (hx : Underway service replies P next o x m.state) :
    UnderwayAlike service replies P R next o (resume service x m) (resume other x m') := by
  cases hx with
  | second hasks =>
      have rest := resume_alike h hpace x hasks hm
      exact ⟨rest.running, rest.machine, .second rest.asks⟩
  | @first x _ s₁ hasks settles =>
      have first := resume_alike h hpace x hasks hm
      have settles := resume_settles x m settles
      simp only [resume]
      generalize resume service x m = left, resume other x m' = right at first settles ⊢
      obtain ⟨x, m₁⟩ := left
      obtain ⟨_, m₁'⟩ := right
      obtain ⟨rfl, hm₁, hx, -⟩ := first
      cases x with
      | finished r =>
          cases settles
          have rest := Task.start_alike h hpace (next _) hnext hm₁
          exact ⟨rest.running, rest.machine, .second rest.asks⟩
      | _ => exact ⟨rfl, hm₁, .first hx settles⟩

theorem Running.finish_underway (h : service.Matches other replies P R)
    (hpace : service.SamePace other P R) (hnext : (next o).Asks replies P) (deadline : Nat)
    (late : Error) (bound : Nat) {x : Running Q β} {m : Machine σ} {m' : Machine τ}
    (hm : m.Alike R m') (hx : Underway service replies P next o x m.state) :
    Task.EndAlike R (fun _ => True) (finish service bound (limit deadline late (x, m)))
      (finish other bound (limit deadline late (x, m'))) := by
  induction bound generalizing x m m' with
  | zero =>
      cases x with
      | finished r => exact .ended hm.state trivial
      | _ =>
          simp only [limit, ← hm.now]
          split
          · exact .ended (abandon_alike _ hm).state trivial
          · exact .stuck
  | succ bound ih =>
      have hm₁ := waitFor_alike (.within deadline late x) hm
      have look := resume_underway h hpace hnext hm₁ (by rw [waitFor_state]; exact hx)
      have rest : Task.EndAlike R (fun _ => True)
          (finish service bound
            (limit deadline late (resume service x (waitFor (.within deadline late x) m))))
          (finish other bound
            (limit deadline late (resume other x (waitFor (.within deadline late x) m')))) := by
        generalize resume service x _ = left, resume other x _ = right at look ⊢
        obtain ⟨y, m₂⟩ := left
        obtain ⟨_, m₂'⟩ := right
        obtain ⟨rfl, hm₂, hy⟩ := look
        exact ih hm₂ hy
      cases x with
      | finished r => exact .ended hm.state trivial
      | _ =>
          simp only [limit, ← hm.now]
          split
          · exact .ended (abandon_alike _ hm).state trivial
          · exact rest

/-- Two services that match on what the first part of a task asks, and on what the rest asks after
the outcome that the first part has in order, end the task alike, even if a time limit cuts it. -/
theorem Task.schedule_within_matches (h : service.Matches other replies P R)
    (hpace : service.SamePace other P R) (permits bound seconds : Nat) (late : Error)
    {t : Task Q α} (ht : t.Sequential) (hasks : t.Asks replies P) {s : σ} {s' : τ} (hs : R s s')
    (hnext : (next (run service t s).1).Asks replies P) :
    EndAlike R (fun _ => True)
      (schedule service permits bound (.within seconds late (.andThen t next)) s)
      (schedule other permits bound (.within seconds late (.andThen t next)) s') := by
  have hm : Machine.Alike R ⟨s, 0, .ofCount permits⟩ ⟨s', 0, .ofCount permits⟩ :=
    ⟨hs, rfl, rfl⟩
  have look := start_underway h hpace ht hasks hm rfl hnext
  change EndAlike R _
    (Running.finish service bound (Running.limit _ late (start service (.andThen t next) _)))
    (Running.finish other bound (Running.limit _ late (start other (.andThen t next) _)))
  generalize start service (.andThen t next) _ = left, start other (.andThen t next) _ = right
    at look ⊢
  obtain ⟨x, m⟩ := left
  obtain ⟨_, m'⟩ := right
  obtain ⟨rfl, hm, hx⟩ := look
  exact Running.finish_underway h hpace hnext _ late bound hm hx

end FirstPart

end StakeSnapshot
