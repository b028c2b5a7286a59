import StakeSnapshot.Proofs.Task.Matching
import StakeSnapshot.Task.Schedule

/-!
# Matching services in time

The counterpart of `Task.run_matches` for tasks that wait for answers and permits: on two services
that match, and whose answers take equally long, a task is in the same state of progress at every
moment, so it ends alike (`Task.schedule_matches`). A task under way has its own `MayEnd` and
`Asks`, and each look at it can only take away from what they allow.
-/

namespace StakeSnapshot

variable {Q : Type → Type} {σ τ α β : Type}

namespace Running

/-- The outcomes in which a task under way can end. -/
def MayEnd (replies : Replies Q) : {γ : Type} → Running Q γ → Outcome γ → Prop
  | _, .finished r, o => o = r
  | _, .asked q _, o => replies.answer q o
  | _, .andThen x next, o => ∃ r, MayEnd replies x r ∧ Task.MayEnd replies (next r) o
  | _, .both x y, o => Outcome.Paired (MayEnd replies x) (MayEnd replies y) o
  | _, .queued _ t, o => Task.MayEnd replies t o
  | _, .holding x, o => MayEnd replies x o
  | _, .within _ late x, o => MayEnd replies x o ∨ o = .error (.error late)

/-- Every question of a task under way has the property `P`. -/
def Asks (replies : Replies Q) (P : {α : Type} → Q α → Prop) : {γ : Type} → Running Q γ → Prop
  | _, .finished _ => True
  | _, .asked q _ => P q
  | _, .andThen x next =>
      Asks replies P x ∧ ∀ r, MayEnd replies x r → Task.Asks replies P (next r)
  | _, .both x y => Asks replies P x ∧ Asks replies P y
  | _, .queued _ t => Task.Asks replies P t
  | _, .holding x => Asks replies P x
  | _, .within _ _ x => Asks replies P x

end Running

/-- Machines at the same time with the same permits, in related states. -/
structure Machine.Alike (R : σ → τ → Prop) (m : Machine σ) (m' : Machine τ) : Prop where
  state : R m.state m'.state
  now : m.now = m'.now
  permits : m.permits = m'.permits

/-- The same task under way on two machines, which still asks what it should and can end only as it
could before. -/
structure Running.Alike (replies : Replies Q) (P : {α : Type} → Q α → Prop) (R : σ → τ → Prop)
    (before : Outcome α → Prop) (left : Running Q α × Machine σ)
    (right : Running Q α × Machine τ) : Prop where
  running : left.1 = right.1
  machine : Machine.Alike R left.2 right.2
  asks : Running.Asks replies P left.1
  mayEnd : ∀ o, Running.MayEnd replies left.1 o → before o

variable {replies : Replies Q} {P : {α : Type} → Q α → Prop} {R : σ → τ → Prop}

theorem Machine.Alike.withPermits {m : Machine σ} {m' : Machine τ} (h : m.Alike R m')
    (f : Permits → Permits) :
    Machine.Alike R { m with permits := f m.permits } { m' with permits := f m'.permits } :=
  ⟨h.state, h.now, congrArg f h.permits⟩

namespace Running

theorem abandon_alike : ∀ {γ : Type} (x : Running Q γ) {m : Machine σ} {m' : Machine τ},
    m.Alike R m' → (abandon x m).Alike R (abandon x m')
  | _, .finished _, _, _, h => h
  | _, .asked _ _, _, _, h => h
  | _, .andThen x _, _, _, h => abandon_alike x h
  | _, .both x y, _, _, h => abandon_alike y (abandon_alike x h)
  | _, .queued ticket _, _, _, h => h.withPermits (·.forget ticket)
  | _, .holding x, _, _, h => (abandon_alike x h).withPermits Permits.release
  | _, .within _ _ x, _, _, h => abandon_alike x h

theorem join_error (x : Running Q α) (e : Failure) (m : Machine σ) :
    join x (.finished (.error e) : Running Q β) m = (.finished (.error e), abandon x m) := by
  cases x with
  | finished r => cases r <;> rfl
  | _ => rfl

/-- A part under way is put together with another one that both services just looked at. -/
theorem join_alike {x : Running Q α} {p : Outcome α → Prop} {q : Outcome β → Prop}
    {left : Running Q β × Machine σ} {right : Running Q β × Machine τ}
    (hx : Asks replies P x) (hp : ∀ o, MayEnd replies x o → p o)
    (h : Alike replies P R q left right) :
    Alike replies P R (Outcome.Paired p q) (x.join left.1 left.2) (x.join right.1 right.2) := by
  obtain ⟨y, m⟩ := left
  obtain ⟨_, m'⟩ := right
  obtain ⟨rfl, hm, hy, hq⟩ := h
  have going : Alike replies P R (Outcome.Paired p q) (.both x y, m) (.both x y, m') :=
    ⟨rfl, hm, ⟨hx, hy⟩, Outcome.Paired.imp hp hq⟩
  -- `join` tells a finished part from one under way, and a value from a failure.
  cases y with
  | finished r =>
      cases r with
      | error e =>
          rw [join_error, join_error]
          exact ⟨rfl, abandon_alike x hm, trivial, fun o ho => by subst ho; exact .inr (hq _ rfl)⟩
      | ok b =>
          cases x with
          | finished r =>
              cases r with
              | error e => exact going
              | ok a =>
                  exact ⟨rfl, hm, trivial,
                    fun o ho => by subst ho; exact ⟨hp _ rfl, hq _ rfl⟩⟩
          | _ => exact going
  | _ =>
      cases x with
      | finished r => cases r <;> exact going
      | _ => exact going

theorem hold_alike {before : Outcome α → Prop} {left : Running Q α × Machine σ}
    {right : Running Q α × Machine τ} (h : Alike replies P R before left right) :
    Alike replies P R before (hold left) (hold right) := by
  obtain ⟨x, m⟩ := left
  obtain ⟨_, m'⟩ := right
  obtain ⟨rfl, hm, hx, hend⟩ := h
  cases x with
  | finished r => exact ⟨rfl, hm.withPermits Permits.release, hx, hend⟩
  | _ => exact ⟨rfl, hm, hx, hend⟩

theorem limit_alike {before : Outcome α → Prop} {left : Running Q α × Machine σ}
    {right : Running Q α × Machine τ} (deadline : Nat) (late : Error)
    (h : Alike replies P R before left right) :
    Alike replies P R (fun o => before o ∨ o = .error (.error late))
      (limit deadline late left) (limit deadline late right) := by
  obtain ⟨x, m⟩ := left
  obtain ⟨_, m'⟩ := right
  obtain ⟨rfl, hm, hx, hend⟩ := h
  -- Only a task that has not ended is looked at for its time.
  have waiting : Alike replies P R (fun o => before o ∨ o = .error (.error late))
      (if deadline ≤ m.now then (.finished (.error (.error late)), abandon x m)
        else (.within deadline late x, m))
      (if deadline ≤ m'.now then (.finished (.error (.error late)), abandon x m')
        else (.within deadline late x, m')) := by
    rw [← hm.now]
    split
    · exact ⟨rfl, abandon_alike x hm, trivial, fun o ho => .inr ho⟩
    · exact ⟨rfl, hm, hx, fun o ho => ho.imp_left (hend o)⟩
  cases x with
  | finished r => exact ⟨rfl, hm, hx, fun o ho => .inl (hend o ho)⟩
  | _ => exact waiting

end Running

/-! ## Looking at a task on both services -/

variable {service : Service Q σ} {other : Service Q τ}

/-- The questions with the property `P` take equally long on two services. -/
structure Service.SamePace (service : Service Q σ) (other : Service Q τ)
    (P : {α : Type} → Q α → Prop) (R : σ → τ → Prop) : Prop where
  delay {α : Type} (q : Q α) {s : σ} {t : τ} :
    P q → R s t → (service.accept q s).2 = (other.accept q t).2

theorem Task.start_alike (h : service.Matches other replies P R)
    (hpace : service.SamePace other P R) :
    ∀ {γ : Type} (t : Task Q γ) {m : Machine σ} {m' : Machine τ}, Asks replies P t →
      m.Alike R m' →
      Running.Alike replies P R (MayEnd replies t) (start service t m) (start other t m')
  | _, .done _, _, _, _, hm => ⟨rfl, hm, trivial, fun _ ho => ho⟩
  | _, .ask q, m, m', hq, hm => by
      have hs := h.accept q hq hm.state
      simp only [start, ← hpace.delay q hq hm.state, ← hm.now]
      split
      · exact ⟨congrArg Running.finished (h.outcome q hq hs), ⟨h.answer q hq hs, rfl, hm.permits⟩,
          trivial, fun o ho => by subst ho; exact h.reply q hq hs⟩
      · exact ⟨rfl, ⟨hs, rfl, hm.permits⟩, hq, fun _ ho => ho⟩
  | _, .andThen t next, m, m', hasks, hm => by
      have first := start_alike h hpace t hasks.1 hm
      simp only [start]
      generalize start service t m = left, start other t m' = right at first ⊢
      obtain ⟨x, m₁⟩ := left
      obtain ⟨_, m₁'⟩ := right
      obtain ⟨rfl, hm₁, hx, hend⟩ := first
      cases x with
      | finished r =>
          have second := start_alike h hpace (next r) (hasks.2 r (hend r rfl)) hm₁
          exact ⟨second.running, second.machine, second.asks,
            fun o ho => ⟨r, hend r rfl, second.mayEnd o ho⟩⟩
      | _ =>
          exact ⟨rfl, hm₁, ⟨hx, fun r hr => hasks.2 r (hend r hr)⟩,
            fun o ⟨r, hr, ho⟩ => ⟨r, hend r hr, ho⟩⟩
  | _, .both t u, m, m', hasks, hm => by
      have first := start_alike h hpace t hasks.1 hm
      simp only [start]
      generalize start service t m = left, start other t m' = right at first ⊢
      obtain ⟨x, m₁⟩ := left
      obtain ⟨_, m₁'⟩ := right
      obtain ⟨rfl, hm₁, hx, hend⟩ := first
      have second := Running.join_alike hx hend (start_alike h hpace u hasks.2 hm₁)
      cases x with
      | finished r =>
          cases r with
          | error e => exact ⟨rfl, hm₁, trivial, fun o ho => by subst ho; exact .inl (hend _ rfl)⟩
          | ok a => exact second
      | _ => exact second
  | _, .permitted t, m, m', ht, hm => by
      simp only [start, ← h.permit hm.state, ← hm.permits]
      -- A permit is refused, waited for or held at once, on both machines alike.
      cases hp : service.permit m.state with
      | error e =>
          exact ⟨rfl, hm, trivial,
            fun o ho => by subst ho; exact .inr ⟨e, h.refusal hm.state hp, rfl⟩⟩
      | ok _ =>
          have granted := h.grant hm.state hp
          cases m.permits.take? with
          | none => exact ⟨rfl, ⟨hm.state, hm.now, rfl⟩, ht, fun _ ho => .inl ⟨granted, ho⟩⟩
          | some permits =>
              have body := Running.hold_alike
                (start_alike h hpace t ht (hm.withPermits fun _ => permits))
              exact ⟨body.running, body.machine, body.asks,
                fun o ho => .inl ⟨granted, body.mayEnd o ho⟩⟩
  | _, .within seconds late t, m, m', ht, hm => by
      have body := start_alike h hpace t ht hm
      simp only [start, ← hm.now]
      exact Running.limit_alike _ late body

theorem Running.resume_alike (h : service.Matches other replies P R)
    (hpace : service.SamePace other P R) :
    ∀ {γ : Type} (x : Running Q γ) {m : Machine σ} {m' : Machine τ}, Asks replies P x →
      m.Alike R m' →
      Alike replies P R (MayEnd replies x) (resume service x m) (resume other x m')
  | _, .finished _, _, _, _, hm => ⟨rfl, hm, trivial, fun _ ho => ho⟩
  | _, .asked q ready, m, m', hq, hm => by
      simp only [resume, ← hm.now]
      split
      · exact ⟨congrArg finished (h.outcome q hq hm.state),
          ⟨h.answer q hq hm.state, rfl, hm.permits⟩, trivial,
          fun o ho => by subst ho; exact h.reply q hq hm.state⟩
      · exact ⟨rfl, hm, hq, fun _ ho => ho⟩
  | _, .andThen x next, m, m', hasks, hm => by
      have first := resume_alike h hpace x hasks.1 hm
      simp only [resume]
      generalize resume service x m = left, resume other x m' = right at first ⊢
      obtain ⟨y, m₁⟩ := left
      obtain ⟨_, m₁'⟩ := right
      obtain ⟨rfl, hm₁, hy, hend⟩ := first
      cases y with
      | finished r =>
          have second := Task.start_alike h hpace (next r) (hasks.2 r (hend r rfl)) hm₁
          exact ⟨second.running, second.machine, second.asks,
            fun o ho => ⟨r, hend r rfl, second.mayEnd o ho⟩⟩
      | _ =>
          exact ⟨rfl, hm₁, ⟨hy, fun r hr => hasks.2 r (hend r hr)⟩,
            fun o ⟨r, hr, ho⟩ => ⟨r, hend r hr, ho⟩⟩
  | _, .both x y, m, m', hasks, hm => by
      have first := resume_alike h hpace x hasks.1 hm
      simp only [resume]
      generalize resume service x m = left, resume other x m' = right at first ⊢
      obtain ⟨x', m₁⟩ := left
      obtain ⟨_, m₁'⟩ := right
      obtain ⟨rfl, hm₁, hx, hend⟩ := first
      have second := join_alike hx hend (resume_alike h hpace y hasks.2 hm₁)
      cases x' with
      | finished r =>
          cases r with
          | error e =>
              exact ⟨rfl, abandon_alike y hm₁, trivial,
                fun o ho => by subst ho; exact .inl (hend _ rfl)⟩
          | ok a => exact second
      | _ => exact second
  | _, .queued ticket t, m, m', ht, hm => by
      simp only [resume, ← hm.permits]
      cases m.permits.redeem? ticket with
      | none => exact ⟨rfl, hm, ht, fun _ ho => ho⟩
      | some permits =>
          exact hold_alike (Task.start_alike h hpace t ht (hm.withPermits fun _ => permits))
  | _, .holding x, _, _, hx, hm => hold_alike (resume_alike h hpace x hx hm)
  | _, .within deadline late x, _, _, hx, hm =>
      limit_alike deadline late (resume_alike h hpace x hx hm)

theorem Running.waitFor_state (x : Running Q α) (m : Machine σ) :
    (waitFor x m).state = m.state := by
  unfold waitFor
  split <;> rfl

theorem Running.waitFor_alike (x : Running Q α) {m : Machine σ} {m' : Machine τ}
    (hm : m.Alike R m') : (waitFor x m).Alike R (waitFor x m') := by
  simp only [waitFor, ← hm.permits, ← hm.now]
  split
  · exact ⟨hm.state, rfl, rfl⟩
  · exact hm

/-- Two results of running a task in time, if any, with the same outcome and related states. -/
inductive Task.EndAlike (R : σ → τ → Prop) (mayEnd : Outcome α → Prop) :
    Option (Outcome α × σ) → Option (Outcome α × τ) → Prop where
  | stuck : EndAlike R mayEnd none none
  | ended {r : Outcome α} {s : σ} {s' : τ} (state : R s s') (outcome : mayEnd r) :
      EndAlike R mayEnd (some (r, s)) (some (r, s'))

theorem Task.EndAlike.outcome {mayEnd : Outcome α → Prop} {left : Option (Outcome α × σ)}
    {right : Option (Outcome α × τ)} (h : EndAlike R mayEnd left right) :
    left.map Prod.fst = right.map Prod.fst := by
  cases h <;> rfl

theorem Task.EndAlike.of_some {mayEnd : Outcome α → Prop} {left : Option (Outcome α × σ)}
    {last : Outcome α × τ} (h : EndAlike R mayEnd left (some last)) :
    mayEnd last.1 ∧ ∃ s, R s last.2 := by
  cases h with
  | ended state outcome => exact ⟨outcome, _, state⟩

theorem Running.finish_alike (h : service.Matches other replies P R)
    (hpace : service.SamePace other P R) (bound : Nat) {before : Outcome α → Prop}
    {left : Running Q α × Machine σ} {right : Running Q α × Machine τ}
    (hlook : Alike replies P R before left right) :
    Task.EndAlike R before (finish service bound left) (finish other bound right) := by
  induction bound generalizing left right before with
  | zero =>
      obtain ⟨x, m⟩ := left
      obtain ⟨_, m'⟩ := right
      obtain ⟨rfl, hm, hx, hend⟩ := hlook
      cases x with
      | finished r => exact .ended hm.state (hend r rfl)
      | _ => exact .stuck
  | succ bound ih =>
      obtain ⟨x, m⟩ := left
      obtain ⟨_, m'⟩ := right
      obtain ⟨rfl, hm, hx, hend⟩ := hlook
      have next := resume_alike h hpace x hx (waitFor_alike x hm)
      have rest := ih ⟨next.running, next.machine, next.asks, fun o ho => hend o (next.mayEnd o ho)⟩
      cases x with
      | finished r => exact .ended hm.state (hend r rfl)
      | _ => exact rest

theorem Task.schedule_matches (h : service.Matches other replies P R)
    (hpace : service.SamePace other P R) (permits bound : Nat) {t : Task Q α}
    (ht : Asks replies P t) {s : σ} {s' : τ} (hs : R s s') :
    EndAlike R (MayEnd replies t) (schedule service permits bound t s)
      (schedule other permits bound t s') :=
  Running.finish_alike h hpace bound (start_alike h hpace t ht ⟨hs, rfl, rfl⟩)

/-- How a task ends when it is run in order, or in time on some number of permits. -/
def Task.EndsIn (service : Service Q σ) (s : σ) (t : Task Q α) (last : Outcome α × σ) : Prop :=
  last = t.run service s ∨ ∃ permits bound, t.schedule service permits bound s = some last

/-- A service that matches itself keeps what the match says of its states, and every run on it ends
as the tree of the task allows. -/
theorem Service.Matches.mayEnd {I : σ → Prop}
    (h : service.Matches service replies P fun s s' => s = s' ∧ I s) {t : Task Q α}
    (ht : t.Asks replies P) {s : σ} (hs : I s) {last : Outcome α × σ}
    (hlast : t.EndsIn service s last) : t.MayEnd replies last.1 ∧ I last.2 := by
  rcases hlast with rfl | ⟨permits, bound, hlast⟩
  · have alike := Task.run_matches h t ht ⟨rfl, hs⟩
    exact ⟨alike.mayEnd, alike.state.2⟩
  · have hpace : service.SamePace service P fun s s' => s = s' ∧ I s :=
      ⟨fun _ _ _ _ hs => by rw [hs.1]⟩
    have alike := Task.schedule_matches h hpace permits bound ht ⟨rfl, hs⟩
    rw [hlast] at alike
    obtain ⟨outcome, _, state⟩ := alike.of_some
    exact ⟨outcome, state.1 ▸ state.2⟩

end StakeSnapshot
