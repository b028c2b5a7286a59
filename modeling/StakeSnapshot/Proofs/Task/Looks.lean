import StakeSnapshot.Proofs.Task.Interleaving

/-!
# Looking at a task is one of the interleavings

A machine moves a task as far as it goes at a moment, left before right. All of this can happen step
by step: starting a task is to launch it and to take some steps (`Task.start_steps`), and so is
every later look at it (`Running.resume_steps`). A permit that was given to a task which has not
noticed yet counts as free.
-/

namespace StakeSnapshot

open Relation

variable {Q : Type → Type} {σ α β : Type}

/-- The permits that nobody holds. -/
def Permits.available (p : Permits) : Nat := p.free + p.granted.length

namespace Permits

variable {p p' : Permits} {ticket : Nat}

theorem available_take (h : p.take? = some p') : p.available = p'.available + 1 := by
  unfold take? at h
  split at h
  · cases h
  · next hfree =>
      cases h
      simp only [available, hfree]
      omega

theorem available_release (p : Permits) : p.release.available = p.available + 1 := by
  unfold release
  split
  · simp only [available]
    omega
  · simp only [available, List.length_append, List.length_singleton]
    omega

theorem available_redeem (h : p.redeem? ticket = some p') :
    p.available = p'.available + 1 := by
  unfold redeem? at h
  split at h
  · next hmem =>
      cases h
      have positive := List.length_pos_of_mem hmem
      simp only [available, List.length_erase_of_mem hmem]
      omega
  · cases h

theorem available_forget (p : Permits) (ticket : Nat) :
    (p.forget ticket).available = p.available := by
  unfold forget
  split
  · next h => rw [available_release, available_redeem h]
  · rfl

end Permits

/-- The permits of a machine that nobody holds. -/
def Machine.available (m : Machine σ) : Nat := m.permits.available

namespace Running

/-- A task that is dropped gives back what it holds. -/
theorem available_abandon : ∀ {γ : Type} (x : Running Q γ) (m : Machine σ),
    (x.abandon m).available = m.available + x.held
  | _, .finished _, _ => rfl
  | _, .asked _ _, _ => rfl
  | _, .andThen x _, m => available_abandon x m
  | _, .both x y, m => by
      rw [abandon, available_abandon y, available_abandon x, held, Nat.add_assoc]
  | _, .queued ticket _, m => Permits.available_forget m.permits ticket
  | _, .holding x, m => by
      rw [abandon, held, ← Nat.add_assoc, ← available_abandon x m]
      exact Permits.available_release _
  | _, .within _ _ x, m => available_abandon x m

/-- A task can come from one moment to another, with these numbers of free permits. -/
abbrev Steps : Running Q α × Nat → Running Q α × Nat → Prop := ReflTransGen Step

/-- What a part of a task can do, it can do in its place. -/
theorem Steps.inside (place : Running Q α → Running Q β)
    (hplace : ∀ {x x' : Running Q α} {free free' : Nat}, Step (x, free) (x', free') →
      Step (place x, free) (place x', free'))
    {a b : Running Q α × Nat} (h : Steps a b) : Steps (place a.1, a.2) (place b.1, b.2) := by
  induction h with
  | refl => exact .refl
  | tail _ hstep ih => exact ih.tail (hplace hstep)

theorem Steps.spare {a b : Running Q α × Nat} (h : Steps a b) (n : Nat) :
    Steps (a.1, a.2 + n) (b.1, b.2 + n) := by
  induction h with
  | refl => exact .refl
  | tail _ hstep ih => exact ih.tail (hstep.spare n)

theorem join_steps (x : Running Q α) (y : Running Q β) (m : Machine σ) :
    Steps (.both x y, m.available) ((join x y m).1, (join x y m).2.available) := by
  unfold join
  split
  · next a b => exact .single (.paired a b _)
  · next e =>
      rw [available_abandon]
      exact .single (.rightFails x e _)
  · exact .refl

theorem hold_steps (now : Running Q α × Machine σ) :
    Steps (.holding now.1, now.2.available) ((hold now).1, (hold now).2.available) := by
  obtain ⟨x, m⟩ := now
  cases x with
  | finished r =>
      have released : (hold ((.finished r : Running Q α), m)).2.available = m.available + 1 :=
        Permits.available_release m.permits
      rw [released]
      exact .single (.release r _)
  | _ => exact .refl

theorem limit_steps (deadline : Nat) (late : Error) (now : Running Q α × Machine σ) :
    Steps (.within deadline late now.1, now.2.available)
      ((limit deadline late now).1, (limit deadline late now).2.available) := by
  obtain ⟨x, m⟩ := now
  cases x with
  | finished r => exact .single (.inTime deadline late r _)
  | _ =>
      simp only [limit]
      split
      · rw [available_abandon]
        exact .single (.givenUp deadline late _ _)
      · exact .refl

end Running

open Running in
/-- To start a task is to launch it, and to take some steps. -/
theorem Task.start_steps (service : Service Q σ) : ∀ {γ : Type} (t : Task Q γ) (m : Machine σ),
    ∃ x, t.Launches x ∧
      Steps (x, m.available) ((start service t m).1, (start service t m).2.available)
  | _, .done r, m => ⟨_, .done r, .refl⟩
  | _, .ask q, m => by
      simp only [start]
      split
      · exact ⟨_, .ask q 0, .single (.answered q 0 _ _)⟩
      · exact ⟨_, .ask q _, .refl⟩
  | _, .andThen t next, m => by
      obtain ⟨x, hx, steps⟩ := start_steps service t m
      have first := steps.inside (.andThen · next) .first
      simp only [start]
      generalize start service t m = now at first ⊢
      obtain ⟨y, m₁⟩ := now
      cases y with
      | finished r =>
          obtain ⟨z, hz, rest⟩ := start_steps service (next r) m₁
          exact ⟨_, .andThen hx, first.trans (.head (.goOn hz) rest)⟩
      | _ => exact ⟨_, .andThen hx, first⟩
  | _, .both t u, m => by
      obtain ⟨x, hx, first⟩ := start_steps service t m
      simp only [start]
      generalize start service t m = now at first ⊢
      obtain ⟨y, m₁⟩ := now
      obtain ⟨z, hz, second⟩ := start_steps service u m₁
      have joined := join_steps y (start service u m₁).1 (start service u m₁).2
      have steps := (first.inside (.both · z) .left).trans
        ((second.inside (.both y ·) .right).trans joined)
      cases y with
      | finished r =>
          cases r with
          | ok a => exact ⟨_, .both hx hz, steps⟩
          | error e =>
              -- The right task has not been looked at, so it holds nothing.
              refine ⟨_, .both hx (.later u), ?_⟩
              exact (first.inside (.both · _) .left).tail (.leftFails e _ _)
      | _ => exact ⟨_, .both hx hz, steps⟩
  | _, .permitted t, m => by
      simp only [start]
      split
      · exact ⟨_, .permitted t 0, .single (.refused t 0 _ _)⟩
      · split
        · next permits htake =>
            obtain ⟨x, hx, body⟩ := start_steps service t { m with permits }
            have taken : m.available = permits.available + 1 := Permits.available_take htake
            have steps := (body.inside .holding .permitted).trans (hold_steps _)
            refine ⟨_, .permitted t 0, ?_⟩
            rw [taken]
            exact .head (.acquire 0 _ hx) steps
        · exact ⟨_, .permitted t _, .refl⟩
  | _, .within seconds late t, m => by
      obtain ⟨x, hx, body⟩ := start_steps service t m
      have steps := body.inside (.within (m.now + 1000 * seconds) late ·) (.within _ late)
      exact ⟨_, .within seconds _ late hx, steps.trans (limit_steps _ late _)⟩

/-- To look at a task is to take some steps. -/
theorem Running.resume_steps (service : Service Q σ) : ∀ {γ : Type} (x : Running Q γ)
    (m : Machine σ),
    Steps (x, m.available) ((resume service x m).1, (resume service x m).2.available)
  | _, .finished r, m => .refl
  | _, .asked q ready, m => by
      simp only [resume]
      split
      · exact .single (.answered q ready _ _)
      · exact .refl
  | _, .andThen x next, m => by
      have first := (resume_steps service x m).inside (.andThen · next) .first
      simp only [resume]
      generalize resume service x m = now at first ⊢
      obtain ⟨y, m₁⟩ := now
      cases y with
      | finished r =>
          obtain ⟨z, hz, rest⟩ := Task.start_steps service (next r) m₁
          exact first.trans (.head (.goOn hz) rest)
      | _ => exact first
  | _, .both x u, m => by
      have first := (resume_steps service x m).inside (.both · u) .left
      simp only [resume]
      generalize resume service x m = now at first ⊢
      obtain ⟨y, m₁⟩ := now
      have second := (resume_steps service u m₁).inside (.both y ·) .right
      have joined := join_steps y (resume service u m₁).1 (resume service u m₁).2
      cases y with
      | finished r =>
          cases r with
          | ok a => exact first.trans (second.trans joined)
          | error e =>
              rw [available_abandon]
              exact first.tail (.leftFails e u _)
      | _ => exact first.trans (second.trans joined)
  | _, .queued ticket t, m => by
      simp only [resume]
      split
      · next permits hredeem =>
          obtain ⟨x, hx, body⟩ := Task.start_steps service t { m with permits }
          have taken : m.available = permits.available + 1 := Permits.available_redeem hredeem
          have steps := (body.inside .holding .permitted).trans (hold_steps _)
          rw [taken]
          exact .head (.acquire ticket _ hx) steps
      · exact .refl
  | _, .holding x, m => by
      have body := (resume_steps service x m).inside .holding .permitted
      exact body.trans (hold_steps _)
  | _, .within deadline late x, m => by
      have body := (resume_steps service x m).inside (.within deadline late ·)
        (.within deadline late)
      exact body.trans (limit_steps deadline late _)

/-! ## Machines in a system -/

namespace System

variable {mayBegin : {α : Type} → Task Q α → Prop} {permits : Nat}
  {before after : List (Σ α, Running Q α)}

theorem Reachable.steps {a b : Running Q α × Nat}
    (h : Reachable mayBegin permits ⟨before ++ ⟨α, a.1⟩ :: after, a.2⟩)
    (hsteps : Running.Steps a b) :
    Reachable mayBegin permits ⟨before ++ ⟨α, b.1⟩ :: after, b.2⟩ := by
  induction hsteps with
  | refl => exact h
  | tail _ hstep ih => exact ih.tail (.move before after hstep)

/-- A machine may start another task in a system. -/
theorem Reachable.start {tasks : List (Σ α, Running Q α)} {service : Service Q σ} {m : Machine σ}
    (h : Reachable mayBegin permits ⟨tasks, m.available⟩) {t : Task Q α} (ht : mayBegin t) :
    Reachable mayBegin permits
      ⟨⟨α, (Task.start service t m).1⟩ :: tasks, (Task.start service t m).2.available⟩ := by
  obtain ⟨x, hx, hsteps⟩ := Task.start_steps service t m
  have begun : Reachable mayBegin permits ⟨[] ++ ⟨α, x⟩ :: tasks, m.available⟩ :=
    h.tail (.begin tasks _ ht hx)
  exact begun.steps hsteps

/-- A machine may look at any task of a system. -/
theorem Reachable.resume {service : Service Q σ} {m : Machine σ} {x : Running Q α}
    (h : Reachable mayBegin permits ⟨before ++ ⟨α, x⟩ :: after, m.available⟩) :
    Reachable mayBegin permits
      ⟨before ++ ⟨α, (x.resume service m).1⟩ :: after, (x.resume service m).2.available⟩ :=
  h.steps (x.resume_steps service m)

end System

end StakeSnapshot
