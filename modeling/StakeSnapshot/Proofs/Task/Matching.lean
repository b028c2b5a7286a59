import StakeSnapshot.Proofs.Task.Outcomes

/-!
# Services that a task cannot tell apart

Two services match if, in related states, they reply alike to the questions with a property `P` and
stay in related states. A task all of whose questions have that property then runs alike on both
(`run_matches`). The services may differ in what they keep: one of them may note what it is asked
(`Service.noting`), or have no state at all (`Service.fixed`).
-/

namespace StakeSnapshot

variable {Q : Type → Type} {σ τ α β ν : Type}

/-- Two services that reply alike to the questions with the property `P`, in states related by
`R`, and as `replies` allows. -/
structure Service.Matches (service : Service Q σ) (other : Service Q τ) (replies : Replies Q)
    (P : {α : Type} → Q α → Prop) (R : σ → τ → Prop) : Prop where
  accept {α : Type} (q : Q α) {s : σ} {t : τ} :
    P q → R s t → R (service.accept q s).1 (other.accept q t).1
  outcome {α : Type} (q : Q α) {s : σ} {t : τ} :
    P q → R s t → (service.answer q s).1 = (other.answer q t).1
  answer {α : Type} (q : Q α) {s : σ} {t : τ} :
    P q → R s t → R (service.answer q s).2 (other.answer q t).2
  reply {α : Type} (q : Q α) {s : σ} {t : τ} :
    P q → R s t → replies.answer q (service.answer q s).1
  permit {s : σ} {t : τ} : R s t → service.permit s = other.permit t
  grant {s : σ} {t : τ} : R s t → service.permit s = .ok () → replies.grants
  refusal {s : σ} {t : τ} {e : Failure} :
    R s t → service.permit s = .error e → replies.refusal e

namespace Task

variable {service : Service Q σ} {other : Service Q τ} {replies : Replies Q}
  {P : {α : Type} → Q α → Prop} {R : σ → τ → Prop}

/-- Two runs with the same outcome, one that the task may have, and related states. -/
structure RunsAlike (replies : Replies Q) (R : σ → τ → Prop) (t : Task Q α)
    (left : Outcome α × σ) (right : Outcome α × τ) : Prop where
  outcome : left.1 = right.1
  state : R left.2 right.2
  mayEnd : MayEnd replies t left.1

/-- Runs that are alike in the first part of a task, and then in what comes after it. -/
theorem RunsAlike.andThen {t : Task Q α} {next : Outcome α → Task Q β} {s : σ} {s' : τ}
    (first : RunsAlike replies R t (run service t s) (run other t s'))
    (second : RunsAlike replies R (next (run service t s).1)
      (run service (next (run service t s).1) (run service t s).2)
      (run other (next (run service t s).1) (run other t s').2)) :
    RunsAlike replies R (.andThen t next) (run service (.andThen t next) s)
      (run other (.andThen t next) s') := by
  rw [run_andThen, run_andThen, ← first.outcome]
  exact ⟨second.outcome, second.state, _, first.mayEnd, second.mayEnd⟩

theorem run_matches (h : service.Matches other replies P R) :
    ∀ {γ : Type} (t : Task Q γ) {s : σ} {s' : τ}, Asks replies P t → R s s' →
      RunsAlike replies R t (run service t s) (run other t s')
  | _, .done _, _, _, _, hs => ⟨rfl, hs, rfl⟩
  | _, .ask q, _, _, hq, hs =>
      have hs := h.accept q hq hs
      ⟨h.outcome q hq hs, h.answer q hq hs, h.reply q hq hs⟩
  | _, .andThen t next, s, _, hasks, hs => by
      have first := run_matches h t hasks.1 hs
      have hnext := hasks.2 _ first.mayEnd
      exact first.andThen (run_matches h (next (run service t s).1) hnext first.state)
  | _, .both t u, s, s', hasks, hs => by
      have left := run_matches h t hasks.1 hs
      simp only [run]
      generalize run service t s = x, run other t s' = y at left ⊢
      obtain ⟨r, s₁⟩ := x
      obtain ⟨_, s₁'⟩ := y
      obtain ⟨rfl, hs₁, hr⟩ := left
      cases r with
      | error e => exact ⟨rfl, hs₁, .inl hr⟩
      | ok a =>
          have right := run_matches h u hasks.2 hs₁
          dsimp only
          generalize run service u s₁ = x, run other u s₁' = y at right ⊢
          obtain ⟨r, s₂⟩ := x
          obtain ⟨_, s₂'⟩ := y
          obtain ⟨rfl, hs₂, hr'⟩ := right
          cases r with
          | error e => exact ⟨rfl, hs₂, .inr hr'⟩
          | ok b => exact ⟨rfl, hs₂, hr, hr'⟩
  | _, .permitted t, s, s', ht, hs => by
      simp only [run, ← h.permit hs]
      cases hp : service.permit s with
      | error e => exact ⟨rfl, hs, .inr ⟨e, h.refusal hs hp, rfl⟩⟩
      | ok _ =>
          have body := run_matches h t ht hs
          exact ⟨body.outcome, body.state, .inl ⟨h.grant hs hp, body.mayEnd⟩⟩
  | _, .within _ _ t, s, s', ht, hs => by
      have body := run_matches h t ht hs
      exact ⟨body.outcome, body.state, .inl body.mayEnd⟩

/-- What a task asks after its first part has to be known for one value of that part only, the one
that it has in the run. -/
theorem run_bind_matches (h : service.Matches other replies P R) {t : Task Q α} {f : α → Task Q β}
    (ht : Asks replies P t) {s : σ} {s' : τ} (hs : R s s')
    (hf : ∀ a, (run service t s).1 = .ok a → Asks replies P (f a)) :
    RunsAlike replies R (t >>= f) (run service (t >>= f) s) (run other (t >>= f) s') := by
  have first := run_matches h t ht hs
  refine first.andThen (run_matches h _ ?_ first.state)
  cases hr : (run service t s).1 with
  | ok a => exact hf a hr
  | error e => trivial

end Task

end StakeSnapshot
