import StakeSnapshot.Error

/-!
# Tasks

A task is a computation that asks questions `Q` of its surroundings, possibly several at a time. It
is a tree: what it asks is laid out before anything is answered, so the same task can be run in
order (`Task.run`), in time, or over other questions (`Task.substitute`).
-/

namespace StakeSnapshot

inductive Task (Q : Type → Type) : Type → Type 1 where
  | done {α : Type} (r : Outcome α) : Task Q α
  | ask {α : Type} (question : Q α) : Task Q α
  /-- Goes on with the outcome of a first task, whether it is a value or a failure. -/
  | andThen {α β : Type} (first : Task Q α) (next : Outcome α → Task Q β) : Task Q β
  /-- Two tasks at once. The first failure ends both, that of the left task if both fail. -/
  | both {α β : Type} (left : Task Q α) (right : Task Q β) : Task Q (α × β)
  /-- A task that holds one of the shared permits for as long as it lasts. -/
  | permitted {α : Type} (body : Task Q α) : Task Q α
  /-- A task that is given up, with the error `late`, when it has not ended in time. -/
  | within {α : Type} (seconds : Nat) (late : Error) (body : Task Q α) : Task Q α

/-- What answers the questions `Q`, in a state. A question is taken in first, which says how many
milliseconds the answer will take, and answered after that. -/
structure Service (Q : Type → Type) (σ : Type) where
  accept : {α : Type} → Q α → σ → σ × Nat
  answer : {α : Type} → Q α → σ → Outcome α × σ
  /-- What a task that wants a permit is told, unless it has to wait. -/
  permit : σ → Outcome Unit

namespace Task

variable {Q R : Type → Type} {α β : Type}

instance : Monad (Task Q) where
  pure a := done (.ok a)
  bind t f := andThen t fun
    | .ok a => f a
    | .error e => done (.error e)

/-- Changes the error of a task, if it ends in one. -/
def mapError (f : Error → Error) (t : Task Q α) : Task Q α :=
  andThen t fun r => done (r.mapError f)

/-- Puts a context before the message of a task's error. -/
def context (c : String) (t : Task Q α) : Task Q α :=
  mapError (Error.context c) t

/-- A result that is there without asking. -/
def ofExcept (r : Except Error α) : Task Q α := done (Outcome.ofExcept r)

/-- A result that is there without asking, or a fault. -/
def ofFaulty (r : Except Fault α) : Task Q α := done (r.mapError .fault)

/-- A task that ends in an error. -/
def failWith (e : Error) : Task Q α := done (.error (.error e))

/-- Tasks at once, with the values in the order of the tasks. The failure that comes first in time
ends them all, wherever its task stands and however many there are: none is kept back until the
tasks before it have ended. -/
def all : List (Task Q α) → Task Q (List α)
  | [] => pure []
  | t :: ts => (fun (a, as) => a :: as) <$> both t (all ts)

/-- The same task over other questions. -/
def substitute (f : {γ : Type} → Q γ → Task R γ) : {γ : Type} → Task Q γ → Task R γ
  | _, .done r => .done r
  | _, .ask q => f q
  | _, .andThen t next => .andThen (substitute f t) fun r => substitute f (next r)
  | _, .both t u => .both (substitute f t) (substitute f u)
  | _, .permitted t => .permitted (substitute f t)
  | _, .within seconds late t => .within seconds late (substitute f t)

/-! ## Running in order -/

section Run

variable {σ : Type}

/-- Runs a task as if all answers came at once: questions are asked in order, each task that is
started goes on to its end, and after a failure nothing more is asked. -/
def run (service : Service Q σ) : {γ : Type} → Task Q γ → σ → Outcome γ × σ
  | _, .done r, s => (r, s)
  | _, .ask q, s => service.answer q (service.accept q s).1
  | _, .andThen t next, s =>
    match run service t s with
    | (r, s) => run service (next r) s
  | _, .both t u, s =>
    match run service t s with
    | (.error e, s) => (.error e, s)
    | (.ok a, s) =>
      match run service u s with
      | (.error e, s) => (.error e, s)
      | (.ok b, s) => (.ok (a, b), s)
  | _, .permitted t, s =>
    match service.permit s with
    | .error e => (.error e, s)
    | .ok () => run service t s
  | _, .within _ _ t, s => run service t s

variable (service : Service Q σ) (s : σ)

@[simp] theorem run_done (r : Outcome α) : run service (.done r) s = (r, s) := rfl

@[simp] theorem run_pure (a : α) : run service (pure a) s = (.ok a, s) := rfl

theorem run_ask (q : Q α) :
    run service (.ask q) s = service.answer q (service.accept q s).1 := rfl

theorem run_andThen (t : Task Q α) (next : Outcome α → Task Q β) :
    run service (.andThen t next) s
      = run service (next (run service t s).1) (run service t s).2 := rfl

theorem run_bind (t : Task Q α) (f : α → Task Q β) :
    run service (t >>= f) s =
      match run service t s with
      | (.ok a, s) => run service (f a) s
      | (.error e, s) => (.error e, s) := by
  show run service (.andThen t _) s = _
  rw [run_andThen]
  rcases run service t s with ⟨_ | _, _⟩ <;> rfl

@[simp] theorem run_mapError (f : Error → Error) (t : Task Q α) :
    run service (mapError f t) s
      = ((run service t s).1.mapError f, (run service t s).2) := rfl

@[simp] theorem run_context (c : String) (t : Task Q α) :
    run service (context c t) s
      = ((run service t s).1.context c, (run service t s).2) := rfl

theorem run_within (seconds : Nat) (late : Error) (t : Task Q α) :
    run service (.within seconds late t) s = run service t s := rfl

end Run

end Task

end StakeSnapshot
