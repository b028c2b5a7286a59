import StakeSnapshot.Task.Basic

/-!
# Running tasks in time

Answers take time here, so tasks wait: for answers, and for permits, which are given in the order in
which they are asked for. A task under way (`Running`) is looked at again whenever an answer is
ready, a permit has been given or a time limit is over. Looking at it moves every part of it as far
as it goes at that moment, left before right; a part that has ended is looked at before its limit
is. When a part fails, its siblings are dropped: their permits go back, and the answers that they
wait for are never fetched.
-/

namespace StakeSnapshot

/-- The shared permits: how many are free, who waits for one, and who was given one and has not
noticed yet. Tasks that wait are told apart by tickets. -/
structure Permits where
  free : Nat
  waiting : List Nat
  granted : List Nat
  nextTicket : Nat

namespace Permits

def ofCount (n : Nat) : Permits := ⟨n, [], [], 0⟩

/-- Takes a free permit. -/
def take? (p : Permits) : Option Permits :=
  match p.free with
  | 0 => none
  | free + 1 => some { p with free }

/-- Queues up for a permit. -/
def enqueue (p : Permits) : Nat × Permits :=
  (p.nextTicket,
    { p with waiting := p.waiting ++ [p.nextTicket], nextTicket := p.nextTicket + 1 })

/-- Gives a permit back, to the first in the queue if there is one. -/
def release (p : Permits) : Permits :=
  match p.waiting with
  | [] => { p with free := p.free + 1 }
  | ticket :: waiting => { p with waiting, granted := p.granted ++ [ticket] }

/-- Notices a permit that was given to a ticket. -/
def redeem? (p : Permits) (ticket : Nat) : Option Permits :=
  if ticket ∈ p.granted then some { p with granted := p.granted.erase ticket } else none

/-- Gives a ticket up, and the permit with it if it was given one. -/
def forget (p : Permits) (ticket : Nat) : Permits :=
  match p.redeem? ticket with
  | some p => p.release
  | none => { p with waiting := p.waiting.erase ticket }

end Permits

/-- What tasks run on: the state of the service, the time in milliseconds, and the permits. -/
structure Machine (σ : Type) where
  state : σ
  now : Nat
  permits : Permits

/-- A task under way. -/
inductive Running (Q : Type → Type) : Type → Type 1 where
  | finished {α : Type} (r : Outcome α) : Running Q α
  /-- Waits for an answer that is ready at some time. -/
  | asked {α : Type} (question : Q α) (ready : Nat) : Running Q α
  | andThen {α β : Type} (first : Running Q α) (next : Outcome α → Task Q β) : Running Q β
  | both {α β : Type} (left : Running Q α) (right : Running Q β) : Running Q (α × β)
  /-- Waits for a permit. -/
  | queued {α : Type} (ticket : Nat) (body : Task Q α) : Running Q α
  | holding {α : Type} (body : Running Q α) : Running Q α
  | within {α : Type} (deadline : Nat) (late : Error) (body : Running Q α) : Running Q α

namespace Running

variable {Q : Type → Type} {σ α β : Type}

/-- Drops a task: what it holds goes back. -/
def abandon : {γ : Type} → Running Q γ → Machine σ → Machine σ
  | _, .finished _, m => m
  | _, .asked _ _, m => m
  | _, .andThen r _, m => abandon r m
  | _, .both r u, m => abandon u (abandon r m)
  | _, .queued ticket _, m => { m with permits := m.permits.forget ticket }
  | _, .holding r, m =>
    let m := abandon r m
    { m with permits := m.permits.release }
  | _, .within _ _ r, m => abandon r m

/-- Puts two tasks together, after both were looked at. -/
def join (left : Running Q α) (right : Running Q β) (m : Machine σ) :
    Running Q (α × β) × Machine σ :=
  match left, right with
  | .finished (.ok a), .finished (.ok b) => (.finished (.ok (a, b)), m)
  | left, .finished (.error e) => (.finished (.error e), abandon left m)
  | left, right => (.both left right, m)

/-- Gives the permit back if the task has ended. -/
def hold : Running Q α × Machine σ → Running Q α × Machine σ
  | (.finished r, m) => (.finished r, { m with permits := m.permits.release })
  | (r, m) => (.holding r, m)

/-- Gives the task up if it has not ended in time. -/
def limit (deadline : Nat) (late : Error) :
    Running Q α × Machine σ → Running Q α × Machine σ
  | (.finished r, m) => (.finished r, m)
  | (r, m) =>
    if deadline ≤ m.now then (.finished (.error (.error late)), abandon r m)
    else (.within deadline late r, m)

/-- The next time at which something happens of itself. -/
def nextEvent : {γ : Type} → Running Q γ → Option Nat
  | _, .finished _ => none
  | _, .asked _ ready => some ready
  | _, .andThen r _ => nextEvent r
  | _, .both r u =>
    match nextEvent r, nextEvent u with
    | some a, some b => some (min a b)
    | some a, none => some a
    | none, b => b
  | _, .queued _ _ => none
  | _, .holding r => nextEvent r
  | _, .within deadline _ r =>
    match nextEvent r with
    | some a => some (min deadline a)
    | none => some deadline

end Running

namespace Task

variable {Q : Type → Type} {σ : Type} (service : Service Q σ)

/-- Starts a task and moves it as far as it goes. -/
def start : {γ : Type} → Task Q γ → Machine σ → Running Q γ × Machine σ
  | _, .done r, m => (.finished r, m)
  | _, .ask q, m =>
    let (s, delay) := service.accept q m.state
    if delay = 0 then
      let (r, s) := service.answer q s
      (.finished r, { m with state := s })
    else (.asked q (m.now + delay), { m with state := s })
  | _, .andThen t next, m =>
    match start t m with
    | (.finished r, m) => start (next r) m
    | (r, m) => (.andThen r next, m)
  | _, .both t u, m =>
    match start t m with
    | (.finished (.error e), m) => (.finished (.error e), m)
    | (r, m) =>
      let (u, m) := start u m
      r.join u m
  | _, .permitted t, m =>
    match service.permit m.state with
    | .error e => (.finished (.error e), m)
    | .ok () =>
      match m.permits.take? with
      | some permits => Running.hold (start t { m with permits })
      | none =>
        let (ticket, permits) := m.permits.enqueue
        (.queued ticket t, { m with permits })
  | _, .within seconds late t, m =>
    Running.limit (m.now + 1000 * seconds) late (start t m)

end Task

namespace Running

variable {Q : Type → Type} {σ : Type} (service : Service Q σ)

/-- Moves a task as far as it goes at this moment. -/
def resume : {γ : Type} → Running Q γ → Machine σ → Running Q γ × Machine σ
  | _, .finished r, m => (.finished r, m)
  | _, .asked q ready, m =>
    if ready ≤ m.now then
      let (r, s) := service.answer q m.state
      (.finished r, { m with state := s })
    else (.asked q ready, m)
  | _, .andThen r next, m =>
    match resume r m with
    | (.finished o, m) => Task.start service (next o) m
    | (r, m) => (.andThen r next, m)
  | _, .both r u, m =>
    match resume r m with
    | (.finished (.error e), m) => (.finished (.error e), abandon u m)
    | (r, m) =>
      let (u, m) := resume u m
      r.join u m
  | _, .queued ticket t, m =>
    match m.permits.redeem? ticket with
    | some permits => hold (Task.start service t { m with permits })
    | none => (.queued ticket t, m)
  | _, .holding r, m => hold (resume r m)
  | _, .within deadline late r, m => limit deadline late (resume r m)

/-- The machine at the moment at which the task has to be looked at again: at once if a permit has
been given, and otherwise at its next event. -/
def waitFor {α : Type} (r : Running Q α) (m : Machine σ) : Machine σ :=
  if m.permits.granted.isEmpty then { m with now := max m.now (r.nextEvent.getD m.now) } else m

/-- Looks at a task until it ends, at most as often as the bound says. -/
def finish {α : Type} : Nat → Running Q α × Machine σ → Option (Outcome α × σ)
  | _, (.finished r, m) => some (r, m.state)
  | 0, _ => none
  | bound + 1, (r, m) => finish bound (resume service r (waitFor r m))

end Running

/-- Runs a task in time, from time zero on, on a number of permits. -/
def Task.schedule {Q : Type → Type} {σ α : Type} (service : Service Q σ) (permits bound : Nat)
    (t : Task Q α) (s : σ) : Option (Outcome α × σ) :=
  Running.finish service bound (Task.start service t ⟨s, 0, .ofCount permits⟩)

end StakeSnapshot
