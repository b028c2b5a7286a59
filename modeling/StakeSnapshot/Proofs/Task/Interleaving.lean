import Mathlib
import StakeSnapshot.Proofs.Task.Sequence
import StakeSnapshot.Proofs.Task.Steady

/-!
# Tasks at the same time

Several tasks may be under way on one stock of permits, and what happens next is up to their
surroundings: an answer comes, with any outcome, a permit is taken, refused or given back, a part
fails and takes its siblings with it, a task is given up. `Running.Step` and `System.Step` say what
can happen at a moment, without times and without an order in the queue for permits.

A task that rations some questions (`Task.Rationed`) asks them one at a time under a permit, but for
a few at once outside. Of such tasks, however they interleave, no more of these questions are in
flight than there are permits, and a few for each task (`System.inFlight_le`).
-/

namespace StakeSnapshot

open Relation

variable {Q : Type → Type} {α β : Type}

/-! ## What can happen -/

/-- What a task may look like when it has been launched. It may also be left alone for a while. -/
inductive Task.Launches : {γ : Type} → Task Q γ → Running Q γ → Prop where
  | done {γ : Type} (r : Outcome γ) : Launches (.done r) (.finished r)
  | ask {γ : Type} (q : Q γ) (ready : Nat) : Launches (.ask q) (.asked q ready)
  | andThen {γ δ : Type} {t : Task Q γ} {x : Running Q γ} {next : Outcome γ → Task Q δ}
      (ht : Launches t x) : Launches (.andThen t next) (.andThen x next)
  | both {γ δ : Type} {t : Task Q γ} {x : Running Q γ} {u : Task Q δ} {y : Running Q δ}
      (ht : Launches t x) (hu : Launches u y) : Launches (.both t u) (.both x y)
  | permitted {γ : Type} (t : Task Q γ) (ticket : Nat) :
      Launches (.permitted t) (.queued ticket t)
  | within {γ : Type} {t : Task Q γ} {x : Running Q γ} (seconds deadline : Nat) (late : Error)
      (ht : Launches t x) : Launches (.within seconds late t) (.within deadline late x)
  | later {γ : Type} (t : Task Q γ) : Launches t (.andThen (.finished (.ok ())) fun _ => t)

namespace Running

/-- How many permits a task holds. -/
def held : {γ : Type} → Running Q γ → Nat
  | _, .finished _ => 0
  | _, .asked _ _ => 0
  | _, .andThen x _ => held x
  | _, .both x y => held x + held y
  | _, .queued _ _ => 0
  | _, .holding x => held x + 1
  | _, .within _ _ x => held x

/-- How many of some questions a task waits for at a moment. -/
def inFlight (p : {α : Type} → Q α → Bool) : {γ : Type} → Running Q γ → Nat
  | _, .finished _ => 0
  | _, .asked q _ => (p q).toNat
  | _, .andThen x _ => inFlight p x
  | _, .both x y => inFlight p x + inFlight p y
  | _, .queued _ _ => 0
  | _, .holding x => inFlight p x
  | _, .within _ _ x => inFlight p x

/-- One for a task that has not ended. -/
def underWay : Running Q α → Nat
  | .finished _ => 0
  | _ => 1

/-- What can happen next to a task, and to the number of free permits. -/
inductive Step : {γ : Type} → Running Q γ × Nat → Running Q γ × Nat → Prop where
  | answered {γ : Type} (q : Q γ) (ready : Nat) (o : Outcome γ) (free : Nat) :
      Step (.asked q ready, free) (.finished o, free)
  | first {γ δ : Type} {x x' : Running Q γ} {next : Outcome γ → Task Q δ} {free free' : Nat}
      (h : Step (x, free) (x', free')) : Step (.andThen x next, free) (.andThen x' next, free')
  | goOn {γ δ : Type} {r : Outcome γ} {next : Outcome γ → Task Q δ} {x : Running Q δ} {free : Nat}
      (hx : (next r).Launches x) : Step (.andThen (.finished r) next, free) (x, free)
  | left {γ δ : Type} {x x' : Running Q γ} {y : Running Q δ} {free free' : Nat}
      (h : Step (x, free) (x', free')) : Step (.both x y, free) (.both x' y, free')
  | right {γ δ : Type} {x : Running Q γ} {y y' : Running Q δ} {free free' : Nat}
      (h : Step (y, free) (y', free')) : Step (.both x y, free) (.both x y', free')
  | paired {γ δ : Type} (a : γ) (b : δ) (free : Nat) :
      Step (.both (.finished (.ok a)) (.finished (.ok b)), free) (.finished (.ok (a, b)), free)
  | leftFails {γ δ : Type} (e : Failure) (y : Running Q δ) (free : Nat) :
      Step (.both (.finished (.error e) : Running Q γ) y, free)
        (.finished (.error e), free + y.held)
  | rightFails {γ δ : Type} (x : Running Q γ) (e : Failure) (free : Nat) :
      Step (.both x (.finished (.error e) : Running Q δ), free)
        (.finished (.error e), free + x.held)
  | acquire {γ : Type} {t : Task Q γ} {x : Running Q γ} (ticket free : Nat) (hx : t.Launches x) :
      Step (.queued ticket t, free + 1) (.holding x, free)
  | refused {γ : Type} (t : Task Q γ) (ticket free : Nat) (e : Failure) :
      Step (.queued ticket t, free) (.finished (.error e), free)
  | permitted {γ : Type} {x x' : Running Q γ} {free free' : Nat}
      (h : Step (x, free) (x', free')) : Step (.holding x, free) (.holding x', free')
  | release {γ : Type} (r : Outcome γ) (free : Nat) :
      Step (.holding (.finished r), free) (.finished r, free + 1)
  | within {γ : Type} {x x' : Running Q γ} {free free' : Nat} (deadline : Nat) (late : Error)
      (h : Step (x, free) (x', free')) :
      Step (.within deadline late x, free) (.within deadline late x', free')
  | inTime {γ : Type} (deadline : Nat) (late : Error) (r : Outcome γ) (free : Nat) :
      Step (.within deadline late (.finished r), free) (.finished r, free)
  | givenUp {γ : Type} (deadline : Nat) (late : Error) (x : Running Q γ) (free : Nat) :
      Step (.within deadline late x, free) (.finished (.error (.error late)), free + x.held)

end Running

/-! ## Rationed questions -/

section Rationed

variable (p : {α : Type} → Q α → Bool)

/-- The task asks the questions with the property `p` one at a time under a permit, but for at most
`k` at once. -/
def Task.Rationed : Nat → {γ : Type} → Task Q γ → Prop
  | _, _, .done _ => True
  | k, _, .ask q => p q = true → 0 < k
  | k, _, .andThen t next => Rationed k t ∧ ∀ r, Rationed k (next r)
  | k, _, .both t u => ∃ i j, i + j ≤ k ∧ Rationed i t ∧ Rationed j u
  | _, _, .permitted t => t.Sequential
  | k, _, .within _ _ t => Rationed k t

namespace Running

/-- A task under way that does one thing after the other. -/
def Sequential : {γ : Type} → Running Q γ → Prop
  | _, .finished _ => True
  | _, .asked _ _ => True
  | _, .andThen x next => Sequential x ∧ ∀ r, (next r).Sequential
  | _, .both _ _ => False
  | _, .queued _ _ => False
  | _, .holding _ => False
  | _, .within _ _ _ => False

def Rationed : Nat → {γ : Type} → Running Q γ → Prop
  | _, _, .finished _ => True
  | k, _, .asked q _ => p q = true → 0 < k
  | k, _, .andThen x next => Rationed k x ∧ ∀ r, (next r).Rationed p k
  | k, _, .both x y => ∃ i j, i + j ≤ k ∧ Rationed i x ∧ Rationed j y
  | _, _, .queued _ t => t.Sequential
  | _, _, .holding x => x.Sequential
  | k, _, .within _ _ x => Rationed k x

end Running

variable {p : {α : Type} → Q α → Bool}

/-! ### Composed tasks -/

namespace Task

theorem Rationed.mono : ∀ {γ : Type} {t : Task Q γ} {k k' : Nat}, t.Rationed p k → k ≤ k' →
    t.Rationed p k'
  | _, .done _, _, _, _, _ => trivial
  | _, .ask _, _, _, ht, hk => fun hq => Nat.lt_of_lt_of_le (ht hq) hk
  | _, .andThen _ _, _, _, ht, hk => ⟨mono ht.1 hk, fun r => mono (ht.2 r) hk⟩
  | _, .both _ _, _, _, ht, hk => by
      obtain ⟨i, j, hle, hi, hj⟩ := ht
      exact ⟨i, j, Nat.le_trans hle hk, hi, hj⟩
  | _, .permitted _, _, _, ht, _ => ht
  | _, .within _ _ t, _, _, ht, hk => mono (t := t) ht hk

variable {k : Nat}

theorem Rationed.bind {t : Task Q α} {f : α → Task Q β} (ht : t.Rationed p k)
    (hf : ∀ a, (f a).Rationed p k) : (t >>= f).Rationed p k := by
  refine ⟨ht, fun r => ?_⟩
  cases r with
  | ok a => exact hf a
  | error e => trivial

theorem Rationed.map {t : Task Q α} (ht : t.Rationed p k) (f : α → β) : (f <$> t).Rationed p k :=
  ht.bind fun _ => trivial

theorem Rationed.mapError {t : Task Q α} (ht : t.Rationed p k) (f : Error → Error) :
    (t.mapError f).Rationed p k :=
  ⟨ht, fun _ => trivial⟩

theorem Rationed.context {t : Task Q α} (ht : t.Rationed p k) (c : String) :
    (t.context c).Rationed p k :=
  ht.mapError _

/-- Tasks at once that ask nothing outside permits. -/
theorem Rationed.both {t : Task Q α} {u : Task Q β} (ht : t.Rationed p 0) (hu : u.Rationed p 0) :
    (Task.both t u).Rationed p 0 :=
  ⟨0, 0, Nat.le_refl 0, ht, hu⟩

theorem Rationed.all {ts : List (Task Q α)} (hts : ∀ t ∈ ts, t.Rationed p 0) :
    (Task.all ts).Rationed p 0 := by
  induction ts with
  | nil => trivial
  | cons t ts ih =>
      rw [List.forall_mem_cons] at hts
      exact (Rationed.both hts.1 (ih hts.2)).map _

/-- A task without permits over other questions rations what the tasks for these ration. -/
theorem Rationed.substitute {R : Type → Type} {f : {γ : Type} → R γ → Task Q γ}
    (hf : ∀ {γ : Type} (q : R γ), (f q).Rationed p 0) :
    ∀ {γ : Type} {t : Task R γ}, t.Permitless → (t.substitute f).Rationed p 0
  | _, .done _, _ => trivial
  | _, .ask q, _ => hf q
  | _, .andThen _ _, ht => ⟨substitute hf ht.1, fun r => substitute hf (ht.2 r)⟩
  | _, .both _ _, ht => Rationed.both (substitute hf ht.1) (substitute hf ht.2)
  | _, .permitted _, ht => ht.elim
  | _, .within _ _ t, ht => substitute (t := t) hf ht

end Task

/-! ### What a launched task keeps -/

namespace Task

variable {t : Task Q α} {x : Running Q α}

theorem Launches.held (h : t.Launches x) : x.held = 0 := by
  induction h with
  | done r | ask q ready | permitted t ticket | later t => rfl
  | andThen _ ih | within _ _ _ _ ih => exact ih
  | both _ _ iht ihu => exact Nat.add_eq_zero_iff.mpr ⟨iht, ihu⟩

theorem Launches.sequential (h : t.Launches x) (ht : t.Sequential) : x.Sequential := by
  induction h with
  | done r | ask q ready => trivial
  | andThen _ ih => exact ⟨ih ht.1, ht.2⟩
  | both | permitted | within => exact ht.elim
  | later t => exact ⟨trivial, fun _ => ht⟩

theorem Launches.rationed (h : t.Launches x) {k : Nat} (ht : t.Rationed p k) :
    x.Rationed p k := by
  induction h generalizing k with
  | done r => trivial
  | ask q ready => exact ht
  | andThen _ ih => exact ⟨ih ht.1, ht.2⟩
  | both _ _ iht ihu =>
      obtain ⟨i, j, hk, ht, hu⟩ := ht
      exact ⟨i, j, hk, iht ht, ihu hu⟩
  | permitted t ticket => exact ht
  | within _ _ _ _ ih => exact ih ht
  | later t => exact ⟨trivial, fun _ => ht⟩

end Task

/-! ### What a step keeps -/

namespace Running

/-- A permit is held or free. -/
theorem Step.permits {γ : Type} {a b : Running Q γ × Nat} (h : Step a b) :
    b.2 + b.1.held = a.2 + a.1.held := by
  induction h with
  | answered | paired | refused | inTime => rfl
  | first _ ih | within _ _ _ ih => exact ih
  | goOn hx => simp only [held, hx.held]
  | left _ ih | right _ ih | permitted _ ih =>
      simp only [held] at ih ⊢
      omega
  | leftFails | rightFails | givenUp => simp only [held, Nat.zero_add, Nat.add_zero]
  | acquire ticket free hx => simp only [held, hx.held]
  | release => simp only [held]

/-- What can happen can also happen when more permits are free. -/
theorem Step.spare {γ : Type} {a b : Running Q γ × Nat} (h : Step a b) (n : Nat) :
    Step (a.1, a.2 + n) (b.1, b.2 + n) := by
  induction h with
  | answered q ready o free => exact .answered q ready o _
  | first _ ih => exact .first ih
  | goOn hx => exact .goOn hx
  | left _ ih => exact .left ih
  | right _ ih => exact .right ih
  | paired a b free => exact .paired a b _
  | leftFails e y free =>
      rw [Nat.add_right_comm]
      exact .leftFails e y _
  | rightFails x e free =>
      rw [Nat.add_right_comm]
      exact .rightFails x e _
  | acquire ticket free hx =>
      rw [Nat.add_right_comm]
      exact .acquire ticket _ hx
  | refused t ticket free e => exact .refused t ticket _ e
  | permitted _ ih => exact .permitted ih
  | release r free =>
      rw [Nat.add_right_comm]
      exact .release r _
  | within deadline late _ ih => exact .within deadline late ih
  | inTime deadline late r free => exact .inTime deadline late r _
  | givenUp deadline late x free =>
      rw [Nat.add_right_comm]
      exact .givenUp deadline late x _

theorem Step.sequential {γ : Type} {a b : Running Q γ × Nat} (h : Step a b)
    (ha : a.1.Sequential) : b.1.Sequential := by
  induction h with
  | answered => trivial
  | first _ ih => exact ⟨ih ha.1, ha.2⟩
  | goOn hx => exact hx.sequential (ha.2 _)
  | _ => exact ha.elim

theorem Step.rationed {γ : Type} {a b : Running Q γ × Nat} (h : Step a b) {k : Nat}
    (ha : a.1.Rationed p k) : b.1.Rationed p k := by
  induction h generalizing k with
  | answered | paired | leftFails | rightFails | refused | release | inTime | givenUp => trivial
  | first _ ih => exact ⟨ih ha.1, ha.2⟩
  | goOn hx => exact hx.rationed (ha.2 _)
  | left _ ih =>
      obtain ⟨i, j, hk, hx, hy⟩ := ha
      exact ⟨i, j, hk, ih hx, hy⟩
  | right _ ih =>
      obtain ⟨i, j, hk, hx, hy⟩ := ha
      exact ⟨i, j, hk, hx, ih hy⟩
  | acquire _ _ hx => exact hx.sequential ha
  | permitted h _ => exact h.sequential ha
  | within _ _ _ ih => exact ih ha

/-! ### How much is in flight -/

theorem Sequential.inFlight_le : ∀ {γ : Type} {x : Running Q γ}, x.Sequential → x.inFlight p ≤ 1
  | _, .finished _, _ => Nat.zero_le _
  | _, .asked q _, _ => Bool.toNat_le (p q)
  | _, .andThen x _, hx => inFlight_le (x := x) hx.1

theorem Rationed.inFlight_le : ∀ {γ : Type} {k : Nat} {x : Running Q γ}, x.Rationed p k →
    x.inFlight p ≤ x.held + k
  | _, _, .finished _, _ => Nat.zero_le _
  | _, k, .asked q _, hq => by
      simp only [inFlight, held]
      cases h : p q with
      | false => exact Nat.zero_le _
      | true =>
          have := hq h
          simp only [Bool.toNat_true]
          omega
  | _, _, .andThen x _, hx => inFlight_le (x := x) hx.1
  | _, _, .both x y, hxy => by
      obtain ⟨i, j, hk, hx, hy⟩ := hxy
      have hx := inFlight_le hx
      have hy := inFlight_le hy
      simp only [inFlight, held]
      omega
  | _, _, .queued _ _, _ => Nat.zero_le _
  | _, _, .holding x, hx => by
      have hx : x.inFlight p ≤ 1 := Sequential.inFlight_le hx
      simp only [inFlight, held]
      omega
  | _, _, .within _ _ x, hx => inFlight_le (x := x) hx

/-- A task that has ended has nothing in flight. -/
theorem Rationed.inFlight_le_underWay {k : Nat} {x : Running Q α} (h : x.Rationed p k) :
    x.inFlight p ≤ x.held + k * x.underWay := by
  cases x with
  | finished r => exact Nat.zero_le _
  | _ => simpa only [underWay, Nat.mul_one] using h.inFlight_le

end Running

end Rationed

/-! ## Systems -/

/-- Tasks that share a stock of permits. -/
structure System (Q : Type → Type) where
  tasks : List (Σ α : Type, Running Q α)
  /-- How many permits are free. -/
  free : Nat

namespace System

/-- What can happen next when tasks of some kind may begin at any moment. A task that is dropped
gives back what it holds. -/
inductive Step (mayBegin : {α : Type} → Task Q α → Prop) : System Q → System Q → Prop where
  | begin {α : Type} {t : Task Q α} {x : Running Q α} (tasks : List (Σ α, Running Q α))
      (free : Nat) (ht : mayBegin t) (hx : t.Launches x) :
      Step mayBegin ⟨tasks, free⟩ ⟨⟨α, x⟩ :: tasks, free⟩
  | move {α : Type} {x x' : Running Q α} {free free' : Nat}
      (before after : List (Σ α, Running Q α)) (h : Running.Step (x, free) (x', free')) :
      Step mayBegin ⟨before ++ ⟨α, x⟩ :: after, free⟩ ⟨before ++ ⟨α, x'⟩ :: after, free'⟩
  | drop {α : Type} (x : Running Q α) (before after : List (Σ α, Running Q α)) (free : Nat) :
      Step mayBegin ⟨before ++ ⟨α, x⟩ :: after, free⟩ ⟨before ++ after, free + x.held⟩

/-- The systems that can come about on a number of permits. A question may wait for any time and have
any outcome, so the tasks may share more than the permits: a task that waits while another one fills
a cell for both is one whose question of the cell waits. -/
def Reachable (mayBegin : {α : Type} → Task Q α → Prop) (permits : Nat) : System Q → Prop :=
  ReflTransGen (Step mayBegin) ⟨[], permits⟩

def held (s : System Q) : Nat := (s.tasks.map fun x => x.2.held).sum

/-- How many of some questions all tasks wait for at a moment. -/
def inFlight (p : {α : Type} → Q α → Bool) (s : System Q) : Nat :=
  (s.tasks.map fun x => x.2.inFlight p).sum

/-- How many tasks have not ended. -/
def underWay (s : System Q) : Nat := (s.tasks.map fun x => x.2.underWay).sum

/-- All tasks ration the questions with the property `p`, and every permit is held or free. -/
structure Rationed (p : {α : Type} → Q α → Bool) (k permits : Nat) (s : System Q) : Prop where
  each : ∀ x ∈ s.tasks, x.2.Rationed p k
  permits : s.free + s.held = permits

variable {mayBegin : {α : Type} → Task Q α → Prop} {p : {α : Type} → Q α → Bool}
  {k permits : Nat} {s s' : System Q}

theorem Step.rationed (hbegin : ∀ {α : Type} (t : Task Q α), mayBegin t → t.Rationed p k)
    (h : Step mayBegin s s') (hs : s.Rationed p k permits) : s'.Rationed p k permits := by
  obtain ⟨each, total⟩ := hs
  cases h with
  | begin tasks free ht hx =>
      refine ⟨List.forall_mem_cons.mpr ⟨hx.rationed (hbegin _ ht), each⟩, ?_⟩
      simpa only [held, List.map_cons, List.sum_cons, hx.held, Nat.zero_add] using total
  | move before after h =>
      simp only [List.forall_mem_append, List.forall_mem_cons] at each ⊢
      obtain ⟨hbefore, hx, hafter⟩ := each
      refine ⟨?_, ?_⟩
      · simp only [List.forall_mem_append, List.forall_mem_cons]
        exact ⟨hbefore, h.rationed hx, hafter⟩
      · have kept := h.permits
        simp only [held, List.map_append, List.map_cons, List.sum_append, List.sum_cons]
          at total kept ⊢
        omega
  | drop x before after free =>
      simp only [List.forall_mem_append, List.forall_mem_cons] at each
      obtain ⟨hbefore, -, hafter⟩ := each
      refine ⟨List.forall_mem_append.mpr ⟨hbefore, hafter⟩, ?_⟩
      simp only [held, List.map_append, List.map_cons, List.sum_append, List.sum_cons] at total ⊢
      omega

theorem Reachable.rationed (hbegin : ∀ {α : Type} (t : Task Q α), mayBegin t → t.Rationed p k)
    (h : Reachable mayBegin permits s) : s.Rationed p k permits := by
  induction h with
  | refl => exact ⟨fun x hx => (List.not_mem_nil hx).elim, Nat.add_zero permits⟩
  | tail _ hstep ih => exact hstep.rationed hbegin ih

/-- No more is in flight than there are permits, and a few questions for each task under way. -/
theorem Rationed.inFlight_le (h : s.Rationed p k permits) :
    s.inFlight p ≤ permits + k * s.underWay := by
  obtain ⟨each, total⟩ := h
  have sum : ∀ tasks : List (Σ α, Running Q α), (∀ x ∈ tasks, x.2.Rationed p k) →
      (tasks.map fun x => x.2.inFlight p).sum ≤
        (tasks.map fun x => x.2.held).sum + k * (tasks.map fun x => x.2.underWay).sum := by
    intro tasks each
    induction tasks with
    | nil => exact Nat.zero_le _
    | cons x tasks ih =>
        rw [List.forall_mem_cons] at each
        have one := each.1.inFlight_le_underWay
        have rest := ih each.2
        simp only [List.map_cons, List.sum_cons, Nat.mul_add]
        omega
  calc s.inFlight p ≤ s.held + k * s.underWay := sum s.tasks each
    _ ≤ permits + k * s.underWay := Nat.add_le_add_right (by omega) _

end System

end StakeSnapshot
