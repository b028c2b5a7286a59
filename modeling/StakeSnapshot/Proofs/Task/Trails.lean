import StakeSnapshot.Proofs.Task.Guarantee
import StakeSnapshot.Proofs.Task.Noting

/-!
# The records that a task leaves

`Service.recording` keeps a record of what a service is asked and of what it answers. The records
that a task may leave can be read off its tree, whether it has ended or waits (`Task.Leaves`): its
parts leave theirs one behind the other, or in any order if they are under way at once, and a part
that is dropped leaves what it has left so far. Every run, in order or in time, leaves such a
record, at whatever moment it is looked at (`Task.ComesTo.leaves`, `Task.EndsIn.leaves`).
-/

namespace StakeSnapshot

variable {Q : Type → Type} {σ α β ν : Type}

/-! ## Composed records -/

/-- What a task may have come to, if it has ended, and the record that it leaves then. -/
abbrev Trails (α ν : Type) := Option (Outcome α) → List ν → Prop

/-- The task waits or has a value. -/
def Alive : Option (Outcome α) → Prop
  | some (.error _) => False
  | _ => True

/-- What two parts at once come to. A failure ends both, so only one of them can have failed. -/
inductive Joined : Option (Outcome α) → Option (Outcome β) → Option (Outcome (α × β)) → Prop where
  | waits {r : Option (Outcome α)} {r' : Option (Outcome β)} (hr : Alive r) (hr' : Alive r') :
      Joined r r' none
  | ends (a : α) (b : β) : Joined (some (.ok a)) (some (.ok b)) (some (.ok (a, b)))
  | leftFails (e : Failure) {r' : Option (Outcome β)} (hr' : Alive r') :
      Joined (some (.error e)) r' (some (.error e))
  | rightFails (e : Failure) {r : Option (Outcome α)} (hr : Alive r) :
      Joined r (some (.error e)) (some (.error e))

namespace Trails

/-- The records of a task that goes on after a first part. -/
def andThen (first : Trails α ν) (next : Outcome α → Trails β ν) : Trails β ν := fun o l =>
  o = none ∧ first none l ∨ ∃ r l₁ l₂, l = l₁ ++ l₂ ∧ first (some r) l₁ ∧ next r o l₂

/-- The records of two parts at once. If the left part fails at once, the right one is never
started. -/
def both (left : Trails α ν) (right : Trails β ν) : Trails (α × β) ν := fun o l =>
  (∃ r r' l₁ l₂, l.Perm (l₁ ++ l₂) ∧ left r l₁ ∧ right r' l₂ ∧ Joined r r' o) ∨
    ∃ e, o = some (.error e) ∧ left (some (.error e)) l

/-- The records of a task that may be given up while it waits. -/
def within (late : Error) (body : Trails α ν) : Trails α ν := fun o l =>
  body o l ∨ o = some (.error (.error late)) ∧ body none l

/-- The records of a task that waits for its permit first. -/
def queued (body : Trails α ν) : Trails α ν := fun o l => body o l ∨ o = none ∧ l = []

/-- The records of a task that is given a permit at some time, or refused one. -/
def permitted (grants : Prop) (refusal : Failure → Prop) (body : Trails α ν) : Trails α ν :=
  fun o l => grants ∧ body.queued o l ∨ ∃ e, refusal e ∧ o = some (.error e) ∧ l = []

end Trails

section Leaves

variable (replies : Replies Q) (asked : {α : Type} → Q α → Option ν)
  (answered : {α : Type} → Q α → Outcome α → Option ν)

/-- The records that a task may leave when the surroundings reply as `replies` allows. -/
def Task.Leaves : {γ : Type} → Task Q γ → Trails γ ν
  | _, .done r => fun o l => o = some r ∧ l = []
  | _, .ask q => fun
    | none, l => l = (asked q).toList
    | some r, l => replies.answer q r ∧ l = (asked q).toList ++ (answered q r).toList
  | _, .andThen t next => .andThen (Leaves t) fun r => Leaves (next r)
  | _, .both t u => .both (Leaves t) (Leaves u)
  | _, .permitted t => .permitted replies.grants replies.refusal (Leaves t)
  | _, .within _ late t => .within late (Leaves t)

/-- The records that a task under way may leave from now on. -/
def Running.Leaves : {γ : Type} → Running Q γ → Trails γ ν
  | _, .finished r => fun o l => o = some r ∧ l = []
  | _, .asked q _ => fun
    | none, l => l = []
    | some r, l => replies.answer q r ∧ l = (answered q r).toList
  | _, .andThen x next => .andThen (Leaves x) fun r => Task.Leaves replies asked answered (next r)
  | _, .both x y => .both (Leaves x) (Leaves y)
  | _, .queued _ t => .queued (Task.Leaves replies asked answered t)
  | _, .holding x => Leaves x
  | _, .within _ late x => .within late (Leaves x)

/-- What has been recorded since `l₀`, and what the task under way leaves from now on, make a record
that was allowed before. -/
structure Running.Follows (before : Trails α ν) (l₀ : List ν)
    (now : Running Q α × Machine (σ × List ν)) : Prop where
  since : ∃ l, now.2.state.2 = l₀ ++ l ∧
    now.1.Leaves replies asked answered now.1.outcome? [] ∧
      ∀ o l', now.1.Leaves replies asked answered o l' → before o (l ++ l')

end Leaves

/-- Begun in a state and without a record, the task has left one of the records `trails` at every
moment and at its end. -/
structure Task.LeavesOnly (service : Service Q (σ × List ν)) (t : Task Q α) (s : σ)
    (trails : Trails α ν) : Prop where
  moment {x : Running Q α} {s' : σ × List ν} :
    t.ComesTo service (s, []) x s' → trails x.outcome? s'.2
  ended {last : Outcome α × σ × List ν} :
    t.EndsIn service (s, []) last → trails (some last.1) last.2.2

variable {replies : Replies Q} {asked : {α : Type} → Q α → Option ν}
  {answered : {α : Type} → Q α → Outcome α → Option ν} {l₀ : List ν}

theorem Task.substitute_bind {R : Type → Type} {f : {γ : Type} → Q γ → Task R γ} (t : Task Q α)
    (g : α → Task Q β) :
    (t >>= g).substitute f = t.substitute f >>= fun a => (g a).substitute f := by
  refine congrArg (Task.andThen _) (funext fun r => ?_)
  cases r <;> rfl

/-- A task that goes on after a value leaves a failure as it is. -/
theorem Task.leaves_bind {t : Task Q α} {f : α → Task Q β} {o : Option (Outcome β)} {l : List ν} :
    (t >>= f).Leaves replies asked answered o l ↔
      o = none ∧ t.Leaves replies asked answered none l ∨
      (∃ e, o = some (.error e) ∧ t.Leaves replies asked answered (some (.error e)) l) ∨
      ∃ a l₁ l₂, l = l₁ ++ l₂ ∧ t.Leaves replies asked answered (some (.ok a)) l₁ ∧
        (f a).Leaves replies asked answered o l₂ := by
  refine or_congr_right ⟨?_, ?_⟩
  · rintro ⟨e | a, l₁, l₂, rfl, hr, hrest⟩
    · obtain ⟨rfl, rfl⟩ := hrest
      exact .inl ⟨e, rfl, by rwa [List.append_nil]⟩
    · exact .inr ⟨a, l₁, l₂, rfl, hr, hrest⟩
  · rintro (⟨e, rfl, he⟩ | ⟨a, l₁, l₂, rfl, ha, hrest⟩)
    · exact ⟨.error e, l, [], (List.append_nil l).symm, he, rfl, rfl⟩
    · exact ⟨.ok a, l₁, l₂, rfl, ha, hrest⟩

/-- To change the error of a task leaves no record of its own. -/
theorem Task.leaves_mapError {f : Error → Error} {t : Task Q α} {o : Option (Outcome α)}
    {l : List ν} :
    (t.mapError f).Leaves replies asked answered o l ↔
      ∃ o', o = o'.map (Outcome.mapError f) ∧ t.Leaves replies asked answered o' l := by
  constructor
  · rintro (⟨rfl, hnone⟩ | ⟨r, l, _, rfl, hr, rfl, rfl⟩)
    · exact ⟨none, rfl, hnone⟩
    · exact ⟨some r, rfl, by rwa [List.append_nil]⟩
  · rintro ⟨_ | r, rfl, h⟩
    · exact .inl ⟨rfl, h⟩
    · exact .inr ⟨r, l, [], (List.append_nil l).symm, h, rfl, rfl⟩

/-- An outcome that a task may have with a record, it may have. -/
theorem Task.Leaves.mayEnd :
    ∀ {γ : Type} {t : Task Q γ} {o : Outcome γ} {l : List ν},
      t.Leaves replies asked answered (some o) l → t.MayEnd replies o
  | _, .done _, _, _, h => Option.some.inj h.1
  | _, .ask _, _, _, h => h.1
  | _, .andThen t next, o, l, h => by
      rcases h with ⟨h, -⟩ | ⟨r, l₁, l₂, -, hr, ho⟩
      · cases h
      · exact ⟨r, Leaves.mayEnd hr, Leaves.mayEnd ho⟩
  | _, .both t u, o, l, h => by
      rcases h with ⟨r, r', l₁, l₂, -, hr, hr', joined⟩ | ⟨e, he, hleft⟩
      · cases joined with
        | ends a b => exact ⟨Leaves.mayEnd hr, Leaves.mayEnd hr'⟩
        | leftFails e _ => exact .inl (Leaves.mayEnd hr)
        | rightFails e _ => exact .inr (Leaves.mayEnd hr')
      · cases he
        exact .inl (Leaves.mayEnd hleft)
  | _, .permitted t, o, l, h => by
      rcases h with ⟨grants, h | ⟨h, -⟩⟩ | ⟨e, he, ho, -⟩
      · exact .inl ⟨grants, Leaves.mayEnd h⟩
      · cases h
      · cases ho
        exact .inr ⟨e, he, rfl⟩
  | _, .within _ _ t, o, l, h => by
      rcases h with h | ⟨h, -⟩
      · exact .inl (Leaves.mayEnd h)
      · cases h
        exact .inr rfl

/-- What a task records are records of what it asks. -/
theorem Task.Leaves.recorded {P : {α : Type} → Q α → Prop} {p : ν → Prop}
    (hp : ∀ {α : Type} (q : Q α) n, P q → asked q = some n → p n) :
    ∀ {γ : Type} {t : Task Q γ} {o : Option (Outcome γ)} {l : List ν}, t.Asks replies P →
      t.Leaves replies asked (fun _ _ => none) o l → ∀ n ∈ l, p n
  | _, .done _, _, _, _, h, n, hn => by
      rw [h.2] at hn
      cases hn
  | _, .ask q, o, l, hq, h, n, hn => by
      have hl : l = (asked q).toList := by
        cases o with
        | none => exact h
        | some r => exact h.2.trans (List.append_nil _)
      rw [hl] at hn
      exact hp q n hq (Option.mem_toList.mp hn)
  | _, .andThen t next, o, l, hasks, h, n, hn => by
      rcases h with ⟨-, h⟩ | ⟨r, l₁, l₂, rfl, hr, ho⟩
      · exact Leaves.recorded hp hasks.1 h n hn
      · rcases List.mem_append.mp hn with hn | hn
        · exact Leaves.recorded hp hasks.1 hr n hn
        · exact Leaves.recorded hp (hasks.2 r (Leaves.mayEnd hr)) ho n hn
  | _, .both t u, o, l, hasks, h, n, hn => by
      rcases h with ⟨r, r', l₁, l₂, hperm, hr, hr', -⟩ | ⟨e, -, hleft⟩
      · rcases List.mem_append.mp (hperm.mem_iff.mp hn) with hn | hn
        · exact Leaves.recorded hp hasks.1 hr n hn
        · exact Leaves.recorded hp hasks.2 hr' n hn
      · exact Leaves.recorded hp hasks.1 hleft n hn
  | _, .permitted t, o, l, ht, h, n, hn => by
      rcases h with ⟨-, h | ⟨-, rfl⟩⟩ | ⟨e, -, -, rfl⟩
      · exact Leaves.recorded (t := t) hp ht h n hn
      · cases hn
      · cases hn
  | _, .within _ _ t, o, l, ht, h, n, hn => by
      rcases h with h | ⟨-, h⟩
      · exact Leaves.recorded (t := t) hp ht h n hn
      · exact Leaves.recorded (t := t) hp ht h n hn

namespace Running

theorem Waits.outcome? {x : Running Q α} (h : x.Waits) : x.outcome? = none := by
  cases x with
  | finished r => exact h.elim
  | _ => rfl

namespace Follows

/-- What is recorded since is allowed for what the task has come to. -/
theorem now {before : Trails α ν} {x : Running Q α} {m : Machine (σ × List ν)}
    (h : Follows replies asked answered before l₀ (x, m)) :
    ∃ l, m.state.2 = l₀ ++ l ∧ before x.outcome? l := by
  obtain ⟨l, hl, fresh, later⟩ := h
  exact ⟨l, hl, by simpa using later _ _ fresh⟩

theorem finished {before : Trails α ν} {r : Outcome α} {m : Machine (σ × List ν)} {l : List ν}
    (hl : m.state.2 = l₀ ++ l) (h : before (some r) l) :
    Follows replies asked answered before l₀ (.finished r, m) := by
  refine ⟨l, hl, ⟨rfl, rfl⟩, ?_⟩
  rintro _ _ ⟨rfl, rfl⟩
  rwa [List.append_nil]

theorem of_state {before : Trails α ν} {x : Running Q α} {m m' : Machine (σ × List ν)}
    (h : Follows replies asked answered before l₀ (x, m)) (hm : m'.state = m.state) :
    Follows replies asked answered before l₀ (x, m') := by
  obtain ⟨l, hl, rest⟩ := h
  exact ⟨l, by rw [hm]; exact hl, rest⟩

theorem imp {before after : Trails α ν} {now : Running Q α × Machine (σ × List ν)}
    (h : Follows replies asked answered after l₀ now) (hbefore : ∀ o l, after o l → before o l) :
    Follows replies asked answered before l₀ now := by
  obtain ⟨l, hl, fresh, later⟩ := h
  exact ⟨l, hl, fresh, fun o l' h => hbefore _ _ (later o l' h)⟩

/-- What is allowed after `l₁` is allowed, together with it, before. -/
theorem prepend {before after : Trails α ν} {l₁ : List ν} {now : Running Q α × Machine (σ × List ν)}
    (hbefore : ∀ o l, after o l → before o (l₁ ++ l))
    (h : Follows replies asked answered after (l₀ ++ l₁) now) :
    Follows replies asked answered before l₀ now := by
  obtain ⟨l, hl, fresh, later⟩ := h
  refine ⟨l₁ ++ l, by rw [hl, List.append_assoc], fresh, fun o l' h => ?_⟩
  rw [List.append_assoc]
  exact hbefore _ _ (later o l' h)

/-- A first part that waits. -/
theorem andThen {first : Trails α ν} {next : Outcome α → Task Q β} {x : Running Q α}
    {m : Machine (σ × List ν)} (h : Follows replies asked answered first l₀ (x, m))
    (hx : x.Waits) :
    Follows replies asked answered
      (first.andThen fun r => (next r).Leaves replies asked answered) l₀ (.andThen x next, m) := by
  obtain ⟨l, hl, fresh, later⟩ := h
  rw [hx.outcome?] at fresh
  refine ⟨l, hl, .inl ⟨rfl, fresh⟩, ?_⟩
  rintro o l' (⟨ho, hl'⟩ | ⟨r, l₁, l₂, rfl, hr, hnext⟩)
  · exact .inl ⟨ho, later _ _ hl'⟩
  · exact .inr ⟨r, l ++ l₁, l₂, (List.append_assoc ..).symm, later _ _ hr, hnext⟩

theorem hold {before : Trails α ν} {now : Running Q α × Machine (σ × List ν)}
    (h : Follows replies asked answered before l₀ now) :
    Follows replies asked answered before l₀ (Running.hold now) := by
  obtain ⟨x, m⟩ := now
  cases x with
  | finished r => exact h.of_state rfl
  | _ => exact ⟨h.since⟩

theorem limit {before : Trails α ν} {now : Running Q α × Machine (σ × List ν)} (deadline : Nat)
    (late : Error) (h : Follows replies asked answered before l₀ now) :
    Follows replies asked answered (before.within late) l₀ (Running.limit deadline late now) := by
  obtain ⟨x, m⟩ := now
  have waiting (hx : x.Waits) : Follows replies asked answered (before.within late) l₀
      (if deadline ≤ m.now then (.finished (.error (.error late)), abandon x m)
        else (.within deadline late x, m)) := by
    obtain ⟨l, hl, hnow⟩ := h.now
    rw [hx.outcome?] at hnow
    split
    · exact .finished (by rw [abandon_state]; exact hl) (.inr ⟨rfl, hnow⟩)
    · obtain ⟨l, hl, fresh, later⟩ := h
      rw [hx.outcome?] at fresh
      exact ⟨l, hl, .inl fresh, fun o l' h => h.imp (later _ _) fun h => ⟨h.1, later _ _ h.2⟩⟩
  cases x with
  | finished r =>
      obtain ⟨l, hl, hnow⟩ := h.now
      exact .finished hl (.inl hnow)
  | _ => exact waiting trivial

/-- A left part that has not failed is put together with the right one. -/
theorem join {left : Trails α ν} {right : Trails β ν} {x : Running Q α}
    {m m' : Machine (σ × List ν)} {y : Running Q β}
    (hx : Follows replies asked answered left l₀ (x, m)) (halive : Alive x.outcome?)
    (hy : Follows replies asked answered right m.state.2 (y, m')) :
    Follows replies asked answered (left.both right) l₀ (x.join y m') := by
  obtain ⟨l₁, hl₁, hleft⟩ := hx.now
  obtain ⟨l₂, hl₂, hright⟩ := hy.now
  have both : m'.state.2 = l₀ ++ (l₁ ++ l₂) := by
    rw [hl₂, hl₁, List.append_assoc]
  have going (halive' : Alive y.outcome?) :
      Follows replies asked answered (left.both right) l₀ (.both x y, m') := by
    obtain ⟨k₁, hk₁, fresh, later⟩ := hx
    obtain ⟨k₂, hk₂, fresh', later'⟩ := hy
    obtain rfl : k₁ = l₁ := List.append_cancel_left (hk₁.symm.trans hl₁)
    obtain rfl : k₂ = l₂ := List.append_cancel_left (hk₂.symm.trans hl₂)
    refine ⟨k₁ ++ k₂, both, .inl ⟨_, _, [], [], .refl _, fresh, fresh', .waits halive halive'⟩, ?_⟩
    rintro o l (⟨r, r', k, k', hperm, hr, hr', joined⟩ | ⟨e, rfl, he⟩)
    · refine .inl ⟨r, r', k₁ ++ k, k₂ ++ k', ?_, later _ _ hr, later' _ _ hr', joined⟩
      -- The right part's record so far moves behind what the left one leaves from now on.
      calc (k₁ ++ k₂ ++ l).Perm (k₁ ++ k₂ ++ (k ++ k')) := hperm.append_left _
        _ = k₁ ++ (k₂ ++ k) ++ k' := by simp only [List.append_assoc]
        (k₁ ++ (k₂ ++ k) ++ k').Perm (k₁ ++ (k ++ k₂) ++ k') :=
          (List.perm_append_comm.append_left _).append_right _
        _ = k₁ ++ k ++ (k₂ ++ k') := by simp only [List.append_assoc]
    · refine .inl ⟨_, _, k₁ ++ l, k₂, ?_, later _ _ he, hright, .leftFails e halive'⟩
      rw [List.append_assoc, List.append_assoc]
      exact (List.perm_append_comm).append_left _
  -- `join` tells a finished part from one under way, and a value from a failure.
  cases y with
  | finished r =>
      cases r with
      | error e =>
          rw [join_error]
          exact .finished (by rw [abandon_state]; exact both)
            (.inl ⟨_, _, l₁, l₂, .refl _, hleft, hright, .rightFails e halive⟩)
      | ok b =>
          cases x with
          | finished r =>
              cases r with
              | error e => exact halive.elim
              | ok a =>
                  exact .finished both (.inl ⟨_, _, l₁, l₂, .refl _, hleft, hright, .ends a b⟩)
          | _ => exact going trivial
  | _ =>
      cases x with
      | finished r =>
          cases r with
          | error e => exact halive.elim
          | ok a => exact going trivial
      | _ => exact going trivial

end Follows

end Running

/-! ## Looking at a task -/

section Looks

variable {service : Service Q σ} {P : {α : Type} → Q α → Prop} {I : σ × List ν → Prop}

/-- The recording service keeps the property `I` of its states, and replies as `replies` allows. -/
abbrev Service.Records (service : Service Q σ) (replies : Replies Q)
    (asked : {α : Type} → Q α → Option ν) (answered : {α : Type} → Q α → Outcome α → Option ν)
    (P : {α : Type} → Q α → Prop) (I : σ × List ν → Prop) : Prop :=
  (service.recording asked answered).Matches (service.recording asked answered) replies P
    fun s s' => s = s' ∧ I s

theorem Service.Records.samePace (service : Service Q σ)
    (asked : {α : Type} → Q α → Option ν) (answered : {α : Type} → Q α → Outcome α → Option ν)
    (P : {α : Type} → Q α → Prop) (I : σ × List ν → Prop) :
    (service.recording asked answered).SamePace (service.recording asked answered) P
      fun s s' => s = s' ∧ I s :=
  ⟨fun _ _ _ _ hs => by rw [hs.1]⟩

/-- A service that keeps a property of its states keeps it when it is recorded, too. -/
theorem Service.Matches.records {service : Service Q σ} {I : σ → Prop}
    (h : service.Matches service replies P fun s s' => s = s' ∧ I s)
    (asked : {α : Type} → Q α → Option ν) (answered : {α : Type} → Q α → Outcome α → Option ν) :
    service.Records replies asked answered P fun s => I s.1 where
  accept q _ _ hq hs := ⟨by rw [hs.1], (h.accept q hq ⟨rfl, hs.2⟩).2⟩
  outcome _ _ _ _ hs := by rw [hs.1]
  answer q _ _ hq hs := ⟨by rw [hs.1], (h.answer q hq ⟨rfl, hs.2⟩).2⟩
  reply q _ _ hq hs := h.reply q hq ⟨rfl, hs.2⟩
  permit hs := by rw [hs.1]
  grant hs hp := h.grant ⟨rfl, hs.2⟩ hp
  refusal hs hp := h.refusal ⟨rfl, hs.2⟩ hp

/-- Of a service of which nothing is known, a record is kept all the same. -/
theorem Service.records_any (service : Service Q σ) (asked : {α : Type} → Q α → Option ν)
    (answered : {α : Type} → Q α → Outcome α → Option ν) :
    service.Records .any asked answered (fun _ => True) fun _ => True where
  accept _ _ _ _ hs := ⟨by rw [hs.1], trivial⟩
  outcome _ _ _ _ hs := by rw [hs.1]
  answer _ _ _ _ hs := ⟨by rw [hs.1], trivial⟩
  reply _ _ _ _ _ := trivial
  permit hs := by rw [hs.1]
  grant _ _ := trivial
  refusal _ _ := trivial

variable (h : service.Records replies asked answered P I)

include h

open Running (Follows)

theorem Task.start_follows :
    ∀ {γ : Type} (t : Task Q γ) (m : Machine (σ × List ν)), t.Asks replies P → I m.state →
      Follows replies asked answered (t.Leaves replies asked answered) m.state.2
        (t.start (service.recording asked answered) m)
  | _, .done r, m, _, _ => .finished (List.append_nil _).symm ⟨rfl, rfl⟩
  | _, .ask q, m, hq, hm => by
      have asked' := h.accept q hq ⟨rfl, hm⟩
      simp only [start]
      split
      · refine .finished (l := (asked q).toList ++ (answered q _).toList) ?_
          ⟨h.reply q hq asked', rfl⟩
        exact List.append_assoc ..
      · refine ⟨(asked q).toList, rfl, rfl, fun o l hl => ?_⟩
        cases o with
        | none =>
            obtain rfl := hl
            exact List.append_nil _
        | some r =>
            obtain ⟨hr, rfl⟩ := hl
            exact ⟨hr, rfl⟩
  | _, .andThen t next, m, hasks, hm => by
      have first := start_follows t m hasks.1 hm
      have alike := start_alike h (Service.Records.samePace service asked answered P I) t
        hasks.1 ⟨⟨rfl, hm⟩, rfl, rfl⟩
      simp only [start]
      generalize start (service.recording asked answered) t m = now at first alike ⊢
      obtain ⟨x, m₁⟩ := now
      cases x with
      | finished r =>
          obtain ⟨l, hl, hr⟩ := first.now
          have rest := start_follows (next r) m₁ (hasks.2 r (alike.mayEnd r rfl))
            alike.machine.state.2
          rw [hl] at rest
          exact rest.prepend fun o l' ho => .inr ⟨r, l, l', rfl, hr, ho⟩
      | _ => exact first.andThen trivial
  | _, .both t u, m, hasks, hm => by
      have first := start_follows t m hasks.1 hm
      have alike := start_alike h (Service.Records.samePace service asked answered P I) t
        hasks.1 ⟨⟨rfl, hm⟩, rfl, rfl⟩
      simp only [start]
      generalize start (service.recording asked answered) t m = now at first alike ⊢
      obtain ⟨x, m₁⟩ := now
      have second := start_follows u m₁ hasks.2 alike.machine.state.2
      cases x with
      | finished r =>
          cases r with
          | error e =>
              obtain ⟨l, hl, hr⟩ := first.now
              exact .finished hl (.inr ⟨e, rfl, hr⟩)
          | ok a => exact first.join trivial second
      | _ => exact first.join trivial second
  | _, .permitted t, m, ht, hm => by
      simp only [start]
      cases hp : (service.recording asked answered).permit m.state with
      | error e =>
          refine .finished (List.append_nil _).symm (.inr ⟨e, ?_, rfl, rfl⟩)
          exact h.refusal ⟨rfl, hm⟩ hp
      | ok _ =>
          have grants := h.grant ⟨rfl, hm⟩ hp
          cases m.permits.take? with
          | none =>
              exact ⟨[], (List.append_nil _).symm, .inr ⟨rfl, rfl⟩,
                fun _ _ ho => .inl ⟨grants, ho⟩⟩
          | some permits =>
              have body := start_follows t { m with permits } ht hm
              exact (body.imp fun _ _ ho => .inl ⟨grants, .inl ho⟩).hold
  | _, .within seconds late t, m, ht, hm => .limit _ late (start_follows t m ht hm)

theorem Running.resume_follows :
    ∀ {γ : Type} (x : Running Q γ) (m : Machine (σ × List ν)), x.Asks replies P → I m.state →
      Follows replies asked answered (x.Leaves replies asked answered) m.state.2
        (x.resume (service.recording asked answered) m)
  | _, .finished r, m, _, _ => .finished (List.append_nil _).symm ⟨rfl, rfl⟩
  | _, .asked q ready, m, hq, hm => by
      simp only [resume]
      split
      · exact .finished rfl ⟨h.reply q hq ⟨rfl, hm⟩, rfl⟩
      · exact ⟨[], (List.append_nil _).symm, rfl, fun _ _ ho => ho⟩
  | _, .andThen x next, m, hasks, hm => by
      have first := resume_follows x m hasks.1 hm
      have alike := resume_alike h (Service.Records.samePace service asked answered P I) x
        hasks.1 ⟨⟨rfl, hm⟩, rfl, rfl⟩
      simp only [resume]
      generalize resume (service.recording asked answered) x m = now at first alike ⊢
      obtain ⟨y, m₁⟩ := now
      cases y with
      | finished r =>
          obtain ⟨l, hl, hr⟩ := first.now
          have rest := Task.start_follows h (next r) m₁ (hasks.2 r (alike.mayEnd r rfl))
            alike.machine.state.2
          rw [hl] at rest
          exact rest.prepend fun o l' ho => .inr ⟨r, l, l', rfl, hr, ho⟩
      | _ => exact first.andThen trivial
  | _, .both x y, m, hasks, hm => by
      have first := resume_follows x m hasks.1 hm
      have alike := resume_alike h (Service.Records.samePace service asked answered P I) x
        hasks.1 ⟨⟨rfl, hm⟩, rfl, rfl⟩
      simp only [resume]
      generalize resume (service.recording asked answered) x m = now at first alike ⊢
      obtain ⟨x', m₁⟩ := now
      have second := resume_follows y m₁ hasks.2 alike.machine.state.2
      cases x' with
      | finished r =>
          cases r with
          | error e =>
              obtain ⟨l, hl, hr⟩ := first.now
              exact .finished (by rw [abandon_state]; exact hl) (.inr ⟨e, rfl, hr⟩)
          | ok a => exact first.join trivial second
      | _ => exact first.join trivial second
  | _, .queued ticket t, m, ht, hm => by
      simp only [resume]
      cases m.permits.redeem? ticket with
      | none => exact ⟨[], (List.append_nil _).symm, .inr ⟨rfl, rfl⟩, fun _ _ ho => ho⟩
      | some permits =>
          have body := Task.start_follows h t { m with permits } ht hm
          exact (body.imp fun _ _ ho => .inl ho).hold
  | _, .holding x, m, hx, hm => (resume_follows x m hx hm).hold
  | _, .within _ late x, m, hx, hm => .limit _ late (resume_follows x m hx hm)

/-! ## Runs -/

theorem Task.run_leaves :
    ∀ {γ : Type} (t : Task Q γ) (s : σ × List ν), t.Asks replies P → I s →
      ∃ l, (t.run (service.recording asked answered) s).2.2 = s.2 ++ l ∧
        t.Leaves replies asked answered (some (t.run (service.recording asked answered) s).1) l
  | _, .done r, s, _, _ => ⟨[], (List.append_nil _).symm, rfl, rfl⟩
  | _, .ask q, s, hq, hs =>
      ⟨_, List.append_assoc .., h.reply q hq (h.accept q hq ⟨rfl, hs⟩), rfl⟩
  | _, .andThen t next, s, hasks, hs => by
      obtain ⟨l, hl, hr⟩ := run_leaves t s hasks.1 hs
      have alike := run_matches h t hasks.1 ⟨rfl, hs⟩
      rw [run_andThen]
      obtain ⟨l', hl', ho⟩ := run_leaves (next _) _ (hasks.2 _ alike.mayEnd) alike.state.2
      exact ⟨l ++ l', by rw [hl', hl, List.append_assoc], .inr ⟨_, l, l', rfl, hr, ho⟩⟩
  | _, .both t u, s, hasks, hs => by
      have left := run_leaves t s hasks.1 hs
      have alike := run_matches h t hasks.1 ⟨rfl, hs⟩
      simp only [run]
      generalize run (service.recording asked answered) t s = x at left alike ⊢
      obtain ⟨r, s₁⟩ := x
      obtain ⟨l, hl, hr⟩ := left
      cases r with
      | error e => exact ⟨l, hl, .inr ⟨e, rfl, hr⟩⟩
      | ok a =>
          have right := run_leaves u s₁ hasks.2 alike.state.2
          dsimp only
          generalize run (service.recording asked answered) u s₁ = y at right ⊢
          obtain ⟨r', s₂⟩ := y
          obtain ⟨l', hl', hr'⟩ := right
          have both : s₂.2 = s.2 ++ (l ++ l') := by
            rw [hl', hl, List.append_assoc]
          cases r' with
          | error e =>
              exact ⟨_, both, .inl ⟨_, _, l, l', .refl _, hr, hr', .rightFails e trivial⟩⟩
          | ok b => exact ⟨_, both, .inl ⟨_, _, l, l', .refl _, hr, hr', .ends a b⟩⟩
  | _, .permitted t, s, ht, hs => by
      simp only [run]
      cases hp : (service.recording asked answered).permit s with
      | error e =>
          exact ⟨[], (List.append_nil _).symm, .inr ⟨e, h.refusal ⟨rfl, hs⟩ hp, rfl, rfl⟩⟩
      | ok _ =>
          obtain ⟨l, hl, hr⟩ := run_leaves t s ht hs
          exact ⟨l, hl, .inl ⟨h.grant ⟨rfl, hs⟩ hp, .inl hr⟩⟩
  | _, .within _ _ t, s, ht, hs => by
      obtain ⟨l, hl, hr⟩ := run_leaves t s ht hs
      exact ⟨l, hl, .inl hr⟩

/-- At every moment, a task has left a record that its tree allows. -/
theorem Task.ComesTo.leaves {t : Task Q α} (ht : t.Asks replies P) {s s' : σ × List ν} (hs : I s)
    {x : Running Q α} (hx : t.ComesTo (service.recording asked answered) s x s') :
    ∃ l, s'.2 = s.2 ++ l ∧ t.Leaves replies asked answered x.outcome? l := by
  have pace := Service.Records.samePace service asked answered P I
  have follows : ∀ m : Machine (σ × List ν), m.state = s' →
      Follows replies asked answered (t.Leaves replies asked answered) s.2 (x, m) ∧
        x.Asks replies P ∧ I m.state := by
    induction hx with
    | start m₀ hm₀ =>
        intro m hm
        subst hm₀
        have alike := start_alike h pace t ht ⟨⟨rfl, hs⟩, rfl, rfl⟩
        exact ⟨(start_follows h t m₀ ht hs).of_state hm, alike.asks, hm ▸ alike.machine.state.2⟩
    | @look x m₀ _ ih =>
        intro m hm
        obtain ⟨before, hasks, hI⟩ := ih m₀ rfl
        have alike := Running.resume_alike h pace x hasks ⟨⟨rfl, hI⟩, rfl, rfl⟩
        have next := Running.resume_follows h x m₀ hasks hI
        obtain ⟨l, hl, -, later⟩ := before
        rw [hl] at next
        exact ⟨(next.prepend later).of_state hm, alike.asks, hm ▸ alike.machine.state.2⟩
  exact (follows ⟨s', 0, .ofCount 0⟩ rfl).1.now

/-- A task ends with a record that its tree allows. -/
theorem Task.EndsIn.leaves {t : Task Q α} (ht : t.Asks replies P) {s : σ × List ν} (hs : I s)
    {last : Outcome α × σ × List ν} (hlast : t.EndsIn (service.recording asked answered) s last) :
    ∃ l, last.2.2 = s.2 ++ l ∧ t.Leaves replies asked answered (some last.1) l := by
  rcases hlast with rfl | ⟨permits, bound, hlast⟩
  · exact run_leaves h t s ht hs
  · exact (ComesTo.of_schedule hlast).leaves h ht hs

/-- A task that may leave only records of `trails` leaves only these. -/
theorem Task.leavesOnly {t : Task Q α} (ht : t.Asks replies P) {s : σ} (hs : I (s, []))
    {trails : Trails α ν} (htrails : ∀ o l, t.Leaves replies asked answered o l → trails o l) :
    t.LeavesOnly (service.recording asked answered) s trails where
  moment hx := by
    obtain ⟨l, hl, hleaves⟩ := hx.leaves h ht hs
    rw [hl]
    exact htrails _ _ hleaves
  ended hlast := by
    obtain ⟨l, hl, hleaves⟩ := hlast.leaves h ht hs
    rw [hl]
    exact htrails _ _ hleaves

end Looks

end StakeSnapshot
