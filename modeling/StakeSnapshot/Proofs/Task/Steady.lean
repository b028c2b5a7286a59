import Mathlib.Data.List.Forall2
import StakeSnapshot.Proofs.Task.Sequence

/-!
# Services that keep to their answers

A service is steady if its answers depend on the question alone, in states that it never leaves
(`Service.Steady`). What a task without permits comes to on such a service can be read off the
tree: every run, in order or in time, ends as `Task.MayEnd` says. Which part of a task fails first
may still depend on the order, but whether it succeeds, and with which value, does not, as long as
it passes every failure on (`Task.Strict.eq_ok`).
-/

namespace StakeSnapshot

variable {Q R : Type → Type} {σ α β : Type}

/-- Surroundings that give every question its fixed answer and refuse no permit. -/
def Replies.fixed (answers : {α : Type} → Q α → Outcome α) : Replies Q :=
  ⟨fun q o => o = answers q, fun _ => False, True⟩

@[simp] theorem Task.mayEnd_ask (answers : {α : Type} → Q α → Outcome α) (q : Q α)
    (o : Outcome α) : MayEnd (.fixed answers) (.ask q) o ↔ answers q = o :=
  eq_comm

@[simp] theorem Task.mayEnd_permitted_fixed (answers : {α : Type} → Q α → Outcome α)
    (t : Task Q α) (a : α) :
    MayEnd (.fixed answers) (.permitted t) (.ok a) ↔ MayEnd (.fixed answers) t (.ok a) :=
  (mayEnd_permitted_ok t a).trans (and_iff_right trivial)

/-- The service without a state that gives every question its fixed answer at once. -/
def Service.fixed (answers : {α : Type} → Q α → Outcome α) : Service Q Unit where
  accept _ s := (s, 0)
  answer q s := (answers q, s)
  permit _ := .ok ()

/-- In the states with the property `I`, which it never leaves, a service gives its fixed answer to
every question with the property `P`. -/
structure Service.Steady (service : Service Q σ) (answers : {α : Type} → Q α → Outcome α)
    (P : {α : Type} → Q α → Prop) (I : σ → Prop) : Prop where
  accept {α : Type} (q : Q α) {s : σ} : P q → I s → I (service.accept q s).1
  outcome {α : Type} (q : Q α) {s : σ} : P q → I s → (service.answer q s).1 = answers q
  answer {α : Type} (q : Q α) {s : σ} : P q → I s → I (service.answer q s).2

theorem Service.fixed_steady (answers : {α : Type} → Q α → Outcome α)
    (P : {α : Type} → Q α → Prop) : (Service.fixed answers).Steady answers P fun _ => True :=
  ⟨fun _ _ _ _ => trivial, fun _ _ _ _ => rfl, fun _ _ _ _ => trivial⟩

namespace Task

/-! ## Tasks that pass failures on -/

/-- The task fails as soon as a part of it does, and it has no limit of time. -/
def Strict : {γ : Type} → Task Q γ → Prop
  | _, .done _ => True
  | _, .ask _ => True
  | _, .andThen t next =>
      Strict t ∧ (∀ a, Strict (next (.ok a))) ∧ ∀ e, ∃ e', next (.error e) = .done (.error e')
  | _, .both t u => Strict t ∧ Strict u
  | _, .permitted t => Strict t
  | _, .within _ _ _ => False

theorem strict_ask (q : Q α) : (ask q).Strict := trivial

theorem strict_ofExcept (r : Except Error α) : (ofExcept r : Task Q α).Strict := trivial

theorem Strict.bind {t : Task Q α} {f : α → Task Q β} (ht : t.Strict) (hf : ∀ a, (f a).Strict) :
    (t >>= f).Strict :=
  ⟨ht, hf, fun e => ⟨e, rfl⟩⟩

theorem Strict.map {t : Task Q α} (ht : t.Strict) (f : α → β) : (f <$> t).Strict :=
  ht.bind fun _ => trivial

theorem Strict.mapError {t : Task Q α} (ht : t.Strict) (f : Error → Error) :
    (t.mapError f).Strict :=
  ⟨ht, fun _ => trivial, fun e => ⟨e.mapError f, rfl⟩⟩

theorem Strict.context {t : Task Q α} (ht : t.Strict) (c : String) : (t.context c).Strict :=
  ht.mapError _

theorem Strict.all {ts : List (Task Q α)} (hts : ∀ t ∈ ts, t.Strict) : (Task.all ts).Strict := by
  induction ts with
  | nil => trivial
  | cons t ts ih =>
      have both : (Task.both t (Task.all ts)).Strict :=
        ⟨hts t (List.mem_cons_self ..), ih fun u hu => hts u (List.mem_cons_of_mem _ hu)⟩
      exact both.map _

theorem strict_all_ask {ι : Type} (items : List ι) (q : ι → Q α) :
    (Task.all (items.map fun i => Task.ask (q i))).Strict :=
  Strict.all fun t ht => by
    obtain ⟨i, -, rfl⟩ := List.mem_map.mp ht
    exact strict_ask _

/-- A strict task that can succeed always does, and always with the same value. -/
theorem Strict.eq_ok {answers : {α : Type} → Q α → Outcome α} : ∀ {γ : Type} {t : Task Q γ},
    t.Strict → ∀ {a : γ}, t.MayEnd (.fixed answers) (.ok a) →
      ∀ {o : Outcome γ}, t.MayEnd (.fixed answers) o → o = .ok a
  | _, .done _, _, _, ha, _, ho => ho.trans ha.symm
  | _, .ask _, _, _, ha, _, ho => ho.trans ha.symm
  | _, .andThen t next, hstrict, a, ha, o, ho => by
      obtain ⟨ht, hnext, hfail⟩ := hstrict
      obtain ⟨r, hr, ha⟩ := ha
      obtain ⟨r', hr', ho⟩ := ho
      -- The first part has a value in the run that succeeds, so it has the same in every run.
      cases r with
      | error e =>
          obtain ⟨e', he'⟩ := hfail e
          rw [he'] at ha
          cases ha
      | ok b =>
          rw [eq_ok ht hr hr'] at ho
          exact eq_ok (hnext b) ha ho
  | _, .both t u, hstrict, (a, b), hab, o, ho => by
      obtain ⟨ht, hu⟩ := hstrict
      obtain ⟨ha, hb⟩ := hab
      cases o with
      | ok v =>
          obtain ⟨hv, hv'⟩ := ho
          cases eq_ok ht ha hv
          cases eq_ok hu hb hv'
          rfl
      | error e =>
          rcases ho with ho | ho
          · cases eq_ok ht ha ho
          · cases eq_ok hu hb ho
  | _, .permitted t, hstrict, a, ha, o, ho => by
      have ht : t.Strict := hstrict
      rcases ho with ⟨-, ho⟩ | ⟨e, he, -⟩
      · exact eq_ok ht ((mayEnd_permitted_fixed answers t a).mp ha) ho
      · cases he
  | _, .within _ _ _, ht, _, _, _, _ => ht.elim

/-- After a strict task that can succeed, what comes next starts from its value. -/
theorem Strict.mayEnd_bind_iff {answers : {α : Type} → Q α → Outcome α} {t : Task Q α}
    {f : α → Task Q β} (ht : t.Strict) {a : α} (ha : t.MayEnd (.fixed answers) (.ok a))
    {o : Outcome β} :
    (t >>= f).MayEnd (.fixed answers) o ↔ (f a).MayEnd (.fixed answers) o := by
  constructor
  · rintro ⟨r, hr, ho⟩
    rw [ht.eq_ok ha hr] at ho
    exact ho
  · exact fun ho => ⟨.ok a, ha, ho⟩

theorem Strict.mayEnd_bind {answers : {α : Type} → Q α → Outcome α} {t : Task Q α}
    {f : α → Task Q β} (ht : t.Strict) {a : α} (ha : t.MayEnd (.fixed answers) (.ok a))
    {o : Outcome β} (ho : (t >>= f).MayEnd (.fixed answers) o) :
    (f a).MayEnd (.fixed answers) o :=
  (ht.mayEnd_bind_iff ha).mp ho

theorem Strict.substitute {f : {γ : Type} → R γ → Task Q γ}
    (hf : ∀ {γ : Type} (q : R γ), (f q).Strict) :
    ∀ {γ : Type} {t : Task R γ}, t.Strict → (t.substitute f).Strict
  | _, .done _, _ => trivial
  | _, .ask q, _ => hf q
  | _, .andThen _ _, hstrict => by
      obtain ⟨ht, hnext, hfail⟩ := hstrict
      refine ⟨Strict.substitute hf ht, fun a => Strict.substitute hf (hnext a), fun e => ?_⟩
      obtain ⟨e', he'⟩ := hfail e
      exact ⟨e', congrArg (Task.substitute f) he'⟩
  | _, .both _ _, hstrict => ⟨Strict.substitute hf hstrict.1, Strict.substitute hf hstrict.2⟩
  | _, .permitted t, ht => Strict.substitute (t := t) hf ht
  | _, .within _ _ _, ht => ht.elim

/-- A strict task over other questions succeeds if it does on the values of the tasks for its
questions. -/
theorem Strict.mayEnd_substitute {answers : {α : Type} → R α → Outcome α} {replies : Replies Q}
    {P : {α : Type} → R α → Prop} {f : {γ : Type} → R γ → Task Q γ} (hgrants : replies.grants)
    (hf : ∀ {γ : Type} (q : R γ) v, P q → answers q = .ok v → (f q).MayEnd replies (.ok v)) :
    ∀ {γ : Type} {t : Task R γ}, t.Strict → t.Asks (.fixed answers) P →
      ∀ {v : γ}, t.MayEnd (.fixed answers) (.ok v) → (t.substitute f).MayEnd replies (.ok v)
  | _, .done _, _, _, _, hv => hv
  | _, .ask q, _, hq, v, hv => hf q v hq ((mayEnd_ask answers q _).mp hv)
  | _, .andThen t next, hstrict, hasks, v, hv => by
      obtain ⟨ht, hnext, hfail⟩ := hstrict
      obtain ⟨r, hr, hv⟩ := hv
      cases r with
      | error e =>
          obtain ⟨e', he'⟩ := hfail e
          rw [he'] at hv
          cases hv
      | ok b =>
          exact ⟨.ok b, mayEnd_substitute hgrants hf ht hasks.1 hr,
            mayEnd_substitute hgrants hf (hnext b) (hasks.2 _ hr) hv⟩
  | _, .both _ _, hstrict, hasks, (_, _), hv =>
      ⟨mayEnd_substitute hgrants hf hstrict.1 hasks.1 hv.1,
        mayEnd_substitute hgrants hf hstrict.2 hasks.2 hv.2⟩
  | _, .permitted t, ht, hasks, v, hv =>
      .inl ⟨hgrants, mayEnd_substitute (t := t) hgrants hf ht hasks
        ((mayEnd_permitted_fixed answers t v).mp hv)⟩
  | _, .within _ _ _, ht, _, _, _ => ht.elim

end Task

/-! ## Tasks without permits -/

namespace Task

/-- No part of the task needs a permit. -/
def Permitless : {γ : Type} → Task Q γ → Prop
  | _, .done _ => True
  | _, .ask _ => True
  | _, .andThen t next => Permitless t ∧ ∀ r, Permitless (next r)
  | _, .both t u => Permitless t ∧ Permitless u
  | _, .permitted _ => False
  | _, .within _ _ t => Permitless t

theorem permitless_ask (q : Q α) : (ask q).Permitless := trivial

theorem Permitless.bind {t : Task Q α} {f : α → Task Q β} (ht : t.Permitless)
    (hf : ∀ a, (f a).Permitless) : (t >>= f).Permitless := by
  refine ⟨ht, fun r => ?_⟩
  cases r with
  | ok a => exact hf a
  | error e => trivial

theorem Permitless.all {ts : List (Task Q α)} (hts : ∀ t ∈ ts, t.Permitless) :
    (Task.all ts).Permitless := by
  induction ts with
  | nil => trivial
  | cons t ts ih =>
      have both : (Task.both t (Task.all ts)).Permitless :=
        ⟨hts t (List.mem_cons_self ..), ih fun u hu => hts u (List.mem_cons_of_mem _ hu)⟩
      exact both.bind fun _ => trivial

theorem Sequential.permitless : ∀ {γ : Type} {t : Task Q γ}, t.Sequential → t.Permitless
  | _, .done _, _ => trivial
  | _, .ask _, _ => trivial
  | _, .andThen _ _, ht => ⟨permitless ht.1, fun r => permitless (ht.2 r)⟩

/-- Without permits, the answers alone say how a task may end. -/
theorem Permitless.mayEnd {replies other : Replies Q}
    (h : ∀ {α : Type} (q : Q α) o, replies.answer q o → other.answer q o) :
    ∀ {γ : Type} {t : Task Q γ}, t.Permitless → ∀ {o : Outcome γ},
      MayEnd replies t o → MayEnd other t o
  | _, .done _, _, _, ho => ho
  | _, .ask q, _, _, ho => h q _ ho
  | _, .andThen _ _, ht, _, ho => by
      obtain ⟨r, hr, ho⟩ := ho
      exact ⟨r, Permitless.mayEnd h ht.1 hr, Permitless.mayEnd h (ht.2 r) ho⟩
  | _, .both _ _, ht, _, ho =>
      Outcome.Paired.imp (fun _ => Permitless.mayEnd h ht.1)
        (fun _ => Permitless.mayEnd h ht.2) _ ho
  | _, .permitted _, ht, _, _ => ht.elim
  | _, .within _ _ t, ht, _, ho => ho.imp_left (Permitless.mayEnd (t := t) h ht)

theorem Permitless.substitute {f : {γ : Type} → R γ → Task Q γ}
    (hf : ∀ {γ : Type} (q : R γ), (f q).Permitless) :
    ∀ {γ : Type} {t : Task R γ}, t.Permitless → (t.substitute f).Permitless
  | _, .done _, _ => trivial
  | _, .ask q, _ => hf q
  | _, .andThen _ _, ht =>
      ⟨Permitless.substitute hf ht.1, fun r => Permitless.substitute hf (ht.2 r)⟩
  | _, .both _ _, ht => ⟨Permitless.substitute hf ht.1, Permitless.substitute hf ht.2⟩
  | _, .permitted _, ht => ht.elim
  | _, .within _ _ t, ht => Permitless.substitute (t := t) hf ht

/-- A task over other questions ends as it may with fixed answers to these, if the tasks for what it
asks end in these answers. -/
theorem Permitless.mayEnd_of_substitute {answers : {α : Type} → R α → Outcome α}
    {replies : Replies Q} {P : {α : Type} → R α → Prop} {f : {γ : Type} → R γ → Task Q γ}
    (hf : ∀ {γ : Type} (q : R γ) o, P q → (f q).MayEnd replies o → o = answers q) :
    ∀ {γ : Type} {t : Task R γ}, t.Permitless → t.Asks (.fixed answers) P → ∀ {o : Outcome γ},
      (t.substitute f).MayEnd replies o → t.MayEnd (.fixed answers) o
  | _, .done _, _, _, _, ho => ho
  | _, .ask q, _, hq, o, ho => hf q o hq ho
  | _, .andThen _ _, ht, hasks, _, ho => by
      obtain ⟨r, hr, ho⟩ := ho
      have first := mayEnd_of_substitute hf ht.1 hasks.1 hr
      exact ⟨r, first, mayEnd_of_substitute hf (ht.2 r) (hasks.2 r first) ho⟩
  | _, .both _ _, ht, hasks, _, ho =>
      Outcome.Paired.imp (fun _ => mayEnd_of_substitute hf ht.1 hasks.1)
        (fun _ => mayEnd_of_substitute hf ht.2 hasks.2) _ ho
  | _, .permitted _, ht, _, _, _ => ht.elim
  | _, .within _ _ t, ht, hasks, _, ho =>
      ho.imp_left (mayEnd_of_substitute (t := t) hf ht hasks)

end Task

section Steady

variable {service : Service Q σ} {answers : {α : Type} → Q α → Outcome α} {I : σ → Prop}
  {P : {α : Type} → Q α → Prop}

/-- A steady service matches itself, and replies as it always does, whatever it says of permits. -/
theorem Service.Steady.matches_self (h : service.Steady answers P I) :
    service.Matches service ⟨fun q o => o = answers q, fun _ => True, True⟩ P
      fun s s' => s = s' ∧ I s where
  accept q _ _ hq hs := ⟨by rw [hs.1], h.accept q hq hs.2⟩
  outcome _ _ _ _ hs := by rw [hs.1]
  answer q _ _ hq hs := ⟨by rw [hs.1], h.answer q hq hs.2⟩
  reply q _ _ hq hs := h.outcome q hq hs.2
  permit hs := by rw [hs.1]
  grant _ _ := trivial
  refusal _ _ := trivial

/-- Every run of a task without permits, on a service that is steady for what the task asks, ends as
the tree of the task allows. -/
theorem Service.Steady.mayEnd_of_asks (h : service.Steady answers P I) {t : Task Q α}
    (ht : t.Permitless) (hasks : ∀ replies, t.Asks replies P) {s : σ} (hs : I s)
    {last : Outcome α × σ} (hlast : t.EndsIn service s last) :
    t.MayEnd (.fixed answers) last.1 := by
  refine ht.mayEnd ?_ (h.matches_self.mayEnd (hasks _) hs hlast).1
  exact fun _ _ ho => ho

theorem Service.Steady.mayEnd (h : service.Steady answers (fun _ => True) I) {t : Task Q α}
    (ht : t.Permitless) {s : σ} (hs : I s) {last : Outcome α × σ}
    (hlast : t.EndsIn service s last) : t.MayEnd (.fixed answers) last.1 :=
  h.mayEnd_of_asks ht (fun _ => t.asks_any) hs hlast

end Steady

end StakeSnapshot
