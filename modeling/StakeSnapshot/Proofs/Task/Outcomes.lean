import Mathlib.Data.List.Forall2
import StakeSnapshot.Task.Basic

/-!
# How a task may end, and what it may ask

`MayEnd replies t r` says that the task `t` can end in the outcome `r` when the surroundings reply
as `replies` allows: of two parts at once either may fail first, and a time limit may pass at any
moment. `Asks replies P t` says that every question which can come up on the way has the property
`P`. Both are read off the tree, so they hold for a run in order and for a run in time alike.
-/

namespace StakeSnapshot

/-- What the surroundings may tell a task. -/
structure Replies (Q : Type → Type) where
  /-- The outcomes that a question may have. -/
  answer : {α : Type} → Q α → Outcome α → Prop
  /-- The failures with which a permit may be refused. -/
  refusal : Failure → Prop
  /-- Whether a permit may be given out at all. -/
  grants : Prop

/-- Surroundings of which nothing is known. -/
def Replies.any {Q : Type → Type} : Replies Q := ⟨fun _ _ => True, fun _ => True, True⟩

/-- The outcomes of two parts at once: the values of both, or a failure of either. -/
def Outcome.Paired {α β : Type} (p : Outcome α → Prop) (q : Outcome β → Prop) :
    Outcome (α × β) → Prop
  | .ok (a, b) => p (.ok a) ∧ q (.ok b)
  | .error e => p (.error e) ∨ q (.error e)

theorem Outcome.Paired.imp {α β : Type} {p p' : Outcome α → Prop} {q q' : Outcome β → Prop}
    (hp : ∀ o, p o → p' o) (hq : ∀ o, q o → q' o) :
    ∀ o, Outcome.Paired p q o → Outcome.Paired p' q' o
  | .ok (a, b), h => ⟨hp (.ok a) h.1, hq (.ok b) h.2⟩
  | .error e, h => Or.imp (hp (.error e)) (hq (.error e)) h

theorem mapError_eq_ok {ε ε' α : Type} (r : Except ε α) (f : ε → ε') (a : α) :
    r.mapError f = .ok a ↔ r = .ok a := by
  cases r <;> simp [Except.mapError]

theorem mapM_eq_ok {ε α β : Type} (f : α → Except ε β) (as : List α) (bs : List β) :
    as.mapM f = .ok bs ↔ List.Forall₂ (fun a b => f a = .ok b) as bs := by
  induction as generalizing bs with
  | nil =>
      rw [List.mapM_nil, List.forall₂_nil_left_iff]
      exact ⟨fun h => by cases h; rfl, fun h => by rw [h]; rfl⟩
  | cons a as ih =>
      rw [List.mapM_cons]
      constructor
      · intro h
        cases ha : f a with
        | error e =>
            rw [ha] at h
            cases h
        | ok b =>
            cases has : as.mapM f with
            | error e =>
                rw [ha, has] at h
                cases h
            | ok bs =>
                rw [ha, has] at h
                cases h
                exact .cons ha ((ih bs).mp has)
      · intro h
        cases h with
        | cons ha has =>
            rw [ha, (ih _).mpr has]
            rfl

theorem mapM_congr {ε α β : Type} {f g : α → Except ε β} {as : List α}
    (h : ∀ a ∈ as, f a = g a) : as.mapM f = as.mapM g := by
  induction as with
  | nil => rfl
  | cons a as ih =>
      rw [List.mapM_cons, List.mapM_cons, h a List.mem_cons_self,
        ih fun b hb => h b (List.mem_cons_of_mem a hb)]

/-- The first error is that of one of the items. -/
theorem mapM_eq_error {ε α β : Type} {f : α → Except ε β} {as : List α} {e : ε}
    (h : as.mapM f = .error e) : ∃ a ∈ as, f a = .error e := by
  induction as with
  | nil =>
      rw [List.mapM_nil] at h
      cases h
  | cons a as ih =>
      rw [List.mapM_cons] at h
      cases ha : f a with
      | error e' =>
          rw [ha] at h
          cases h
          exact ⟨a, List.mem_cons_self .., ha⟩
      | ok b =>
          cases has : as.mapM f with
          | error e' =>
              rw [ha, has] at h
              cases h
              obtain ⟨a', ha', he⟩ := ih has
              exact ⟨a', List.mem_cons_of_mem _ ha', he⟩
          | ok bs =>
              rw [ha, has] at h
              cases h

/-- One answer of many becomes a failure: all of them together then fail in this way if it is one
of them, and else they stay as they are. -/
theorem mapM_failing {ε α β : Type} [DecidableEq α] {f g : α → Except ε β} {a : α} {e : ε}
    (hg : ∀ c, g c = if c = a then .error e else f c) {as : List α} {bs : List β}
    (h : as.mapM f = .ok bs) : as.mapM g = if a ∈ as then .error e else .ok bs := by
  induction as generalizing bs with
  | nil => simpa using h
  | cons c as ih =>
      obtain ⟨b, rest, hb, hrest, rfl⟩ : ∃ b rest, f c = .ok b ∧ as.mapM f = .ok rest ∧
          bs = b :: rest := by
        cases (mapM_eq_ok f (c :: as) bs).mp h with
        | cons hb hrest => exact ⟨_, _, hb, (mapM_eq_ok f as _).mpr hrest, rfl⟩
      rw [List.mapM_cons, hg, ih hrest]
      by_cases hc : c = a
      · subst hc
        rw [if_pos rfl, if_pos (List.mem_cons_self ..)]
        rfl
      · have hmem : a ∈ c :: as ↔ a ∈ as :=
          List.mem_cons.trans (or_iff_right fun h => hc h.symm)
        rw [if_neg hc, hb, if_congr hmem rfl rfl]
        split <;> rfl

namespace Task

variable {Q R : Type → Type} {α β : Type}

def MayEnd (replies : Replies Q) : {γ : Type} → Task Q γ → Outcome γ → Prop
  | _, .done r, o => o = r
  | _, .ask q, o => replies.answer q o
  | _, .andThen t next, o => ∃ r, MayEnd replies t r ∧ MayEnd replies (next r) o
  | _, .both t u, o => Outcome.Paired (MayEnd replies t) (MayEnd replies u) o
  | _, .permitted t, o =>
      replies.grants ∧ MayEnd replies t o ∨ ∃ e, replies.refusal e ∧ o = .error e
  | _, .within _ late t, o => MayEnd replies t o ∨ o = .error (.error late)

/-- Every question of the task has the property `P`, as long as the surroundings reply as they
may. -/
def Asks (replies : Replies Q) (P : {α : Type} → Q α → Prop) : {γ : Type} → Task Q γ → Prop
  | _, .done _ => True
  | _, .ask q => P q
  | _, .andThen t next => Asks replies P t ∧ ∀ r, MayEnd replies t r → Asks replies P (next r)
  | _, .both t u => Asks replies P t ∧ Asks replies P u
  | _, .permitted t => Asks replies P t
  | _, .within _ _ t => Asks replies P t

/-! ## How composed tasks end -/

section MayEnd

variable {replies : Replies Q}

@[simp] theorem mayEnd_done (r o : Outcome α) : MayEnd replies (.done r) o ↔ o = r := Iff.rfl

@[simp] theorem mayEnd_pure (a : α) (o : Outcome α) :
    MayEnd replies (pure a) o ↔ o = .ok a := Iff.rfl

theorem mayEnd_bind_ok (t : Task Q α) (f : α → Task Q β) (b : β) :
    MayEnd replies (t >>= f) (.ok b) ↔
      ∃ a, MayEnd replies t (.ok a) ∧ MayEnd replies (f a) (.ok b) := by
  constructor
  · rintro ⟨r, hr, hb⟩
    cases r with
    | ok a => exact ⟨a, hr, hb⟩
    | error e => exact absurd hb (by simp)
  · rintro ⟨a, ha, hb⟩
    exact ⟨.ok a, ha, hb⟩

@[simp] theorem mayEnd_permitted_ok (t : Task Q α) (a : α) :
    MayEnd replies (.permitted t) (.ok a) ↔ replies.grants ∧ MayEnd replies t (.ok a) := by
  simp [MayEnd]

@[simp] theorem mayEnd_ofExcept_ok (r : Except Error α) (a : α) :
    MayEnd replies (ofExcept r : Task Q α) (.ok a) ↔ r = .ok a := by
  rw [ofExcept, mayEnd_done, eq_comm]
  exact mapError_eq_ok r _ a

@[simp] theorem mayEnd_ofFaulty_ok (r : Except Fault α) (a : α) :
    MayEnd replies (ofFaulty r : Task Q α) (.ok a) ↔ r = .ok a := by
  rw [ofFaulty, mayEnd_done, eq_comm]
  exact mapError_eq_ok r _ a

@[simp] theorem mayEnd_mapError_ok (f : Error → Error) (t : Task Q α) (a : α) :
    MayEnd replies (mapError f t) (.ok a) ↔ MayEnd replies t (.ok a) := by
  constructor
  · rintro ⟨r, hr, ha⟩
    cases r with
    | ok b =>
        cases ha
        exact hr
    | error e => cases ha
  · intro h
    exact ⟨.ok a, h, rfl⟩

@[simp] theorem mayEnd_context_ok (c : String) (t : Task Q α) (a : α) :
    MayEnd replies (context c t) (.ok a) ↔ MayEnd replies t (.ok a) :=
  mayEnd_mapError_ok _ t a

theorem mayEnd_map_ok (f : α → β) (t : Task Q α) (b : β) :
    MayEnd replies (f <$> t) (.ok b) ↔ ∃ a, MayEnd replies t (.ok a) ∧ b = f a := by
  refine (mayEnd_bind_ok t _ b).trans (exists_congr fun a => and_congr_right fun _ => ?_)
  exact ⟨fun h => by cases h; rfl, fun h => by rw [h]; rfl⟩

/-- Tasks at once succeed if each of them does. -/
theorem mayEnd_all_ok (ts : List (Task Q α)) (as : List α) :
    MayEnd replies (all ts) (.ok as) ↔
      List.Forall₂ (fun t a => MayEnd replies t (.ok a)) ts as := by
  induction ts generalizing as with
  | nil => simp [all]
  | cons t ts ih =>
      rw [all, mayEnd_map_ok]
      constructor
      · rintro ⟨⟨a, rest⟩, ⟨ha, hrest⟩, rfl⟩
        exact .cons ha ((ih rest).mp hrest)
      · rintro (_ | ⟨ha, hrest⟩)
        exact ⟨(_, _), ⟨ha, (ih _).mpr hrest⟩, rfl⟩

theorem mayEnd_map_error (f : α → β) (t : Task Q α) (e : Failure) :
    MayEnd replies (f <$> t) (.error e) ↔ MayEnd replies t (.error e) := by
  constructor
  · rintro ⟨r, hr, he⟩
    cases r with
    | ok a => cases he
    | error e' =>
        cases he
        exact hr
  · intro h
    exact ⟨.error e, h, rfl⟩

/-- Of tasks at once that fail, one has failed. -/
theorem mayEnd_all_error {ts : List (Task Q α)} {e : Failure}
    (h : MayEnd replies (all ts) (.error e)) : ∃ t ∈ ts, MayEnd replies t (.error e) := by
  induction ts with
  | nil => cases h
  | cons t ts ih =>
      rw [all, mayEnd_map_error] at h
      rcases h with h | h
      · exact ⟨t, List.mem_cons_self .., h⟩
      · obtain ⟨u, hu, hend⟩ := ih h
        exact ⟨u, List.mem_cons_of_mem _ hu, hend⟩

end MayEnd

/-! ## What composed tasks ask -/

section Asks

variable {replies : Replies Q} {P : {α : Type} → Q α → Prop}

@[simp] theorem asks_pure (a : α) : Asks replies P (pure a : Task Q α) := trivial

@[simp] theorem asks_both (t : Task Q α) (u : Task Q β) :
    Asks replies P (.both t u) ↔ Asks replies P t ∧ Asks replies P u := Iff.rfl

@[simp] theorem asks_within (seconds : Nat) (late : Error) (t : Task Q α) :
    Asks replies P (.within seconds late t) ↔ Asks replies P t := Iff.rfl

theorem asks_bind (t : Task Q α) (f : α → Task Q β) :
    Asks replies P (t >>= f) ↔
      Asks replies P t ∧ ∀ a, MayEnd replies t (.ok a) → Asks replies P (f a) := by
  constructor
  · rintro ⟨ht, hf⟩
    exact ⟨ht, fun a ha => hf (.ok a) ha⟩
  · rintro ⟨ht, hf⟩
    refine ⟨ht, fun r hr => ?_⟩
    cases r with
    | ok a => exact hf a hr
    | error e => trivial

/-- The form of `asks_bind` for which nothing has to be known about the value of the first task. -/
theorem Asks.bind {t : Task Q α} {f : α → Task Q β} (ht : Asks replies P t)
    (hf : ∀ a, Asks replies P (f a)) : Asks replies P (t >>= f) :=
  (asks_bind t f).mpr ⟨ht, fun a _ => hf a⟩

@[simp] theorem asks_map (f : α → β) (t : Task Q α) :
    Asks replies P (f <$> t) ↔ Asks replies P t :=
  ⟨fun h => h.1, fun h => h.bind fun _ => trivial⟩

@[simp] theorem asks_mapError (f : Error → Error) (t : Task Q α) :
    Asks replies P (mapError f t) ↔ Asks replies P t :=
  ⟨fun h => h.1, fun h => ⟨h, fun _ _ => trivial⟩⟩

@[simp] theorem asks_context (c : String) (t : Task Q α) :
    Asks replies P (context c t) ↔ Asks replies P t :=
  asks_mapError _ t

@[simp] theorem asks_all (ts : List (Task Q α)) :
    Asks replies P (all ts) ↔ ∀ t ∈ ts, Asks replies P t := by
  induction ts with
  | nil => simp [all]
  | cons t ts ih => simp [all, ih]

/-- Every task asks something. -/
theorem asks_any : ∀ {γ : Type} (t : Task Q γ), Asks replies (fun _ => True) t
  | _, .done _ => trivial
  | _, .ask _ => trivial
  | _, .andThen t next => ⟨asks_any t, fun r _ => asks_any (next r)⟩
  | _, .both t u => ⟨asks_any t, asks_any u⟩
  | _, .permitted t => asks_any t
  | _, .within _ _ t => asks_any t

theorem Asks.imp {P' : {α : Type} → Q α → Prop} (h : ∀ {α : Type} (q : Q α), P q → P' q) :
    ∀ {γ : Type} {t : Task Q γ}, Asks replies P t → Asks replies P' t
  | _, .done _, _ => trivial
  | _, .ask q, hq => h q hq
  | _, .andThen _ _, hasks => ⟨hasks.1.imp h, fun r hr => (hasks.2 r hr).imp h⟩
  | _, .both _ _, hasks => ⟨hasks.1.imp h, hasks.2.imp h⟩
  | _, .permitted t, ht => Asks.imp (t := t) h ht
  | _, .within _ _ t, ht => Asks.imp (t := t) h ht

/-- A task may end as it may in surroundings that reply with no less to what it asks. -/
theorem MayEnd.of_asks {other : Replies Q}
    (hanswer : ∀ {α : Type} (q : Q α), P q → ∀ o, replies.answer q o → other.answer q o)
    (hrefusal : ∀ e, replies.refusal e → other.refusal e)
    (hgrants : replies.grants → other.grants) :
    ∀ {γ : Type} {t : Task Q γ}, Asks replies P t →
      ∀ {o : Outcome γ}, MayEnd replies t o → MayEnd other t o
  | _, .done _, _, _, ho => ho
  | _, .ask q, hq, _, ho => hanswer q hq _ ho
  | _, .andThen _ _, hasks, _, ho => by
      obtain ⟨r, hr, ho⟩ := ho
      exact ⟨r, of_asks hanswer hrefusal hgrants hasks.1 hr,
        of_asks hanswer hrefusal hgrants (hasks.2 r hr) ho⟩
  | _, .both _ _, hasks, _, ho =>
      Outcome.Paired.imp (fun _ => of_asks hanswer hrefusal hgrants hasks.1)
        (fun _ => of_asks hanswer hrefusal hgrants hasks.2) _ ho
  | _, .permitted t, ht, _, ho => by
      rcases ho with ⟨granted, ho⟩ | ⟨e, he, rfl⟩
      · exact .inl ⟨hgrants granted, of_asks (t := t) hanswer hrefusal hgrants ht ho⟩
      · exact .inr ⟨e, hrefusal e he, rfl⟩
  | _, .within _ _ t, ht, _, ho =>
      ho.imp_left (of_asks (t := t) hanswer hrefusal hgrants ht)

/-- A task over other questions asks what the tasks for its questions ask. -/
theorem Asks.substitute {f : {γ : Type} → R γ → Task Q γ}
    (hf : ∀ {γ : Type} (q : R γ), Asks replies P (f q)) :
    ∀ {γ : Type} (t : Task R γ), Asks replies P (t.substitute f)
  | _, .done _ => trivial
  | _, .ask q => hf q
  | _, .andThen t next =>
      ⟨Asks.substitute hf t, fun r _ => Asks.substitute hf (next r)⟩
  | _, .both t u => ⟨Asks.substitute hf t, Asks.substitute hf u⟩
  | _, .permitted t => Asks.substitute hf t
  | _, .within _ _ t => Asks.substitute hf t

end Asks

end Task

end StakeSnapshot
