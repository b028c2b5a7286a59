import StakeSnapshot.Proofs.Task.Sequence

/-!
# What comes after a first part in order

A run of a task on a service ends as the tree of the task allows, when the surroundings reply what
the service says in some state (`Task.EndsIn.mayEnd`). More is known of a task that begins with a
part in order: what comes after that part starts from the outcome which the part has in order, on
any service and however long the answers take (`Task.EndsIn.after_first`). What a part in order
comes to from the states of some kind is said by `Task.Gives`, in the manner of a Hoare triple.
-/

namespace StakeSnapshot

variable {Q : Type → Type} {σ α β : Type}

/-- All that a service replies, in whatever state it is. -/
def Service.replies (service : Service Q σ) : Replies Q where
  answer q o := ∃ s, o = (service.answer q s).1
  refusal e := ∃ s, service.permit s = .error e
  grants := ∃ s, service.permit s = .ok ()

theorem Service.matches_replies (service : Service Q σ) :
    service.Matches service service.replies (fun _ => True) fun s s' => s = s' ∧ True where
  accept _ _ _ _ hs := ⟨by rw [hs.1], trivial⟩
  outcome _ _ _ _ hs := by rw [hs.1]
  answer _ _ _ _ hs := ⟨by rw [hs.1], trivial⟩
  reply _ s _ _ _ := ⟨s, rfl⟩
  permit hs := by rw [hs.1]
  grant {s _} _ hp := ⟨s, hp⟩
  refusal {s _ _} _ hp := ⟨s, hp⟩

variable {service : Service Q σ}

/-- Every run of a task ends as its tree allows. -/
theorem Task.EndsIn.mayEnd {t : Task Q α} {s : σ} {last : Outcome α × σ}
    (h : t.EndsIn service s last) : t.MayEnd service.replies last.1 :=
  (service.matches_replies.mayEnd (asks_any t) trivial h).1

/-! ## Tasks under way -/

theorem Task.mayEnd_of_start {t : Task Q α} {m : Machine σ} {o : Outcome α}
    (h : (start service t m).1.MayEnd service.replies o) : t.MayEnd service.replies o := by
  have alike := start_alike service.matches_replies ⟨fun _ _ _ _ hs => by rw [hs.1]⟩ t
    (asks_any t) (m := m) ⟨⟨rfl, trivial⟩, rfl, rfl⟩
  exact alike.mayEnd o h

namespace Running

/-- Every task under way asks something. -/
theorem asks_any {replies : Replies Q} :
    ∀ {γ : Type} (x : Running Q γ), Asks replies (fun _ => True) x
  | _, .finished _ => trivial
  | _, .asked _ _ => trivial
  | _, .andThen x next => ⟨asks_any x, fun r _ => Task.asks_any (next r)⟩
  | _, .both x y => ⟨asks_any x, asks_any y⟩
  | _, .queued _ t => Task.asks_any t
  | _, .holding x => asks_any x
  | _, .within _ _ x => asks_any x

theorem mayEnd_of_resume {x : Running Q α} {m : Machine σ} {o : Outcome α}
    (h : (resume service x m).1.MayEnd service.replies o) : x.MayEnd service.replies o := by
  have alike := resume_alike service.matches_replies ⟨fun _ _ _ _ hs => by rw [hs.1]⟩ x
    (asks_any x) (m := m) ⟨⟨rfl, trivial⟩, rfl, rfl⟩
  exact alike.mayEnd o h

/-- What holds of a task whenever it is looked at holds when it ends, unless its limit passes. -/
theorem finish_limit {I : Running Q α → σ → Prop} {p : Outcome α → Prop}
    (hresume : ∀ x m, I x m.state → I (resume service x m).1 (resume service x m).2.state)
    (hend : ∀ r s, I (.finished r) s → p r) (deadline : Nat) (late : Error) (bound : Nat)
    {x : Running Q α} {m : Machine σ} (hx : I x m.state) {last : Outcome α × σ}
    (hlast : finish service bound (limit deadline late (x, m)) = some last) :
    p last.1 ∨ last.1 = .error (.error late) := by
  induction bound generalizing x m with
  | zero =>
      cases x with
      | finished r =>
          cases hlast
          exact .inl (hend r _ hx)
      | _ =>
          simp only [limit] at hlast
          split at hlast
          · cases hlast
            exact .inr rfl
          · cases hlast
  | succ bound ih =>
      have next := hresume x (waitFor (.within deadline late x) m)
        (by rw [waitFor_state]; exact hx)
      cases x with
      | finished r =>
          cases hlast
          exact .inl (hend r _ hx)
      | _ =>
          simp only [limit] at hlast
          split at hlast
          · cases hlast
            exact .inr rfl
          · exact ih next hlast

/-- A task that is in its first part, which will end in the outcome `o`, or past it. -/
inductive Past (service : Service Q σ) (next : Outcome α → Task Q β) (o : Outcome α) :
    Running Q β → σ → Prop where
  | notYet {x : Running Q α} {s s₁ : σ} (settles : Settles service x s (o, s₁)) :
      Past service next o (.andThen x next) s
  | reached {x : Running Q β} {s : σ}
      (mayEnd : ∀ r, x.MayEnd service.replies r → (next o).MayEnd service.replies r) :
      Past service next o x s

variable {next : Outcome α → Task Q β} {o : Outcome α}

theorem start_past {t : Task Q α} (ht : t.Sequential) (m : Machine σ)
    (ho : (t.run service m.state).1 = o) :
    Past service next o (Task.start service (.andThen t next) m).1
      (Task.start service (.andThen t next) m).2.state := by
  have settles := Task.start_settles service t m ht
  simp only [Task.start]
  subst ho
  generalize t.run service m.state = last at settles ⊢
  generalize Task.start service t m = now at settles ⊢
  obtain ⟨x, m₁⟩ := now
  cases x with
  | finished r =>
      cases settles
      exact .reached fun _ h => Task.mayEnd_of_start h
  | _ => exact .notYet settles

theorem resume_past (x : Running Q β) (m : Machine σ) (hx : Past service next o x m.state) :
    Past service next o (resume service x m).1 (resume service x m).2.state := by
  cases hx with
  | reached hend => exact .reached fun r h => hend r (mayEnd_of_resume h)
  | @notYet x _ s₁ settles =>
      have settles := resume_settles x m settles
      simp only [resume]
      generalize resume service x m = now at settles ⊢
      obtain ⟨x, m₁⟩ := now
      cases x with
      | finished r =>
          cases settles
          exact .reached fun _ h => Task.mayEnd_of_start h
      | _ => exact .notYet settles

end Running

/-! ## Runs under a limit -/

namespace Task

variable {seconds : Nat} {late : Error} {s : σ}

/-- A task in order ends as it does in order, unless it is given up. -/
theorem EndsIn.of_sequential {t : Task Q α} (ht : t.Sequential) {last : Outcome α × σ}
    (h : (Task.within seconds late t).EndsIn service s last) :
    last.1 = (t.run service s).1 ∨ last.1 = .error (.error late) := by
  rcases h with rfl | ⟨permits, bound, hlast⟩
  · exact .inl rfl
  · have settles := start_settles service t ⟨s, 0, .ofCount permits⟩ ht
    exact Running.finish_limit (I := fun x s' => x.Settles service s' (t.run service s))
      (p := fun o => o = (t.run service s).1) (fun x m hx => Running.resume_settles x m hx)
      (fun r s' hr => (congrArg Prod.fst hr).symm) _ late bound settles hlast

/-- A task with a first part in order ends as the rest may end after the outcome that the first
part has in order, unless the task is given up. -/
theorem EndsIn.after_first {t : Task Q α} (ht : t.Sequential) {next : Outcome α → Task Q β}
    {last : Outcome β × σ}
    (h : (Task.within seconds late (.andThen t next)).EndsIn service s last) :
    (next (t.run service s).1).MayEnd service.replies last.1 ∨
      last.1 = .error (.error late) := by
  rcases h with rfl | ⟨permits, bound, hlast⟩
  · have rest : (next (t.run service s).1).EndsIn service (t.run service s).2
        ((next (t.run service s).1).run service (t.run service s).2) := .inl rfl
    exact .inl rest.mayEnd
  · have start : Running.Past service next (t.run service s).1 _ _ :=
      Running.start_past ht ⟨s, 0, .ofCount permits⟩ rfl
    exact Running.finish_limit (I := Running.Past service next (t.run service s).1)
      Running.resume_past
      (fun r s' hr => by
        cases hr with
        | reached hend => exact hend r rfl)
      _ late bound start hlast

/-! ## What a part in order comes to -/

/-- From every state with `pre`, the task, run in order, comes to an outcome with `post`. -/
def Gives (service : Service Q σ) (pre : σ → Prop) (t : Task Q α) (o : Outcome α)
    (post : σ → Prop) : Prop :=
  ∀ s, pre s → (run service t s).1 = o ∧ post (run service t s).2

section Gives

variable {pre mid post : σ → Prop} {t : Task Q α} {f : α → Task Q β}

theorem gives_done (o : Outcome α) : Gives service pre (.done o) o pre :=
  fun _ hs => ⟨rfl, hs⟩

theorem gives_pure (a : α) : Gives service pre (pure a) (.ok a) pre :=
  gives_done (.ok a)

theorem Gives.bind {a : α} {o : Outcome β} (ht : Gives service pre t (.ok a) mid)
    (hf : Gives service mid (f a) o post) : Gives service pre (t >>= f) o post := by
  intro s hs
  obtain ⟨hr, hmid⟩ := ht s hs
  have rest := hf _ hmid
  rw [run_bind]
  generalize run service t s = last at hr rest ⊢
  obtain ⟨r, s₁⟩ := last
  cases hr
  exact rest

theorem Gives.context {o : Outcome α} (ht : Gives service pre t o post) (c : String) :
    Gives service pre (t.context c) (o.context c) post := by
  intro s hs
  obtain ⟨rfl, hpost⟩ := ht s hs
  exact ⟨rfl, hpost⟩

end Gives

end Task

end StakeSnapshot
