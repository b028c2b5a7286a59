import StakeSnapshot.Proofs.Task.InTime

/-!
# Services that note what they are asked

`Service.noting` keeps a list beside the state of a service, to which each question adds what is to
be noted of it. Nothing else changes, so a run on the noting service tells what a run on the
service itself asks. `Service.recording` notes the answers too.
-/

namespace StakeSnapshot

variable {Q : Type → Type} {σ ν : Type}

/-- The same service, which also notes what it is asked, in the order in which it is asked. -/
def Service.noting (service : Service Q σ) (note : {α : Type} → Q α → Option ν) :
    Service Q (σ × List ν) where
  accept q s := (((service.accept q s.1).1, s.2 ++ (note q).toList), (service.accept q s.1).2)
  answer q s := ((service.answer q s.1).1, ((service.answer q s.1).2, s.2))
  permit s := service.permit s.1

/-- A service and the same service in the same state, all of whose notes have the property `p`. -/
def Service.Noted (p : ν → Prop) (s : σ) (noted : σ × List ν) : Prop :=
  s = noted.1 ∧ ∀ n ∈ noted.2, p n

theorem Service.noting_matches (service : Service Q σ) (note : {α : Type} → Q α → Option ν)
    {P : {α : Type} → Q α → Prop} {p : ν → Prop}
    (hnote : ∀ {α : Type} (q : Q α), P q → ∀ n, note q = some n → p n) :
    service.Matches (service.noting note) .any P (Noted p) where
  accept q s t hq hs := by
    obtain ⟨rfl, hnotes⟩ := hs
    refine ⟨rfl, fun n hn => ?_⟩
    rcases List.mem_append.mp hn with hn | hn
    · exact hnotes n hn
    · exact hnote q hq n (Option.mem_toList.mp hn)
  outcome q s t _ hs := by rw [hs.1]; rfl
  answer q s t _ hs := ⟨by rw [hs.1]; rfl, hs.2⟩
  reply _ _ _ _ _ := trivial
  permit hs := by rw [hs.1]; rfl
  grant _ _ := trivial
  refusal _ _ := trivial

theorem Service.noting_samePace (service : Service Q σ) (note : {α : Type} → Q α → Option ν)
    (P : {α : Type} → Q α → Prop) (p : ν → Prop) :
    service.SamePace (service.noting note) P (Noted p) where
  delay _ _ _ _ hs := by rw [hs.1]; rfl

/-- The same service, which also notes what it is asked and what it answers. -/
def Service.recording (service : Service Q σ) (asked : {α : Type} → Q α → Option ν)
    (answered : {α : Type} → Q α → Outcome α → Option ν) : Service Q (σ × List ν) where
  accept q s := (((service.accept q s.1).1, s.2 ++ (asked q).toList), (service.accept q s.1).2)
  answer q s :=
    ((service.answer q s.1).1,
      ((service.answer q s.1).2, s.2 ++ (answered q (service.answer q s.1).1).toList))
  permit s := service.permit s.1

/-- To note no answers is to note what is asked. -/
theorem Service.noting_eq_recording (service : Service Q σ)
    (note : {α : Type} → Q α → Option ν) :
    service.noting note = service.recording note fun _ _ => none := by
  simp only [noting, recording, Option.toList_none, List.append_nil]

end StakeSnapshot
