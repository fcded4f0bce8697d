import Mathlib.Tactic

/-!
# One step after the other

A sequence of steps is performed with the answer to each of them. What every single step keeps, a
whole sequence keeps, for a property of one state as for a relation between two.
-/

namespace CancunMachine

variable {State Model Step Answer : Type}

/-- One step after the other, with all their answers and the state that is left. -/
def performAll (perform : Step → State → Answer × State) :
    List Step → State → List Answer × State
  | [], state => ([], state)
  | step :: steps, state =>
      let (answer, next) := perform step state
      let (answers, final) := performAll perform steps next
      (answer :: answers, final)

variable {perform : Step → State → Answer × State} {reference : Step → Model → Answer × Model}

/-- A property that every step keeps holds of what a sequence leaves. -/
theorem performAll_keeps {Holds : State → Prop}
    {steps : List Step} (keeps : ∀ step ∈ steps, ∀ state, Holds state →
      Holds (perform step state).2)
    {state : State} (holds : Holds state) : Holds (performAll perform steps state).2 := by
  induction steps generalizing state with
  | nil => exact holds
  | cons step steps inductionHypothesis =>
      obtain ⟨first, later⟩ := List.forall_mem_cons.mp keeps
      exact inductionHypothesis later (first state holds)

/-- When every step gives the answer of the reference and keeps the two alike, so does a sequence. -/
theorem performAll_agrees {Alike : State → Model → Prop}
    (agrees : ∀ step state model, Alike state model →
      (perform step state).1 = (reference step model).1 ∧
        Alike (perform step state).2 (reference step model).2)
    (steps : List Step) {state : State} {model : Model} (alike : Alike state model) :
    (performAll perform steps state).1 = (performAll reference steps model).1 ∧
      Alike (performAll perform steps state).2 (performAll reference steps model).2 := by
  induction steps generalizing state model with
  | nil => exact ⟨rfl, alike⟩
  | cons step steps inductionHypothesis =>
      obtain ⟨answer, next⟩ := agrees step state model alike
      obtain ⟨answers, final⟩ := inductionHypothesis next
      exact ⟨congrArg₂ List.cons answer answers, final⟩

end CancunMachine
