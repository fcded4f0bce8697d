import Mathlib.Tactic
import CancunMachine.Proofs.Evolution.Visits
import CancunMachine.Proofs.History.Survivors

/-!
# The chronicle of a run

A chronicle tells every instruction that a run fetches and every end of a frame, in the order in
which they happen. Frames have the same names as in a history.
-/

namespace CancunMachine

/-- What a chronicle tells of a frame. -/
inductive Occurrence
  /-- An instruction is fetched, with so much of the budget left for it and what follows. -/
  | fetched (budget : Nat) (machine : Machine)
  | ended (verdict : Verdict)

/-- An entry of a chronicle. -/
structure Tiding where
  frame : FrameName
  occurrence : Occurrence

namespace Interpreter

variable (host : Host)

/-- What is told between the opening of a frame and its end; `below` tells it for its
instructions. -/
def bodyChronicle (below : Machine → List Tiding) (transfer : Transfer) (opened : Machine) :
    List Tiding :=
  match startFrame host transfer opened with
  | .ok none started => below started
  | _ => []

/-- What is told of a frame from its entry to its exit, which it reaches unless the message is
aborted. -/
def frameChronicle (name : FrameName) (below : Machine → List Tiding) (body : Run Outcome)
    (transfer : Transfer) (entered : Machine) : List Tiding :=
  bodyChronicle host below transfer (entered.opened host) ++
    match runFrame host body transfer entered with
    | .ok outcome _ => [⟨name, .ended outcome.verdict⟩]
    | .error _ _ => []

/-- What is told of the child that an instruction has prepared, if it has. -/
def childChronicle (name : FrameName) (below : Machine → List Tiding) (body : Run Outcome)
    (prepared : EStateM.Result Failure Machine (Option Entry)) : List Tiding :=
  match prepared with
  | .ok (some entry) ready =>
      frameChronicle host name below body entry.transfer (ready.entering entry.child)
  | _ => []

/-- What is told once an instruction has been executed that lets its frame go on. -/
def laterChronicle (below : Machine → List Tiding)
    (executed : EStateM.Result Failure Machine Signal) : List Tiding :=
  match executed with
  | .ok .proceed next => below next
  | _ => []

/-- What is told while a frame runs its instructions, of the frame itself and of those below it. -/
def chronicle : Nat → FrameName → Machine → List Tiding
  | 0, _, _ => []
  | budget + 1, name, machine =>
      ⟨name, .fetched budget machine⟩ ::
        (childChronicle host (budget :: name) (chronicle budget (budget :: name))
            (run host budget)
            (Instruction.preparation host machine.nextOpcode machine.fetched) ++
          laterChronicle (chronicle budget name)
            (Instruction.execute host (runFrame host (run host budget)) machine.nextOpcode
              machine.fetched))

/-- What is told of the instructions of the outermost frame, which has the empty name. -/
def wholeChronicle (started : Machine) : List Tiding :=
  chronicle host (stepBudget started.frame.gas) [] started

end Interpreter

/-- What is told while a message is executed. -/
def Transaction.chronicle (host : Host) (machine : Machine) : List Tiding :=
  match prepareAll host machine with
  | .ok _ ready =>
      Interpreter.frameChronicle host [] (Interpreter.wholeChronicle host)
        (Interpreter.runInstructions host) (payment host ready) ready
  | .error _ _ => []

theorem Transaction.chronicle_of_prepareAll {host : Host} {machine ready : Machine}
    (prepares : prepareAll host machine = .ok () ready) :
    chronicle host machine =
      Interpreter.frameChronicle host [] (Interpreter.wholeChronicle host)
        (Interpreter.runInstructions host) (payment host ready) ready := by
  unfold chronicle
  simp only [prepares]

variable {host : Host} {machine visited : Machine}

namespace Interpreter

variable {budget : Nat} {name : FrameName}

/-- A chronicle leaves no instruction out. -/
theorem mem_chronicle_of_visits (visits : Interpreter.Visits host budget machine visited)
    (name : FrameName) :
    ∃ place left, ⟨place, .fetched left visited⟩ ∈ chronicle host budget name machine := by
  induction visits generalizing name with
  | @here budget machine => exact ⟨name, budget, List.mem_cons_self⟩
  | @next budget machine next visited goesOn _ inductionHypothesis =>
      obtain ⟨place, left, member⟩ := inductionHypothesis name
      refine ⟨place, left, ?_⟩
      simp only [chronicle, goesOn, laterChronicle, List.mem_cons, List.mem_append]
      exact .inr (.inr member)
  | @child budget machine ready started visited entry prepares starts _ inductionHypothesis =>
      obtain ⟨place, left, member⟩ := inductionHypothesis (budget :: name)
      refine ⟨place, left, ?_⟩
      simp only [chronicle, prepares, childChronicle, frameChronicle, bodyChronicle, starts,
        List.mem_cons, List.mem_append]
      exact .inr (.inl (.inl member))

/-- The instructions of a chronicle are told with what follows from them. -/
theorem fetched_of_mem_chronicle {place : FrameName} {left : Nat}
    (member : ⟨place, .fetched left visited⟩ ∈ chronicle host budget name machine) :
    chronicle host (left + 1) place visited ⊆ chronicle host budget name machine := by
  induction budget generalizing name machine with
  | zero => cases member
  | succ budget inductionHypothesis =>
      rw [chronicle, List.mem_cons, List.mem_append] at member
      rcases member with same | inside | later
      · cases same
        exact List.Subset.refl _
      · intro tiding told
        rw [chronicle, List.mem_cons, List.mem_append]
        refine .inr (.inl ?_)
        unfold childChronicle at inside ⊢
        split at inside
        · rename_i entry ready prepares
          rw [frameChronicle, List.mem_append] at inside ⊢
          rcases inside with body | ending
          · left
            unfold bodyChronicle at body ⊢
            split at body
            · rename_i started starts
              exact inductionHypothesis body told
            · cases body
          · split at ending <;> simp at ending
        · cases inside
      · intro tiding told
        rw [chronicle, List.mem_cons, List.mem_append]
        refine .inr (.inr ?_)
        unfold laterChronicle at later ⊢
        split at later
        · exact inductionHypothesis later told
        · cases later

/-- The end of a child is told under the name of the child. -/
theorem ended_mem_chronicle {ready closed : Machine} {entry : Entry} {outcome : Outcome}
    (prepares : Instruction.preparation host machine.nextOpcode machine.fetched =
      .ok (some entry) ready)
    (ran : runFrame host (run host budget) entry.transfer (ready.entering entry.child) =
      .ok outcome closed) :
    ⟨budget :: name, .ended outcome.verdict⟩ ∈ chronicle host (budget + 1) name machine := by
  rw [chronicle, prepares, childChronicle, frameChronicle, ran]
  refine List.mem_cons_of_mem _ (List.mem_append_left _ (List.mem_append_right _ ?_))
  exact List.mem_singleton_self _

end Interpreter

namespace Transaction

theorem mem_chronicle_of_visits (visits : Visits host machine visited) :
    ∃ frame budget, ⟨frame, .fetched budget visited⟩ ∈ chronicle host machine := by
  obtain ⟨started, first, visits⟩ := visits
  obtain ⟨ready, prepares, starts⟩ := firstFetch?_eq_some first
  obtain ⟨frame, budget, member⟩ := Interpreter.mem_chronicle_of_visits visits []
  refine ⟨frame, budget, ?_⟩
  rw [chronicle_of_prepareAll prepares]
  simp only [Interpreter.frameChronicle, Interpreter.bodyChronicle, starts, List.mem_append]
  exact .inl member

/-- Where an instruction is told that starts a child, the end of the child is told as well. -/
theorem ended_mem_chronicle {name : FrameName} {budget : Nat} {ready closed : Machine}
    {entry : Entry} {outcome : Outcome}
    (member : ⟨name, .fetched budget visited⟩ ∈ chronicle host machine)
    (prepares : Instruction.preparation host visited.nextOpcode visited.fetched =
      .ok (some entry) ready)
    (ran : Interpreter.runFrame host (Interpreter.run host budget) entry.transfer
      (ready.entering entry.child) = .ok outcome closed) :
    ⟨budget :: name, .ended outcome.verdict⟩ ∈ chronicle host machine := by
  have told : ⟨budget :: name, .ended outcome.verdict⟩ ∈
      Interpreter.chronicle host (budget + 1) name visited :=
    Interpreter.ended_mem_chronicle prepares ran
  unfold chronicle at member ⊢
  split at member
  · rename_i begun
    rw [Interpreter.frameChronicle, List.mem_append] at member ⊢
    rcases member with body | ending
    · left
      unfold Interpreter.bodyChronicle at body ⊢
      split at body
      · exact Interpreter.fetched_of_mem_chronicle body told
      · cases body
    · split at ending <;> simp at ending
  · cases member

end Transaction

end CancunMachine
