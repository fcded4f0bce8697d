import Mathlib.Tactic
import CancunMachine.Proofs.Evolution.Visits
import CancunMachine.Proofs.History.Deed

/-!
# The history of a run

What a run does is told along its instructions: first what happens in the child that an instruction
starts, with the end of the child, and then the deed of the instruction itself. A child is named
after the budget that is left when it is entered, so the children of a frame have different names.
-/

namespace CancunMachine

open Ending

namespace Interpreter

variable (host : Host)

/-- What happens between the opening of a frame and its end; `below` tells what its instructions
do. -/
def bodyHistory (below : Machine → List Happening) (transfer : Transfer) (opened : Machine) :
    List Happening :=
  match startFrame host transfer opened with
  | .ok none started => below started
  | _ => []

/-- What happens in a frame from its entry to its exit. Its instructions are run by `body`. -/
def frameHistory (name : FrameName) (below : Machine → List Happening) (body : Run Outcome)
    (transfer : Transfer) (entered : Machine) : List Happening :=
  bodyHistory host below transfer (entered.opened host) ++
    match runFrame host body transfer entered with
    | .ok outcome _ => [⟨name, .left outcome.isSuccess⟩]
    | .error _ _ => []

/-- What happens in the child that an instruction has prepared, if it has. -/
def childHistory (name : FrameName) (below : Machine → List Happening) (body : Run Outcome)
    (prepared : EStateM.Result Failure Machine (Option Entry)) : List Happening :=
  match prepared with
  | .ok (some entry) ready =>
      frameHistory host name below body entry.transfer (ready.entering entry.child)
  | _ => []

/-- What an instruction does itself, if it comes to its end. -/
def ownHistory (name : FrameName) (opcode : Opcode) (before : Machine)
    (executed : EStateM.Result Failure Machine Signal) : List Happening :=
  match executed with
  | .ok _ after => ((opcode.deed? before.frame after.frame).map (Happening.mk name)).toList
  | .error _ _ => []

/-- What happens once an instruction has been executed that lets its frame go on. -/
def laterHistory (below : Machine → List Happening)
    (executed : EStateM.Result Failure Machine Signal) : List Happening :=
  match executed with
  | .ok .proceed next => below next
  | _ => []

/-- What happens while a frame runs its instructions, in the frame itself and below it. -/
def history : Nat → FrameName → Machine → List Happening
  | 0, _, _ => []
  | budget + 1, name, machine =>
      let executed := Instruction.execute host (runFrame host (run host budget))
        machine.nextOpcode machine.fetched
      childHistory host (budget :: name) (history budget (budget :: name)) (run host budget)
          (Instruction.preparation host machine.nextOpcode machine.fetched) ++
        ownHistory name machine.nextOpcode machine.fetched executed ++
        laterHistory (history budget name) executed

/-- What the instructions of the outermost frame do, which has the empty name. -/
def wholeHistory (started : Machine) : List Happening :=
  history host (stepBudget started.frame.gas) [] started

end Interpreter

/-- What happens while a message is executed. -/
def Transaction.history (host : Host) (machine : Machine) : List Happening :=
  match prepareAll host machine with
  | .ok _ ready =>
      Interpreter.frameHistory host [] (Interpreter.wholeHistory host)
        (Interpreter.runInstructions host) (payment host ready) ready
  | .error _ _ => []

theorem Transaction.history_of_prepareAll {host : Host} {machine ready : Machine}
    (prepares : prepareAll host machine = .ok () ready) :
    history host machine = Interpreter.frameHistory host [] (Interpreter.wholeHistory host)
      (Interpreter.runInstructions host) (payment host ready) ready := by
  unfold history
  simp only [prepares]

namespace Instruction

variable {host : Host} {enter : Transfer → Run Outcome} {opcode : Opcode}
  {machine final : Machine} {signal : Signal}

/-- What starts no child does not depend on the function that would run it. -/
theorem execute_of_alone {other : Transfer → Run Outcome} (alone : opcode.startsChild = false) :
    execute host enter opcode machine = execute host other opcode machine := by
  apply execute_congr
  intro entry ready prepares
  rw [preparation_of_alone alone] at prepares
  cases prepares

theorem deed?_of_startsChild (starts : opcode.startsChild = true) (before after : Frame) :
    opcode.deed? before after = none := by
  cases opcode <;> first | rfl | cases starts

end Instruction

namespace Interpreter

variable {host : Host} {budget : Nat} {machine visited after : Machine} {deed : Deed}

/-- The history leaves nothing out: what an instruction does at any moment of a run is told in it,
under the name of the frame or of one below it. -/
theorem mem_history_of_visits (visits : Interpreter.Visits host budget machine visited)
    {enter : Transfer → Run Outcome} {signal : Signal}
    (done : Instruction.execute host enter visited.nextOpcode visited.fetched =
      .ok signal after)
    (told : visited.nextOpcode.deed? visited.fetched.frame after.frame = some deed)
    (name : FrameName) :
    ∃ place, name <:+ place ∧ ⟨place, deed⟩ ∈ history host budget name machine := by
  induction visits generalizing name with
  | @here budget machine =>
      have alone : machine.nextOpcode.startsChild = false := by
        by_contra starts
        rw [Instruction.deed?_of_startsChild (by simpa using starts)] at told
        cases told
      rw [Instruction.execute_of_alone alone] at done
      refine ⟨name, List.suffix_refl _, ?_⟩
      simp only [history, List.mem_append]
      refine .inl (.inr ?_)
      rw [done, ownHistory, told]
      simp
  | @next budget machine next visited goesOn _ inductionHypothesis =>
      obtain ⟨place, contains, member⟩ := inductionHypothesis done told name
      refine ⟨place, contains, ?_⟩
      simp only [history, goesOn, laterHistory, List.mem_append]
      exact .inr member
  | @child budget machine ready started visited entry prepares starts _ inductionHypothesis =>
      obtain ⟨place, contains, member⟩ := inductionHypothesis done told (budget :: name)
      refine ⟨place, (List.suffix_cons _ _).trans contains, ?_⟩
      simp only [history, prepares, childHistory, frameHistory, bodyHistory, starts,
        List.mem_append]
      exact .inl (.inl (.inl member))

end Interpreter

end CancunMachine
