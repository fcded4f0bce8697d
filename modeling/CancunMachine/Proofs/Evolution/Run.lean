import Mathlib.Tactic
import CancunMachine.Proofs.Evolution.Frame

/-!
# The instructions of a frame

Whatever the instructions are and whatever budget they get, they let the machine evolve.
-/

namespace CancunMachine

open Ending

namespace Machine

/-- The instruction that the frame is about to execute. -/
def nextOpcode (machine : Machine) : Opcode := .ofByte machine.frame.nextByte

/-- The machine past the byte of that instruction. -/
def fetched (machine : Machine) : Machine := { machine with frame := machine.frame.advance 1 }

@[simp]
theorem gas_fetched (machine : Machine) : machine.fetched.frame.gas = machine.frame.gas := rfl

@[simp]
theorem weight_fetched (machine : Machine) :
    machine.fetched.frame.weight = machine.frame.weight := rfl

theorem evolves_fetched {host : Host} (machine : Machine) : Evolves host machine machine.fetched :=
  (Act.compute (machine.frame.advance 1) ⟨rfl, rfl, rfl⟩).evolves

end Machine

namespace Interpreter

variable {host : Host}

theorem fetch_apply (machine : Machine) :
    fetch machine = .ok machine.nextOpcode machine.fetched := rfl

theorem run_succ (host : Host) (budget : Nat) (machine : Machine) :
    run host (budget + 1) machine =
      match Instruction.execute host (runFrame host (run host budget)) machine.nextOpcode
        machine.fetched with
      | .ok .proceed next => run host budget next
      | .ok .stop next => stopFrame host next
      | .error cause next => failFrame cause next := by
  rw [run, bind_of_ok (fetch_apply machine)]
  cases ended : Instruction.execute host (runFrame host (run host budget)) machine.nextOpcode
      machine.fetched with
  | error cause next => rw [bind_of_ok (Run.attempt_of_error ended)]
  | ok signal next =>
      rw [bind_of_ok (Run.attempt_of_ok ended)]
      cases signal <;> rfl

theorem concludes_throw {cause : Failure} (fatal : cause.endsMessage = true) :
    Concludes host (throw cause) := by
  constructor
  case fatal =>
    intro machine shown final failed
    cases failed
    exact fatal
  case stays =>
    intro machine shown final failed
    cases failed
    rfl
  all_goals
    intros
    contradiction

/-- The instructions of a frame let the machine evolve, whatever they are. -/
theorem concludes_run (plain : host.Plain) (budget : Nat) : Concludes host (run host budget) := by
  induction budget with
  | zero => exact concludes_throw rfl
  | succ budget inductionHypothesis =>
      have behaves := Instruction.execute_behaves plain
        (enters_runFrame plain inductionHypothesis)
      refine concludes_of_endsAs fun machine => ?_
      have fetched : Evolves host machine machine.fetched := machine.evolves_fetched
      have same := run_succ host budget machine
      cases ended : Instruction.execute host (runFrame host (run host budget)) machine.nextOpcode
          machine.fetched with
      | error cause next =>
          rw [ended] at same
          refine endsAs_of_failure same ?_ ?_ ?_
          · exact ((behaves _).stays ended).trans fetched.samePlace.suspended
          · exact fun settled => fetched.trans ((behaves _).failed ended settled)
          · intro cancun
            rw [← machine.gas_fetched]
            exact (behaves _).failedSpends cancun ended
      | ok signal next =>
          rw [ended] at same
          have evolved := fetched.trans ((behaves _).evolves ended)
          have spent : host.schedule = .cancun →
              next.frame.gas.toNat ≤ machine.frame.gas.toNat := by
            intro cancun
            rw [← machine.gas_fetched]
            exact (behaves _).spends cancun ended
          cases signal with
          | proceed => exact endsAs_of_evolves inductionHypothesis same evolved spent
          | stop => exact endsAs_of_evolves concludes_stopFrame same evolved spent

theorem runInstructions_apply (machine : Machine) :
    runInstructions host machine = run host (stepBudget machine.frame.gas) machine :=
  bind_of_ok (Run.frame_apply _ machine)

theorem concludes_runInstructions (plain : host.Plain) :
    Concludes host (runInstructions host) := by
  refine concludes_of_endsAs fun machine => ?_
  exact endsAs_of_evolves (concludes_run plain _) (runInstructions_apply machine) (.refl _)
    fun _ => le_refl _

end Interpreter

end CancunMachine
