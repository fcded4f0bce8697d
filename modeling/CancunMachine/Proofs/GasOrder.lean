import Mathlib.Tactic
import CancunMachine.Proofs.Evolution.Run
import CancunMachine.Proofs.Order.Child

/-!
# Gas before effect

An instruction that runs out of gas has done nothing. Calls and creations pay more than once, and
after a child has run they could still be stopped: the later prices are parts of what is left, a
child that runs out of gas is an outcome like any other, and only a halt that somebody has queued in
the parent could pass for a want of gas there.
-/

namespace CancunMachine

open Ending

namespace Instruction

variable {host : Host} {enter : Transfer → Run Outcome} {machine final : Machine}

/-- Calls and creations run out of gas only before their child is entered. -/
theorem untouched_of_performing {prepare : Run (Option Entry)}
    {finish : Entry → Outcome → Run Signal} {silent : Prop} (enters : Enters host enter)
    (pays : Prudent True silent .pays prepare)
    (resumes : ∀ entry outcome, Resumes (finish entry outcome))
    (unqueued : machine.frame.queuedHalt = none)
    (starved : performing host enter prepare finish machine = .error (.halt .outOfGas) final) :
    machine.Untouched final := by
  rcases bind_eq_error.mp starved with unprepared | ⟨answer, ready, prepared, rest⟩
  · exact pays.starves (.inr rfl) unprepared
  have stillUnqueued : ready.frame.queuedHalt = none :=
    (congrArg (·.2.2) (pays.stays.of_ok prepared)).trans unqueued
  cases answer with
  | none => cases rest
  | some entry =>
      rcases bind_eq_error.mp rest with stuck | ⟨outcome, returned, ran, finished⟩
      · cases (runChild_eq_error enters stuck).1
      · obtain ⟨closed, _, rfl⟩ := entered_of_runChild enters ran
        exact absurd finished ((resumes entry outcome).affords stillUnqueued)

/-- A call or creation that goes on leaves no halt in the queue. -/
theorem unqueued_of_performing {prepare : Run (Option Entry)}
    {finish : Entry → Outcome → Run Signal} {silent : Prop} {signal : Signal}
    (pays : Prudent True silent .pays prepare)
    (resumes : ∀ entry outcome, Resumes (finish entry outcome))
    (unqueued : machine.frame.queuedHalt = none)
    (done : performing host enter prepare finish machine = .ok signal final) :
    final.frame.queuedHalt = none := by
  obtain ⟨answer, ready, prepared, rest⟩ := bind_eq_ok.mp done
  cases answer with
  | none =>
      cases rest
      exact (congrArg (·.2.2) (pays.stays.of_ok prepared)).trans unqueued
  | some entry =>
      obtain ⟨outcome, returned, _, finished⟩ := bind_eq_ok.mp rest
      exact (resumes entry outcome).clears finished

theorem untouched_of_execute {opcode : Opcode} (plain : host.Plain) (enters : Enters host enter)
    (unqueued : machine.frame.queuedHalt = none)
    (starved : execute host enter opcode machine = .error (.halt .outOfGas) final) :
    machine.Untouched final := by
  rcases opcode.regular_or_startsChild with regular | rfl | starts
  · have prudent : Prudent False False .pays (execute host enter opcode) :=
      prudent_execute regular False.elim False.elim
    exact prudent.starves (.inr rfl) starved
  · have prudent : Prudent False False .pays (selfdestruct host) :=
      prudent_selfdestruct plain.destruction
    exact prudent.starves (.inr rfl) starved
  · have course := course host opcode starts
    rw [course.executes] at starved
    rcases bind_eq_error.mp starved with unread | ⟨request, middle, reads, rest⟩
    · exact course.looks.starves (.inl rfl) unread
    have stillUnqueued : middle.frame.queuedHalt = none :=
      (congrArg (·.2.2) (course.looks.stays.of_ok reads)).trans unqueued
    exact (course.looks.looks rfl reads).trans
      (untouched_of_performing enters (course.pays request) (course.resumes request) stillUnqueued
        rest)

/-- An instruction that goes on leaves no halt in the queue of its frame. -/
theorem unqueued_of_execute {opcode : Opcode} {signal : Signal}
    (unqueued : machine.frame.queuedHalt = none)
    (done : execute host enter opcode machine = .ok signal final) :
    final.frame.queuedHalt = none := by
  have prudently : ∀ {phase : Phase} {action : Run Signal}, Prudent False False phase action →
      action machine = .ok signal final → final.frame.queuedHalt = none :=
    fun prudent done => (congrArg (·.2.2) (prudent.stays.of_ok done)).trans unqueued
  rcases opcode.regular_or_startsChild with regular | rfl | starts
  · exact prudently (prudent_execute regular False.elim False.elim) done
  · exact prudently prudent_destruction done
  · have course := course host opcode starts
    rw [course.executes] at done
    obtain ⟨request, middle, reads, rest⟩ := bind_eq_ok.mp done
    have stillUnqueued : middle.frame.queuedHalt = none :=
      (congrArg (·.2.2) (course.looks.stays.of_ok reads)).trans unqueued
    exact unqueued_of_performing (course.pays request) (course.resumes request) stillUnqueued rest

end Instruction

/-- An instruction that runs out of gas leaves the frame, the warm keys, the substate and the world
as they were; only the return data may be gone. This is so for every byte and for all prices, as
long as no halt is queued in the frame. -/
theorem gas_comes_before_effects (host : Host) (plain : host.Plain) (budget : Nat) (byte : UInt8)
    (machine final : Machine) (unqueued : machine.frame.queuedHalt = none)
    (starved : Instruction.execute host (Interpreter.runFrame host (Interpreter.run host budget))
      (.ofByte byte) machine = .error (.halt .outOfGas) final) :
    final.frame.stack = machine.frame.stack ∧ final.frame.memory = machine.frame.memory ∧
      final.frame.gas = machine.frame.gas ∧ final.frame.output = machine.frame.output ∧
      final.warmth = machine.warmth ∧ final.substate = machine.substate ∧
      final.world = machine.world := by
  have enters := Interpreter.enters_runFrame plain (Interpreter.concludes_run plain budget)
  obtain ⟨returnData, rfl⟩ := Instruction.untouched_of_execute plain enters unqueued starved
  exact ⟨rfl, rfl, rfl, rfl, rfl, rfl, rfl⟩

/-- A frame that can afford to look at a slot, but not to write it. -/
def poorMachine : Machine where
  frame :=
    { Frame.start
        { kind := .call
          sender := .zero
          recipient := .ofNat 1000
          codeAddress := .ofNat 1000
          value := .zero
          calldata := ByteArray.empty
          isStatic := false
          gasLimit := 3000
          depth := 0
          returnOffset := 0
          returnSize := 0 }
        default .empty .empty with
      stack := ⟨#[.one, .one], [], by decide⟩ }
  suspended := []
  substate := .empty
  world := .empty
  warmth := .empty
  cache := default
  pool := .empty
  events := []

def poorHost : Host := .standard .blank default .standard

/-- Why the frame cannot execute a byte, if it cannot. -/
def poorFailure? (byte : UInt8) : Option Failure :=
  match Instruction.execute poorHost (Interpreter.runFrame poorHost (Interpreter.run poorHost 0))
    (.ofByte byte) poorMachine with
  | .ok _ _ => none
  | .error cause _ => some cause

theorem poor_frame_keeps_its_operands :
    ∃ final, Instruction.execute poorHost
        (Interpreter.runFrame poorHost (Interpreter.run poorHost 0)) (.ofByte 0x55) poorMachine =
          .error (.halt .outOfGas) final ∧
      final.frame.stack = poorMachine.frame.stack ∧ final.frame.gas = 3000 ∧
      final.warmth = .empty ∧ final.world = .empty := by
  have starves : poorFailure? 0x55 = some (.halt .outOfGas) := by decide +kernel
  unfold poorFailure? at starves
  split at starves
  · cases starves
  · rename_i cause final starved
    cases starves
    obtain ⟨stack, _, gas, _, warmth, _, world⟩ :=
      gas_comes_before_effects poorHost ⟨rfl, rfl⟩ 0 0x55 poorMachine final rfl starved
    exact ⟨final, starved, stack, gas, warmth, world⟩

end CancunMachine
