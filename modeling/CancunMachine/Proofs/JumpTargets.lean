import CancunMachine.Proofs.Machine.Ending
import CancunMachine.Proofs.Program.Starts
import CancunMachine.Proofs.Word.Product

/-!
# Jumps go to jump targets

A jump target is a `JUMPDEST` byte that starts an instruction. The scan of a program finds exactly
these, and a frame goes to a destination exactly if the whole word is one of them: a word beyond all
positions is taken for the last one, where no code has a byte.
-/

namespace CancunMachine

open Program

/-- A destination beyond all positions is no jump target, and neither is what it is taken for. -/
theorem Program.isJumpTarget_saturating {program : Program} (destination : Word)
    (small : program.size < positionLimit) :
    program.isJumpTarget destination.toNatSaturating = true ↔
      IsTarget program.code destination.toNat := by
  rw [isJumpTarget_iff, Word.toNatSaturating_eq]
  by_cases fits : destination.toNat < Word.limbBase
  · rw [Nat.min_eq_left (Nat.le_sub_one_of_lt fits)]
  · have limit : positionLimit = Word.limbBase := rfl
    unfold Program.size at small
    have beyond : ∀ {position}, program.code.size ≤ position → ¬IsTarget program.code position :=
      fun past target => not_lt.mpr past target.lt_size
    rw [Nat.min_eq_right (by omega)]
    exact iff_of_false (beyond (by omega)) (beyond (by omega))

theorem Frame.jump_eq (frame : Frame) (destination : Word)
    (small : frame.program.program.size < positionLimit) :
    frame.jump destination =
      if IsTarget frame.program.program.code destination.toNat then
        .ok { frame with pc := destination.toNat }
      else .error .invalidJump := by
  have exact := isJumpTarget_saturating destination small
  unfold jump
  by_cases target : IsTarget frame.program.program.code destination.toNat
  · have fits : destination.toNat ≤ Word.limbBase - 1 := by
      have within : destination.toNat < frame.program.program.size := target.lt_size
      have limit : positionLimit = Word.limbBase := rfl
      omega
    rw [if_pos target, if_pos (exact.mpr target), Word.toNatSaturating_eq, Nat.min_eq_left fits]
  · rw [if_neg target, if_neg (mt exact.mp target)]

/-- The jump targets of code are exact. The scan marks a position iff a `JUMPDEST` byte starts an
instruction there; a jump moves the program counter to such a position, and to no other: any other
destination, in particular one that does not fit a position, is an invalid jump that changes nothing. -/
theorem jump_targets_are_exact (machine : Machine) (destination : Word)
    (small : machine.frame.program.program.size < 2 ^ 64) :
    (∀ code position, (Program.ofCode code).isJumpTarget position = true ↔
      ∃ within : position < code.size, code[position] = 0x5b ∧ InstructionStart code position) ∧
    Run.updateFrame (·.jump destination) machine =
      (if IsTarget machine.frame.program.program.code destination.toNat then
        .ok () { machine with frame.pc := destination.toNat }
      else .error (.halt .invalidJump) machine) ∧
    (2 ^ 64 ≤ destination.toNat →
      Run.updateFrame (·.jump destination) machine = .error (.halt .invalidJump) machine) := by
  have jumps := machine.frame.jump_eq destination small
  have runs : Run.updateFrame (·.jump destination) machine =
      if IsTarget machine.frame.program.program.code destination.toNat then
        .ok () { machine with frame.pc := destination.toNat }
      else .error (.halt .invalidJump) machine := by
    by_cases target : IsTarget machine.frame.program.program.code destination.toNat
    · rw [if_pos target] at jumps ⊢
      exact Run.updateFrame_eq_ok.mpr ⟨_, jumps, rfl⟩
    · rw [if_neg target] at jumps ⊢
      exact Run.updateFrame_eq_error.mpr ⟨_, jumps, rfl, rfl⟩
  refine ⟨?_, runs, ?_⟩
  · intro code position
    rw [isJumpTarget_iff]
    exact exists_and_right.symm
  · intro far
    exact runs.trans (if_neg fun target => not_lt.mpr far (target.lt_size.trans small))

/-- A frame in front of `PUSH1 0x5b JUMPDEST`. -/
def crossroads : Machine where
  frame := .start ⟨.call, .zero, .zero, .zero, .zero, ByteArray.empty, false, 100, 0, 0, 0⟩
    ⟨0, .ofCode ⟨#[0x60, 0x5b, 0x5b]⟩⟩ .empty .empty
  suspended := []
  substate := .empty
  world := .empty
  warmth := .empty
  cache := default
  pool := .empty
  events := []

/-- The pushed byte is no target, and neither is a word that only ends like one. -/
theorem crossroads_have_one_target :
    crossroads.frame.program.program.size < 2 ^ 64 ∧
    Run.updateFrame (·.jump (.ofNat 2)) crossroads = .ok () { crossroads with frame.pc := 2 } ∧
    Run.updateFrame (·.jump (.ofNat 1)) crossroads = .error (.halt .invalidJump) crossroads ∧
    Run.updateFrame (·.jump ⟨2, 1, 0, 0⟩) crossroads = .error (.halt .invalidJump) crossroads := by
  have small : crossroads.frame.program.program.size < 2 ^ 64 := by decide
  refine ⟨small, ?_, ?_, (jump_targets_are_exact crossroads ⟨2, 1, 0, 0⟩ small).2.2 (by decide)⟩
  · rw [(jump_targets_are_exact crossroads (.ofNat 2) small).2.1, if_pos (by decide)]
    rfl
  · rw [(jump_targets_are_exact crossroads (.ofNat 1) small).2.1, if_neg (by decide)]

end CancunMachine
