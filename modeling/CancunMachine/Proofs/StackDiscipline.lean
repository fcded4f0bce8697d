import Mathlib.Tactic
import CancunMachine.Proofs.Evolution.Moments
import CancunMachine.Proofs.Stack.Dispatch

/-!
# Every instruction keeps what lies below its operands

An instruction that ends well has found its operands, has given as many words as it should, and has
not touched the stack below them, also when it has run a child in between.
-/

namespace CancunMachine

open Instruction

/-- An instruction that ends well has found its operands and has left all below them alone; without
its operands it never ends well. -/
theorem operands_are_exchanged (host : Host) (budget : Nat) (byte : UInt8) (machine : Machine) :
    let opcode := Opcode.ofByte byte
    let perform := execute host (Interpreter.runFrame host (Interpreter.run host budget)) opcode
    (∀ signal final, perform machine = .ok signal final →
      opcode.arity.1 ≤ machine.frame.stack.size ∧
        final.frame.stack.size = machine.frame.stack.size - opcode.arity.1 + opcode.arity.2 ∧
        final.frame.stack.size ≤ 1024 ∧
        final.frame.stack.toList.drop opcode.arity.2 =
          machine.frame.stack.toList.drop opcode.arity.1) ∧
      (machine.frame.stack.size < opcode.arity.1 →
        ∀ signal final, perform machine ≠ .ok signal final) := by
  intro opcode perform
  have exchanges : Exchanges opcode.arity.1 opcode.arity.2 perform :=
    execute_exchanges host (Interpreter.spares_children host budget) opcode
  constructor
  · intro signal final done
    have exchanged := exchanges _ _ _ done
    have enough := exchanged.enough
    have size := exchanged.size
    exact ⟨enough, by omega, final.frame.stack.bounded, exchanged.below⟩
  · intro missing signal final done
    exact absurd (exchanges _ _ _ done).enough (Nat.not_le.mpr missing)

/-- Whether a frame goes on after the instruction of a byte. -/
def proceeds (host : Host) (budget : Nat) (byte : UInt8) (machine : Machine) : Bool :=
  match execute host (Interpreter.runFrame host (Interpreter.run host budget)) (.ofByte byte)
    machine with
  | .ok .proceed _ => true
  | _ => false

theorem of_proceeds {host : Host} {budget : Nat} {byte : UInt8} {machine : Machine}
    (goesOn : proceeds host budget byte machine = true) :
    ∃ final, execute host (Interpreter.runFrame host (Interpreter.run host budget)) (.ofByte byte)
      machine = .ok .proceed final := by
  unfold proceeds at goesOn
  split at goesOn
  · rename_i final done
    exact ⟨final, done⟩
  · cases goesOn

/-- A contract that calls another one with a 7 below the operands of the call. -/
def callingWorld : World :=
  (World.empty.setCode (.ofNat 1000)
    ⟨#[0x60, 7, 0x5f, 0x5f, 0x5f, 0x5f, 0x5f, 0x61, 0x07, 0xd0, 0x61, 0xff, 0xff, 0xf1]⟩).setCode
      (.ofNat 2000) ⟨#[0x60, 1, 0x60, 2]⟩

def callingHost : Host :=
  .standard .blank ⟨.zero, .account (.ofNat 1000), .zero, ByteArray.empty, 200000, []⟩ .standard

theorem call_keeps_the_word_below :
    ∃ machine final, execute callingHost
        (Interpreter.runFrame callingHost (Interpreter.run callingHost 10)) (.ofByte 0xf1) machine =
          .ok .proceed final ∧
      machine.frame.stack.size = 8 ∧ final.frame.stack.size = 2 ∧
      final.frame.stack.toList.drop 1 = [.ofLimb 7] := by
  have shown : (Transaction.moment? callingHost callingWorld (List.replicate 8 .past)).map
      (fun moments => (moments.2.frame.stack.size, moments.2.frame.stack.toList.drop 7,
        proceeds callingHost 10 0xf1 moments.2)) = some (8, [.ofLimb 7], true) := by
    decide +kernel
  obtain ⟨_, machine, _, _, answer⟩ := Transaction.moment?_shows
    (fun moment => (moment.frame.stack.size, moment.frame.stack.toList.drop 7,
      proceeds callingHost 10 0xf1 moment)) (by decide) shown
  simp only [Prod.mk.injEq] at answer
  obtain ⟨size, below, ends⟩ := answer
  obtain ⟨final, done⟩ := of_proceeds ends
  obtain ⟨_, left, _, kept⟩ :=
    (operands_are_exchanged callingHost 10 0xf1 machine).1 .proceed final done
  have arity : (Opcode.ofByte 0xf1).arity = (7, 1) := by decide +kernel
  rw [arity] at left kept
  refine ⟨machine, final, done, size, ?_, ?_⟩
  · rw [left, size]
    rfl
  · exact kept.trans below

end CancunMachine
