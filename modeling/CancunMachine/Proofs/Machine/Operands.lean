import Mathlib.Tactic
import CancunMachine.Proofs.Memory.Returned
import CancunMachine.Proofs.Stack.Exchange

/-!
# Operands and payments

What an instruction does before its own work: it looks at its operands, measures their ranges, pays
and takes them off the stack. Only the gas and the stack change.
-/

namespace CancunMachine

open Ending

theorem looks_peekThree : Looks Run.peekThree :=
  looks_bind (Instruction.looks_peek 3) fun _ => looks_pure _

theorem looks_peekFour : Looks Run.peekFour :=
  looks_bind (Instruction.looks_peek 4) fun _ => looks_pure _

namespace Run

variable {machine final : Machine}

theorem chargeCost_eq_ok {cost : Except Halt UInt64}
    (done : chargeCost cost machine = .ok () final) :
    ∃ price, cost = .ok price ∧ price ≤ machine.frame.gas ∧
      final = { machine with frame.gas := machine.frame.gas - price } := by
  obtain ⟨price, _, priced, charged⟩ := bind_eq_ok.mp done
  obtain ⟨known, rfl⟩ := ofHalting_eq_ok.mp priced
  obtain ⟨enough, rfl⟩ := charge_eq_ok.mp charged
  exact ⟨price, known, enough, rfl⟩

/-- Taking the topmost word off leaves the words below it. -/
theorem popOne_eq_ok {word : Word} (done : popOne machine = .ok word final) :
    ∃ stack, machine.frame.stack.operand 0 = word.toNat ∧
      stack.toList = machine.frame.stack.toList.drop 1 ∧
      final = { machine with frame.stack := stack } := by
  obtain ⟨_, peeked, rest⟩ :=
    bind_eq_ok_of_looks (looks_bind (Instruction.looks_peek 1) fun _ => looks_pure _) done
  obtain ⟨_, _, drops, returned⟩ := bind_eq_ok.mp rest
  obtain ⟨stack, dropped, rfl⟩ := updateStack_eq_ok.mp drops
  cases returned
  exact ⟨stack, operand_of_peekOne peeked, (Stack.toList_drop dropped).2, rfl⟩

theorem push_proceed_eq_ok {word : Word} {signal : Signal}
    (done : (do push word; return Signal.proceed : Run Signal) machine = .ok signal final) :
    final.frame.stack.toList = word :: machine.frame.stack.toList := by
  obtain ⟨_, _, pushes, returned⟩ := bind_eq_ok.mp done
  obtain ⟨stack, pushed, rfl⟩ := updateStack_eq_ok.mp pushes
  cases returned
  exact Stack.toList_push pushed

theorem onMemory_proceed_eq_ok {action : Memory.Action Unit} {signal : Signal}
    (done : (do onMemory action; return Signal.proceed : Run Signal) machine = .ok signal final) :
    action machine.frame.memory = .ok () final.frame.memory := by
  obtain ⟨_, _, acts, returned⟩ := bind_eq_ok.mp done
  obtain ⟨memory, acted, rfl⟩ := onMemory_eq_ok.mp acts
  cases returned
  exact acted

/-- Paying and taking operands off changes the gas and the stack. -/
theorem chargeCost_drop_eq_ok {Alpha : Type} {cost : Except Halt UInt64} {count : Nat}
    {next : Run Alpha} {value : Alpha}
    (done : (do chargeCost cost; drop count; next) machine = .ok value final) :
    ∃ gas stack, next { machine with frame := { machine.frame with gas, stack } } =
      .ok value final := by
  obtain ⟨_, _, charged, rest⟩ := bind_eq_ok.mp done
  obtain ⟨_, _, _, rfl⟩ := chargeCost_eq_ok charged
  obtain ⟨_, _, drops, rest⟩ := bind_eq_ok.mp rest
  obtain ⟨stack, _, rfl⟩ := updateStack_eq_ok.mp drops
  exact ⟨_, stack, rest⟩

theorem placed_of_range {length offset : Word} {measured : Nat × Nat}
    (ranged : range length offset machine = .ok measured final) :
    measured.1 = length.toNat ∧ (length.toNat = 0 ∨ measured.2 = offset.toNat) := by
  have found := (ofHalting_eq_ok.mp ranged).1
  have size := (Word.range_eq_ok found).1
  exact ⟨size, size ▸ Word.start_of_range found⟩

end Run

/-- The access and what is to be paid beside it are taken from the gas in one sum, and the account is
warmed. -/
theorem Instruction.chargeCodeAccess_eq_ok {host : Host} {machine final : Machine}
    {address : Address} {extra : UInt64}
    (done : chargeCodeAccess host address extra machine = .ok () final) :
    ∃ price warmth, Gas.plus
        (host.schedule.accountAccess (!machine.warmth.isWarmAddress address)) extra = .ok price ∧
      price ≤ machine.frame.gas ∧
      final = { machine with frame.gas := machine.frame.gas - price, warmth } := by
  -- The accounts of the host are only asked for more gas than they may take.
  have access : (do
      let cold ← Run.isColdAddress address
      Run.chargeCost (Gas.plus (host.schedule.accountAccess cold) extra)
      Run.warmAddress address : Run Unit) machine = .ok () final := by
    unfold chargeCodeAccess at done
    split at done
    · obtain ⟨estimate, _, rest⟩ := bind_eq_ok_of_looks (looks_ofHalting _) done
      obtain ⟨gas, _, rest⟩ := bind_eq_ok_of_looks (looks_frame _) rest
      split at rest
      · cases rest
      · exact rest
    · exact done
  obtain ⟨cold, _, asked, rest⟩ := bind_eq_ok.mp access
  cases asked
  obtain ⟨_, _, charged, warmed⟩ := bind_eq_ok.mp rest
  obtain ⟨price, priced, enough, rfl⟩ := Run.chargeCost_eq_ok charged
  cases warmed
  exact ⟨price, _, priced, enough, rfl⟩

/-- A machine in front of some code, with operands and a memory in an empty world. -/
def Machine.bare (code : ByteArray) (stack : Stack) (memory : Memory) : Machine where
  frame := .start ⟨.call, .zero, .zero, .zero, .zero, ByteArray.empty, false, 100, 0, 0, 0⟩
    ⟨0, .ofCode code⟩ stack memory
  suspended := []
  substate := .empty
  world := .empty
  warmth := .empty
  cache := default
  pool := .empty
  events := []

end CancunMachine
