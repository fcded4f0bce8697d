import Mathlib.Tactic
import CancunMachine.Proofs.Evolution.Price
import CancunMachine.Proofs.Memory.Image
import CancunMachine.Proofs.MemoryGas.Child
import CancunMachine.Proofs.Stack.Dispatch

/-!
# The memory of a caller

A call grows the memory over both of its ranges before its callee is entered. When the callee is
back, its output is written over the range that the last two operands name, which lies within the
memory.
-/

namespace CancunMachine

open Ending

namespace Memory

variable {memory grown : Memory} {offset count needed : Nat}

theorem size_of_grow (aligned : 32 ∣ needed) (grows : grow needed memory = .ok () grown) :
    grown.size = max memory.size needed := by
  have growth := memory.growth needed
  rw [grows] at growth
  cases growth with
  | covered covered => omega
  | grown short rounded _ =>
      unfold roundToWord? wordCount at rounded
      split at rounded <;> cases rounded
      simp only [extended]
      omega

theorem get_of_grow (grows : grow needed memory = .ok () grown) (position : Nat) :
    Bytes.get grown.buffer position = Bytes.get memory.buffer position := by
  have growth := memory.growth needed
  rw [grows] at growth
  cases growth with
  | covered => rfl
  | grown => exact bytes_extended memory _ position

theorem eq_of_reach (covered : offset + count ≤ memory.size)
    (reaches : reach offset count memory = .ok () grown) : grown = memory := by
  rw [reach_of_covered (reach_eq_ok.mp reaches).1 covered] at reaches
  cases reaches
  rfl

theorem eq_of_load {bytes : ByteArray} (covered : count = 0 ∨ offset + count ≤ memory.size)
    (loads : load offset count memory = .ok bytes grown) : grown = memory := by
  obtain ⟨_, _, same⟩ | ⟨nonempty, reaches, _⟩ := load_eq_ok.mp loads
  · exact same
  · exact eq_of_reach (covered.resolve_left nonempty) reaches

theorem size_write (memory : Memory) (offset : Nat) (data : ByteArray) :
    (memory.write offset data).size = memory.size := rfl

/-- Storing to a range within the memory replaces the bytes of the range. -/
theorem replaced_of_storePadded {data : ByteArray}
    (covered : count = 0 ∨ offset + count ≤ memory.size)
    (stores : storePadded offset data count memory = .ok () grown) :
    grown.size = memory.size ∧ ∀ position, Bytes.get grown.buffer position =
      if offset ≤ position ∧ position < offset + count then Bytes.get data (position - offset)
      else Bytes.get memory.buffer position := by
  obtain ⟨none, rfl⟩ | ⟨nonempty, reached, reaches, rfl⟩ := storePadded_eq_ok.mp stores
  · exact ⟨rfl, fun position => (if_neg (by omega)).symm⟩
  · have within := covered.resolve_left nonempty
    rw [eq_of_reach within reaches]
    have size := Bytes.size_resized data count
    refine ⟨size_write _ _ _, fun position => ?_⟩
    rw [write, Bytes.get_overwrite (by rw [size]; exact within.trans memory.fits), size]
    split
    · exact Bytes.get_resized (by omega)
    · rfl

theorem get_contents
    (clean : ∀ position, memory.size ≤ position → Bytes.get memory.buffer position = 0)
    (position : Nat) : Bytes.get memory.contents position = Bytes.get memory.buffer position := by
  rw [contents, Bytes.get_extract, Nat.sub_zero, Nat.zero_add]
  split
  · rfl
  · exact (clean position (by omega)).symm

/-- A memory that grows and then takes bytes up is filled with zeros up to its new size. -/
theorem contents_of_returned {returned : Memory} {data : ByteArray} (aligned : 32 ∣ needed)
    (clean : ∀ position, memory.size ≤ position → Bytes.get memory.buffer position = 0)
    (covered : count = 0 ∨ offset + count ≤ needed) (grows : grow needed memory = .ok () grown)
    (stores : storePadded offset data count grown = .ok () returned) :
    returned.size = max memory.size needed ∧ ∀ position, Bytes.get returned.contents position =
      if offset ≤ position ∧ position < offset + count then Bytes.get data (position - offset)
      else Bytes.get memory.contents position := by
  have grownSize := size_of_grow aligned grows
  have within : count = 0 ∨ offset + count ≤ grown.size := by omega
  obtain ⟨size, replaced⟩ := replaced_of_storePadded within stores
  have stillClean : ∀ position, returned.size ≤ position →
      Bytes.get returned.buffer position = 0 := by
    intro position beyond
    rw [replaced, if_neg (by omega), get_of_grow grows]
    exact clean position (by omega)
  refine ⟨size.trans grownSize, fun position => ?_⟩
  rw [get_contents stillClean, get_contents clean, replaced, get_of_grow grows]

end Memory

theorem Word.start_of_range {length offset : Word} {size start : Nat}
    (fits : length.range offset = .ok (size, start)) : size = 0 ∨ start = offset.toNat := by
  unfold range at fits
  split at fits
  · cases fits
    exact .inl rfl
  · obtain ⟨_, _, rest⟩ := Gas.bind_eq_ok.mp fits
    obtain ⟨position, placed, same⟩ := Gas.bind_eq_ok.mp rest
    cases same
    exact .inr (Word.position_eq_ok placed)

namespace Instruction

variable {host : Host} {machine final : Machine} {request : CallRequest} {outcome : Outcome}

theorem needs_of_callReader? {opcode : Opcode} {read : Run CallRequest}
    (reads : callReader? host opcode = some read) (done : read machine = .ok request final) :
    request.Needs (opcode.needed machine.frame.stack) := by
  cases opcode <;> cases reads
  · exact needs_of_readCall done
  · exact needs_of_readCallcode done
  · exact needs_of_readDelegatecall done
  · exact needs_of_readStaticcall done

/-- The range that the output of a callee is wanted in, as two operands of its call name it. -/
structure CallRequest.Returns (request : CallRequest) (offset size : Nat) : Prop where
  sized : request.operands.returnSize = size
  placed : size = 0 ∨ request.operands.returnOffset = offset

/-- The last two words of a call name the range of its output. -/
theorem returns_of_peek {target : CallTarget} {operands : CallOperands} {count first : Nat}
    {words : Vector Word count} {gas argumentsOffset argumentsSize : Word}
    (room : first + 1 < count) (peeked : machine.frame.stack.peek count = .ok words)
    (reads : CallOperands.read gas argumentsOffset argumentsSize words[first] words[first + 1]
      machine = .ok operands final) :
    CallRequest.Returns ⟨target, operands, count⟩ (machine.frame.stack.operand first)
      (machine.frame.stack.operand (first + 1)) := by
  obtain ⟨arguments, _, _, rest⟩ := bind_eq_ok.mp reads
  obtain ⟨returned, _, returnedRead, same⟩ := bind_eq_ok.mp rest
  cases same
  have ranged := (Run.ofHalting_eq_ok.mp returnedRead).1
  have sized := (Word.range_eq_ok ranged).1
  rw [Stack.operand_of_peek peeked (by omega), Stack.operand_of_peek peeked room]
  exact ⟨sized, sized ▸ Word.start_of_range ranged⟩

theorem returns_of_callReader? {opcode : Opcode} {read : Run CallRequest}
    (reads : callReader? host opcode = some read) (done : read machine = .ok request final) :
    request.Returns (machine.frame.stack.operand (opcode.arity.1 - 2))
      (machine.frame.stack.operand (opcode.arity.1 - 1)) := by
  cases opcode <;> cases reads
  case call =>
    obtain ⟨words, operands, peeked, read, rest⟩ := reading_eq_ok readOperands_eq_ok done
    by_cases sends : (machine.frame.invocation.isStatic && !words[2].isZero) = true
    · simp only [if_pos sends, bind_eq_ok, Run.halt_apply, reduceCtorEq, false_and,
        exists_false] at rest
    simp only [if_neg sends] at rest
    cases rest
    exact returns_of_peek (by decide) peeked read
  case callcode =>
    obtain ⟨words, operands, peeked, read, rest⟩ := reading_eq_ok readOperands_eq_ok done
    cases rest
    exact returns_of_peek (by decide) peeked read
  case delegatecall =>
    obtain ⟨words, operands, peeked, read, rest⟩ := reading_eq_ok readOperands_eq_ok done
    cases rest
    exact returns_of_peek (by decide) peeked read
  case staticcall =>
    obtain ⟨words, operands, peeked, read, rest⟩ := reading_eq_ok readOperands_eq_ok done
    cases rest
    exact returns_of_peek (by decide) peeked read

end Instruction

end CancunMachine
