import Mathlib.Tactic
import CancunMachine.Proofs.Machine.Operands
import CancunMachine.Proofs.Memory.Copied

/-!
# Copies and loads read zero-extended sources

The instructions that copy into memory write the bytes of their source from the named offset on,
zeros behind its end, over the named range and nowhere else. A load of call data reads a word in the
same way.
-/

namespace CancunMachine

open Ending

namespace Instruction

variable {host : Host} {enter : Transfer → Run Outcome} {machine final : Machine} {signal : Signal}

/-- A copy of code pays its price for an account as cold as it was, and then it copies, unless the
range is empty or the host owns the account. -/
theorem extcodecopy_eq_ok (done : extcodecopy host machine = .ok signal final) :
    let operand := machine.frame.stack.operand
    let address := ((machine.frame.stack.top? 0).getD .zero).toAddress
    ∃ start needed price warmth stack,
      (operand 3 = 0 ∨ start = operand 1) ∧
      Memory.sizeToReach (operand 1) (operand 3) = .ok needed ∧
      host.schedule.extcodecopy (operand 3) needed machine.frame.memory.size
        (!machine.warmth.isWarmAddress address) = .ok price ∧
      price ≤ machine.frame.gas ∧
      (if operand 3 = 0 || host.policy.isHostAccount address then return .proceed
        else do
          let code ← Run.onWorld (Access.readCode host.refusals address)
          Run.onMemory (Memory.copyFrom start code
            ((machine.frame.stack.top? 2).getD .zero).toNatSaturating (operand 3))
          return Signal.proceed : Run Signal)
        { machine with
          frame := { machine.frame with gas := machine.frame.gas - price, stack }, warmth } =
          .ok signal final := by
  obtain ⟨⟨top, target, offset, length⟩, peeked, rest⟩ := bind_eq_ok_of_looks looks_peekFour done
  obtain ⟨first, second, third, fourth⟩ := Run.operands_of_peekFour peeked
  have named : (machine.frame.stack.top? 0).getD .zero = top := Word.eq_of_toNat_eq first
  have shown : (machine.frame.stack.top? 2).getD .zero = offset := Word.eq_of_toNat_eq third
  obtain ⟨⟨size, start⟩, ranged, rest⟩ := bind_eq_ok_of_looks (looks_ofHalting _) rest
  obtain ⟨rfl, placed⟩ := Run.placed_of_range ranged
  obtain ⟨needed, reached, rest⟩ := bind_eq_ok_of_looks (looks_ofHalting _) rest
  obtain ⟨current, measured, rest⟩ := bind_eq_ok_of_looks (looks_frame _) rest
  obtain ⟨whole, priced, rest⟩ := bind_eq_ok_of_looks (looks_ofHalting _) rest
  obtain ⟨_, _, charged, copies⟩ := bind_eq_ok.mp rest
  obtain ⟨price, warmth, exchanged, enough, rfl⟩ := chargeCodeAccess_eq_ok charged
  obtain ⟨_, _, drops, copies⟩ := bind_eq_ok.mp copies
  obtain ⟨stack, _, rfl⟩ := Run.updateStack_eq_ok.mp drops
  cases measured
  have covers : Memory.sizeToReach target.toNat length.toNat = .ok needed := by
    rw [← (Run.ofHalting_eq_ok.mp reached).1]
    rcases placed with none | placed
    · rw [none, Memory.sizeToReach_eq, Memory.sizeToReach_eq, if_pos rfl, if_pos rfl]
    · rw [← placed]
  have total := GasSchedule.extcodecopy_of_plus (Run.ofHalting_eq_ok.mp priced).1 exchanged
  simp only [named, shown, second, fourth]
  exact ⟨start, needed, price, warmth, stack, placed, covers, total, enough, copies⟩

/-- The memory has taken up bytes of a source. Three operands, from `place` on, name the target, the
offset in the source and the size. -/
def Copies (source : ByteArray) (place : Nat) (before after : Machine) : Prop :=
  before.frame.memory.Replaced after.frame.memory (before.frame.stack.operand place)
    (before.frame.stack.operand (place + 2))
    fun index => Bytes.get source (before.frame.stack.operand (place + 1) + index)

section

variable (clean : ∀ position, machine.frame.memory.size ≤ position →
    Bytes.get machine.frame.memory.buffer position = 0)
include clean

theorem copies_of_copyFrom {source : Frame → ByteArray}
    (steady : ∀ frame gas stack, source { frame with gas, stack } = source frame)
    (small : (source machine.frame).size < 2 ^ 64)
    (done : copyFrom host source machine = .ok signal final) :
    Copies (source machine.frame) 0 machine final := by
  obtain ⟨⟨target, offset, length⟩, peeked, rest⟩ := bind_eq_ok_of_looks looks_peekThree done
  obtain ⟨first, second, third⟩ := Run.operands_of_peekThree peeked
  obtain ⟨⟨size, start⟩, ranged, rest⟩ := bind_eq_ok_of_looks (looks_ofHalting _) rest
  obtain ⟨rfl, placed⟩ := Run.placed_of_range ranged
  obtain ⟨needed, _, copies⟩ := bind_eq_ok_of_looks (looks_ofHalting _) rest
  obtain ⟨current, _, copies⟩ := bind_eq_ok_of_looks (looks_frame _) copies
  obtain ⟨gas, stack, copies⟩ := Run.chargeCost_drop_eq_ok copies
  obtain ⟨_, _, reads, copies⟩ := bind_eq_ok.mp copies
  cases reads
  have stored := Run.onMemory_proceed_eq_ok copies
  rw [steady] at stored
  rw [Copies, first, second, third]
  exact ((Memory.replaced_of_copyFrom clean stored).placed placed).congr fun index _ =>
    Bytes.get_saturating small offset index

/-- The code of a host-owned account is paid for and not copied. -/
theorem copies_of_extcodecopy (done : extcodecopy host machine = .ok signal final) :
    let address := ((machine.frame.stack.top? 0).getD .zero).toAddress
    (host.policy.isHostAccount address = true ∨ machine.frame.stack.operand 3 = 0 →
      final.frame.memory = machine.frame.memory) ∧
    (host.policy.isHostAccount address = false → (machine.world.code address).size < 2 ^ 64 →
      Copies (machine.world.code address) 1 machine final) := by
  obtain ⟨start, needed, price, warmth, stack, placed, _, _, _, copies⟩ := extcodecopy_eq_ok done
  split at copies
  · rename_i idle
    cases copies
    refine ⟨fun _ => rfl, fun user _ => ?_⟩
    have none : machine.frame.stack.operand 3 = 0 := by simpa [user] using idle
    rw [Copies, none]
    exact Memory.replaced_none _ _ _
  · rename_i works
    simp only [Bool.or_eq_true, decide_eq_true_eq, not_or] at works
    refine ⟨fun idle => ?_, fun _ small => ?_⟩
    · exact absurd idle (not_or.mpr works.symm)
    · obtain ⟨code, _, looked, copies⟩ := bind_eq_ok.mp copies
      obtain ⟨world, read, rfl⟩ := Run.onWorld_eq_ok.mp looked
      obtain ⟨rfl, rfl⟩ := (Access.reads_code _).shows read
      have stored := Run.onMemory_proceed_eq_ok copies
      exact ((Memory.replaced_of_copyFrom clean stored).placed placed).congr fun index _ =>
        Bytes.get_saturating small _ index

/-- What is copied from the return data must all be there. -/
theorem copies_of_returndatacopy (done : returndatacopy host machine = .ok signal final) :
    machine.frame.stack.operand 1 + machine.frame.stack.operand 2 ≤
        machine.frame.returnData.size ∧
      Copies machine.frame.returnData 0 machine final := by
  obtain ⟨⟨target, offset, length⟩, peeked, rest⟩ := bind_eq_ok_of_looks looks_peekThree done
  obtain ⟨first, second, third⟩ := Run.operands_of_peekThree peeked
  obtain ⟨⟨size, start⟩, ranged, rest⟩ := bind_eq_ok_of_looks (looks_ofHalting _) rest
  obtain ⟨rfl, placed⟩ := Run.placed_of_range ranged
  cases located : offset.toPosition? with
  | none =>
      simp only [located] at rest
      cases rest
  | some position =>
      simp only [located] at rest
      obtain rfl : position = offset.toNat := Word.position_eq_ok (by rw [Word.position, located])
      obtain ⟨needed, _, copies⟩ := bind_eq_ok_of_looks (looks_ofHalting _) rest
      obtain ⟨current, _, copies⟩ := bind_eq_ok_of_looks (looks_frame _) copies
      obtain ⟨gas, stack, copies⟩ := Run.chargeCost_drop_eq_ok copies
      obtain ⟨_, _, reads, copies⟩ := bind_eq_ok.mp copies
      cases reads
      by_cases covered : offset.toNat + length.toNat ≤ machine.frame.returnData.size
      case neg =>
        simp only [Bytes.window?, if_neg covered] at copies
        cases copies
      simp only [Bytes.window?, if_pos covered] at copies
      have stored := Run.onMemory_proceed_eq_ok copies
      have size : (machine.frame.returnData.extract offset.toNat
          (offset.toNat + length.toNat)).size = length.toNat := by
        rw [ByteArray.size_extract]
        omega
      have replaced := Memory.replaced_of_store clean stored
      simp only [size] at replaced
      rw [Copies, first, second, third]
      refine ⟨covered, (replaced.placed placed).congr fun index within => ?_⟩
      rw [Bytes.get_extract, Nat.add_sub_cancel_left, if_pos within]

theorem copies_of_mcopy (done : mcopy host machine = .ok signal final) :
    Copies machine.frame.memory.contents 0 machine final := by
  obtain ⟨⟨target, offset, length⟩, peeked, rest⟩ := bind_eq_ok_of_looks looks_peekThree done
  obtain ⟨first, second, third⟩ := Run.operands_of_peekThree peeked
  obtain ⟨⟨size, start⟩, ranged, rest⟩ := bind_eq_ok_of_looks (looks_ofHalting _) rest
  obtain ⟨rfl, placed⟩ := Run.placed_of_range ranged
  -- Where nothing is moved, the source is not even looked at.
  have moves : ∀ source : Nat, (length.toNat = 0 ∨ source = offset.toNat) → (do
      let neededSource ← Run.reach source length.toNat
      let neededTarget ← Run.reach start length.toNat
      Run.chargeCost
        (host.schedule.copy (max neededSource neededTarget) (← Run.memorySize) length.toNat)
      Run.drop 3
      Run.onMemory (Memory.copyWithin source start length.toNat)
      return Signal.proceed : Run Signal) machine = .ok signal final →
      Copies machine.frame.memory.contents 0 machine final := by
    intro source located copies
    obtain ⟨_, _, copies⟩ := bind_eq_ok_of_looks (looks_ofHalting _) copies
    obtain ⟨_, _, copies⟩ := bind_eq_ok_of_looks (looks_ofHalting _) copies
    obtain ⟨current, _, copies⟩ := bind_eq_ok_of_looks (looks_frame _) copies
    obtain ⟨gas, stack, copies⟩ := Run.chargeCost_drop_eq_ok copies
    have stored := Run.onMemory_proceed_eq_ok copies
    rw [Copies, first, second, third]
    refine ((Memory.replaced_of_copyWithin clean stored).placed placed).congr fun index within => ?_
    rw [located.resolve_left (by omega)]
  simp only at rest
  split at rest
  · rename_i none
    exact moves 0 (.inl none) rest
  · obtain ⟨source, located, copies⟩ := bind_eq_ok_of_looks (looks_ofHalting _) rest
    exact moves source (.inr (Word.position_eq_ok (Run.ofHalting_eq_ok.mp located).1)) copies

end

/-- The word that is loaded has the 32 bytes from the offset on as its digits. -/
theorem calldataload_eq_ok (small : machine.frame.invocation.calldata.size < 2 ^ 64)
    (done : calldataload host machine = .ok signal final) :
    ∃ word, final.frame.stack.toList = word :: machine.frame.stack.toList.drop 1 ∧
      word.toNat = ∑ index ∈ Finset.range 32,
        (Bytes.get machine.frame.invocation.calldata
          (machine.frame.stack.operand 0 + index)).toNat * 256 ^ (31 - index) := by
  obtain ⟨_, _, charged, rest⟩ := bind_eq_ok.mp done
  obtain ⟨_, rfl⟩ := Run.charge_eq_ok.mp charged
  obtain ⟨offset, _, pops, loads⟩ := bind_eq_ok.mp rest
  obtain ⟨stack, operand, below, rfl⟩ := Run.popOne_eq_ok pops
  obtain ⟨_, _, reads, loads⟩ := bind_eq_ok.mp loads
  cases reads
  refine ⟨_, (Run.push_proceed_eq_ok loads).trans (congrArg _ below), ?_⟩
  rw [Word.toNat_ofBytes_of_size (Bytes.size_resized _ _) (le_refl 32)]
  refine Finset.sum_congr rfl fun index within => ?_
  rw [Bytes.get_resized (Finset.mem_range.mp within), Bytes.get_dropFirst,
    Bytes.get_saturating small, ← operand]

/-- The byte string that an instruction copies from; a host-owned account shows none. -/
def copied? (host : Host) (machine : Machine) : Opcode → Option ByteArray
  | .calldatacopy => some machine.frame.invocation.calldata
  | .codecopy => some machine.frame.program.program.code
  | .extcodecopy =>
      let address := ((machine.frame.stack.top? 0).getD .zero).toAddress
      if host.policy.isHostAccount address then none else some (machine.world.code address)
  | .returndatacopy => some machine.frame.returnData
  | .mcopy => some machine.frame.memory.contents
  | _ => none

theorem copies_of_execute {opcode : Opcode} {source : ByteArray}
    (clean : ∀ position, machine.frame.memory.size ≤ position →
      Bytes.get machine.frame.memory.buffer position = 0)
    (copied : copied? host machine opcode = some source) (small : source.size < 2 ^ 64)
    (done : execute host enter opcode machine = .ok signal final) :
    Copies source (opcode.arity.1 - 3) machine final := by
  cases opcode <;> try cases copied
  case calldatacopy => exact copies_of_copyFrom clean (fun _ _ _ => rfl) small done
  case codecopy => exact copies_of_copyFrom clean (fun _ _ _ => rfl) small done
  case returndatacopy => exact (copies_of_returndatacopy clean done).2
  case mcopy => exact copies_of_mcopy clean done
  case extcodecopy =>
    simp only [copied?] at copied
    split at copied <;> cases copied
    rename_i user
    exact (copies_of_extcodecopy clean done).2 (Bool.not_eq_true _ ▸ user) small

end Instruction

open Instruction

/-- Copies and loads read sources that continue with zeros, at the offset that the whole operand
names: what has been copied stands in the memory, and no other byte of the memory has changed. The
memory is zero behind its end, as every memory that has run is. -/
theorem copies_read_zero_extended_sources (host : Host) (enter : Transfer → Run Outcome)
    {machine final : Machine} {opcode : Opcode} {signal : Signal}
    (clean : ∀ position, machine.frame.memory.size ≤ position →
      Bytes.get machine.frame.memory.buffer position = 0)
    (done : execute host enter opcode machine = .ok signal final) :
    (∀ source, copied? host machine opcode = some source → source.size < 2 ^ 64 →
      Copies source (opcode.arity.1 - 3) machine final) ∧
    (opcode = .returndatacopy → machine.frame.stack.operand 1 + machine.frame.stack.operand 2 ≤
      machine.frame.returnData.size) ∧
    (opcode = .extcodecopy → copied? host machine opcode = none →
      final.frame.memory = machine.frame.memory) ∧
    (opcode = .calldataload → machine.frame.invocation.calldata.size < 2 ^ 64 →
      ∃ word, final.frame.stack.toList = word :: machine.frame.stack.toList.drop 1 ∧
        word.toNat = ∑ index ∈ Finset.range 32, (Bytes.get machine.frame.invocation.calldata
          (machine.frame.stack.operand 0 + index)).toNat * 256 ^ (31 - index)) := by
  refine ⟨fun source copied small => copies_of_execute clean copied small done, ?_, ?_, ?_⟩
  · rintro rfl
    exact (copies_of_returndatacopy clean done).1
  · rintro rfl hidden
    simp only [copied?] at hidden
    split at hidden <;> cases hidden
    rename_i owned
    exact (copies_of_extcodecopy clean done).1 (.inl owned)
  · rintro rfl small
    exact calldataload_eq_ok small done

/-- A frame that is about to copy three bytes of its code, of which there is one, over ones. -/
def overhang : Machine :=
  .bare ⟨#[0x39, 0xaa]⟩ ⟨#[.ofNat 3, .ofNat 1, .ofNat 1], [], by decide⟩
    ⟨⟨Array.replicate 32 0xff⟩, 32, by decide⟩

theorem overhang_is_copied_as_zeros :
    ∃ final, execute (.standard .blank default .standard) (fun _ => Run.halt .outOfGas) .codecopy
        overhang = .ok .proceed final ∧
      [0, 1, 2, 3, 4].map (Bytes.get final.frame.memory.contents) = [0xff, 0xaa, 0, 0, 0xff] := by
  obtain ⟨final, done⟩ : ∃ final, execute (.standard .blank default .standard)
      (fun _ => Run.halt .outOfGas) .codecopy overhang = .ok .proceed final := ⟨_, rfl⟩
  have clean : ∀ position, overhang.frame.memory.size ≤ position →
      Bytes.get overhang.frame.memory.buffer position = 0 :=
    fun _ beyond => Bytes.get_of_le (le_trans (by decide) beyond)
  have copied := (copies_read_zero_extended_sources _ _ clean done).1 _ rfl (by decide)
  have target : overhang.frame.stack.operand 0 = 1 := by decide
  have offset : overhang.frame.stack.operand 1 = 1 := by decide
  have size : overhang.frame.stack.operand 2 = 3 := by decide
  have arity : Opcode.codecopy.arity.1 - 3 = 0 := rfl
  simp only [Copies, arity, target, offset, size] at copied
  refine ⟨final, done, ?_⟩
  have inside := copied.inside
  have outside := copied.outside
  simp only [List.map_cons, List.map_nil, outside 0 (by decide), inside 0 (by decide),
    inside 1 (by decide), inside 2 (by decide), outside 4 (by decide)]
  decide +kernel

end CancunMachine
