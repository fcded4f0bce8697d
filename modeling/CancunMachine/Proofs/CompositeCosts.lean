import Mathlib.Tactic
import CancunMachine.Proofs.Copies
import CancunMachine.Proofs.MemoryGas.Price
import CancunMachine.Proofs.Word.Bits

/-!
# Composite costs are exact

The cost of an instruction chains checked products and checked sums. Whatever the prices are, a step
that does not fit in 64 bits is a part of a total that does not: so a composite cost is the exact one
or cannot be paid.
-/

namespace CancunMachine

open Ending

variable {needed current : Nat}

/-- What a fixed cost and the growth of the memory beside it come to: their sum, if the growth has a
price and the sum fits in 64 bits. -/
def Memory.bill (needed current fixed : Nat) : Except Halt UInt64 :=
  Gas.bill ((growth? needed current).map (fixed + ·))

namespace Gas

variable {fixed : Nat} {next : UInt64 → Except Halt UInt64}

theorem growth_bind
    (rest : ∀ growth : UInt64, next growth = bill (some (fixed + growth.toNat))) :
    (Memory.expansionPrice needed current >>= next) = Memory.bill needed current fixed := by
  rw [Memory.expansionPrice_eq_bill]
  refine bill_bind (fun total member => ?_) fun growth grows => ?_
  · obtain ⟨growth, grows, rfl⟩ := Option.map_eq_some_iff.mp member
    exact ⟨growth, grows, Nat.le_add_left _ _⟩
  · rw [rest growth, grows, Option.map_some]

/-- A part of the fixed cost is billed before the whole. -/
theorem part_bind {part : Nat} (covered : part ≤ fixed)
    (rest : ∀ price : UInt64, price.toNat = part → next price = Memory.bill needed current fixed) :
    (bill (some part) >>= next) = Memory.bill needed current fixed := by
  refine bill_bind (fun total member => ?_) fun price equal => ?_
  · obtain ⟨growth, grows, rfl⟩ := Option.map_eq_some_iff.mp member
    exact ⟨part, rfl, covered.trans (Nat.le_add_right _ _)⟩
  · exact rest price (Option.some.inj equal).symm

theorem sum_growth (costs : List UInt64) :
    (do sum (costs ++ [← Memory.expansionPrice needed current])) =
      Memory.bill needed current (costs.map UInt64.toNat).sum :=
  growth_bind fun growth => by rw [sum_eq_bill, List.map_append, List.sum_append]; rfl

end Gas

namespace GasSchedule

variable (schedule : GasSchedule)

theorem wordCount_lt (size : UInt64) : wordCount size.toNat < positionLimit := by
  have small := size.toNat_lt
  unfold wordCount positionLimit
  omega

/-- What copies and hashes have in common: a price for each word beside the base. -/
theorem words_eq_bill (base word size : UInt64) :
    (do Gas.sum [base, ← Gas.times (wordCount size.toNat) word,
        ← Memory.expansionPrice needed current]) =
      Memory.bill needed current (base.toNat + wordCount size.toNat * word.toNat) := by
  rw [Gas.times_eq_bill (wordCount_lt size)]
  refine Gas.part_bind (Nat.le_add_left _ _) fun words equal => ?_
  rw [← equal]
  exact Gas.sum_growth [base, words]

theorem exp_eq_bill (exponent : Word) :
    schedule.exp exponent = Gas.bill (some (schedule.expStatic.toNat +
      (Nat.digits 256 exponent.toNat).length * schedule.expByte.toNat)) := by
  have few : exponent.byteLength ≤ 32 := (exponent.byteLength_le_iff 32).mpr exponent.toNat_lt_count
  rw [← exponent.byteLength_eq_length_digits, exp, Gas.times_eq_bill (few.trans_lt (by decide))]
  refine Gas.bill_bind ?_ fun bytes equal => ?_
  · rintro _ ⟨⟩
    exact ⟨_, rfl, Nat.le_add_left _ _⟩
  · rw [Option.some.inj equal]
    exact Gas.sum_eq_bill [schedule.expStatic, bytes]

theorem log_eq_bill (size topics : UInt64) :
    schedule.log needed current size.toNat topics.toNat =
      Memory.bill needed current (schedule.logStatic.toNat +
        topics.toNat * schedule.logTopic.toNat + size.toNat * schedule.logDataByte.toNat) := by
  rw [log, Gas.times_eq_bill topics.toNat_lt, Gas.times_eq_bill size.toNat_lt]
  refine Gas.part_bind (by omega) fun named namedEqual => ?_
  refine Gas.part_bind (by omega) fun bytes bytesEqual => ?_
  rw [← namedEqual, ← bytesEqual, Nat.add_assoc]
  exact Gas.sum_growth [schedule.logStatic, named, bytes]

theorem create_eq_bill (size : UInt64) (hashes : Bool) :
    schedule.create needed current size.toNat hashes =
      Memory.bill needed current (schedule.createBase.toNat +
        wordCount size.toNat * schedule.initcodeWord.toNat +
        if hashes then wordCount size.toNat * schedule.keccakWord.toNat else 0) := by
  -- Whether the initcode is hashed or not, the rest is priced in the same way.
  have summed : ∀ hashing : UInt64, (do
      Gas.sum [schedule.createBase, ← Gas.times (wordCount size.toNat) schedule.initcodeWord,
        hashing, ← Memory.expansionPrice needed current]) =
      Memory.bill needed current (schedule.createBase.toNat +
        wordCount size.toNat * schedule.initcodeWord.toNat + hashing.toNat) := by
    intro hashing
    rw [Gas.times_eq_bill (wordCount_lt size)]
    refine Gas.part_bind (by omega) fun words equal => ?_
    rw [← equal, Nat.add_assoc]
    exact Gas.sum_growth [schedule.createBase, words, hashing]
  simp only [create]
  split
  · rw [Gas.times_eq_bill (wordCount_lt size) schedule.keccakWord]
    exact Gas.part_bind (Nat.le_add_left _ _) fun hashing equal => equal ▸ summed hashing
  · exact (pure_bind 0 _).trans (summed 0)

theorem call_eq_bill (movesValue createsAccount : Bool) :
    schedule.call needed current movesValue createsAccount =
      Memory.bill needed current (schedule.callBase.toNat +
        (if movesValue then schedule.callValue.toNat else 0) +
        if movesValue ∧ createsAccount then schedule.newAccount.toNat else 0) := by
  refine Gas.growth_bind fun growth => ?_
  rw [Gas.sum_eq_bill]
  refine congrArg (fun cost => Gas.bill (some cost)) ?_
  cases movesValue <;> cases createsAccount
  all_goals
    simp only [List.map_cons, List.map_nil, List.sum_cons, List.sum_nil, UInt64.toNat_zero,
      Bool.and_true, Bool.and_false, Bool.false_eq_true, and_self, and_false, false_and, if_true,
      if_false]
    omega

end GasSchedule

namespace Instruction

variable {host : Host} {machine final : Machine} {signal : Signal}

theorem extcodecopy_takes (done : extcodecopy host machine = .ok signal final) :
    ∃ needed price,
      Memory.sizeToReach (machine.frame.stack.operand 1) (machine.frame.stack.operand 3) =
        .ok needed ∧
      host.schedule.extcodecopy (machine.frame.stack.operand 3) needed machine.frame.memory.size
        (!machine.warmth.isWarmAddress ((machine.frame.stack.top? 0).getD .zero).toAddress) =
          .ok price ∧
      price ≤ machine.frame.gas ∧ final.frame.gas = machine.frame.gas - price := by
  obtain ⟨start, needed, price, warmth, stack, _, covers, total, enough, works⟩ :=
    extcodecopy_eq_ok done
  refine ⟨needed, price, covers, total, enough, ?_⟩
  split at works
  · cases works
    rfl
  · obtain ⟨code, _, looked, copies⟩ := bind_eq_ok.mp works
    obtain ⟨world, _, rfl⟩ := Run.onWorld_eq_ok.mp looked
    obtain ⟨_, _, updates, returned⟩ := bind_eq_ok.mp copies
    obtain ⟨memory, _, rfl⟩ := Run.onMemory_eq_ok.mp updates
    cases returned
    rfl

end Instruction

/-- Every composite cost is the sum of its parts, each counted as often as it occurs, or out of gas if
the sum does not fit in 64 bits or the memory cannot be paid for. A copy of code that succeeds takes
what the copy costs for an account as cold as it was. -/
theorem composite_costs_are_exact (schedule : GasSchedule) (needed current : Nat)
    (size topics : UInt64) (cold hashes movesValue createsAccount : Bool) (exponent : Word) :
    schedule.copy needed current size.toNat = Memory.bill needed current
        ((schedule.tier .veryLow).toNat + wordCount size.toNat * schedule.copyWord.toNat) ∧
      schedule.extcodecopy size.toNat needed current cold = Memory.bill needed current
        ((schedule.accountAccess cold).toNat + wordCount size.toNat * schedule.copyWord.toNat) ∧
      schedule.memoryAccess needed current =
        Memory.bill needed current (schedule.tier .veryLow).toNat ∧
      schedule.exp exponent = Gas.bill (some (schedule.expStatic.toNat +
        (Nat.digits 256 exponent.toNat).length * schedule.expByte.toNat)) ∧
      schedule.keccak256 needed current size.toNat = Memory.bill needed current
        (schedule.keccakStatic.toNat + wordCount size.toNat * schedule.keccakWord.toNat) ∧
      schedule.log needed current size.toNat topics.toNat = Memory.bill needed current
        (schedule.logStatic.toNat + topics.toNat * schedule.logTopic.toNat +
          size.toNat * schedule.logDataByte.toNat) ∧
      schedule.create needed current size.toNat hashes = Memory.bill needed current
        (schedule.createBase.toNat + wordCount size.toNat * schedule.initcodeWord.toNat +
          if hashes then wordCount size.toNat * schedule.keccakWord.toNat else 0) ∧
      schedule.call needed current movesValue createsAccount = Memory.bill needed current
        (schedule.callBase.toNat + (if movesValue then schedule.callValue.toNat else 0) +
          if movesValue ∧ createsAccount then schedule.newAccount.toNat else 0) ∧
      schedule.codeDeposit size.toNat =
        Gas.bill (some (size.toNat * schedule.codeDepositByte.toNat)) ∧
      ∀ (host : Host) (enter : Transfer → Run Outcome) (machine final : Machine) (signal : Signal),
        Instruction.execute host enter .extcodecopy machine = .ok signal final →
        ∃ reached price,
          Memory.sizeToReach (machine.frame.stack.operand 1) (machine.frame.stack.operand 3) =
            .ok reached ∧
          host.schedule.extcodecopy (machine.frame.stack.operand 3) reached
            machine.frame.memory.size (!machine.warmth.isWarmAddress
              ((machine.frame.stack.top? 0).getD .zero).toAddress) = .ok price ∧
          price ≤ machine.frame.gas ∧ final.frame.gas = machine.frame.gas - price :=
  ⟨GasSchedule.words_eq_bill _ _ size, GasSchedule.words_eq_bill _ _ size,
    Gas.sum_growth [schedule.tier .veryLow], schedule.exp_eq_bill exponent,
    GasSchedule.words_eq_bill _ _ size, schedule.log_eq_bill size topics,
    schedule.create_eq_bill size hashes, schedule.call_eq_bill movesValue createsAccount,
    Gas.times_eq_bill size.toNat_lt _, fun _ _ _ _ _ done => Instruction.extcodecopy_takes done⟩

/-- A host whose accounts are dearer when they are warm. -/
def dearWarmth : Host :=
  { Host.standard .blank default .standard with
    schedule := { GasSchedule.cancun with warmAccess := 40, coldAccountAccess := 7 } }

/-- A frame that is about to copy three bytes of code of an account that is cold. -/
def coldCopy : Machine :=
  .bare ByteArray.empty ⟨#[.ofNat 3, .ofNat 0, .ofNat 1, .ofNat 9], [], by decide⟩ .empty

theorem cold_copy_takes_cold_price :
    ∃ final, Instruction.execute dearWarmth (fun _ => Run.halt .outOfGas) .extcodecopy coldCopy =
        .ok .proceed final ∧ final.frame.gas = 100 - (7 + 3 + 3) := by
  obtain ⟨final, done⟩ : ∃ final, Instruction.execute dearWarmth (fun _ => Run.halt .outOfGas)
      .extcodecopy coldCopy = .ok .proceed final := ⟨_, rfl⟩
  obtain ⟨_, _, _, _, _, _, _, _, _, takes⟩ :=
    composite_costs_are_exact .cancun 0 0 0 0 false false false false .zero
  obtain ⟨reached, price, covers, priced, _, taken⟩ := takes _ _ _ _ _ done
  have whole : reached = 32 := Except.ok.inj (covers.symm.trans rfl)
  rw [whole] at priced
  have total : price = 7 + 3 + 3 := Except.ok.inj (priced.symm.trans rfl)
  exact ⟨final, done, by rw [taken, total]; rfl⟩

end CancunMachine
