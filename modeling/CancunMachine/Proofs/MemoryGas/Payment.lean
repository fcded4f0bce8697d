import Mathlib.Tactic
import CancunMachine.Proofs.History.Deed
import CancunMachine.Proofs.MemoryGas.Within
import CancunMachine.Proofs.Word.Product

/-!
# Paying for memory

An instruction names the ranges of memory that it works on with its operands. It is metered if
either it has not paid anything, and its memory is as it was, or it has paid for a memory that
covers these ranges and stays within it; only ranges beyond all positions are refused before. An
instruction is metered when it looks at its operands, pays a price that contains the growth of the
memory, and then works within the memory it paid for.
-/

namespace CancunMachine

open Ending

variable {Alpha Beta : Type} {host : Host}

/-- The number of an operand counted from the top of the stack; a missing one counts as zero. -/
def Stack.operand (stack : Stack) (index : Nat) : Nat := ((stack.top? index).getD .zero).toNat

/-- The size that covers a range, given by its offset and its length. -/
def Memory.cover (range : Nat × Nat) : Nat :=
  if range.2 = 0 then 0 else 32 * wordCount (range.1 + range.2)

namespace Opcode

/-- The ranges of memory that an instruction works on, as its operands name them. -/
def ranges (opcode : Opcode) (operand : Nat → Nat) : List (Nat × Nat) :=
  match opcode with
  | .keccak256 | .log _ | .returns | .revert => [(operand 0, operand 1)]
  | .mload | .mstore => [(operand 0, 32)]
  | .mstore8 => [(operand 0, 1)]
  | .calldatacopy | .codecopy | .returndatacopy => [(operand 0, operand 2)]
  | .extcodecopy => [(operand 1, operand 3)]
  | .mcopy => [(operand 0, operand 2), (operand 1, operand 2)]
  | .create | .create2 => [(operand 1, operand 2)]
  | .call | .callcode => [(operand 3, operand 4), (operand 5, operand 6)]
  | .delegatecall | .staticcall => [(operand 2, operand 3), (operand 4, operand 5)]
  | _ => []

/-- The memory size that an instruction needs for its ranges. -/
def needed (opcode : Opcode) (stack : Stack) : Nat :=
  ((opcode.ranges stack.operand).map Memory.cover).foldr max 0

end Opcode

theorem Stack.operand_of_peek {stack : Stack} {count index : Nat} {words : Vector Word count}
    (peeked : stack.peek count = .ok words) (within : index < count) :
    stack.operand index = words[index].toNat := by
  rw [operand, Stack.top?_of_peek peeked within, Option.getD_some]

namespace Word

theorem position_eq_ok {word : Word} {position : Nat} (fits : word.position = .ok position) :
    position = word.toNat := by
  unfold Word.position toPosition? at fits
  by_cases small : word.fitsLimb = true
  · rw [if_pos small] at fits
    cases fits
    unfold fitsLimb at small
    rw [beq_iff_eq] at small
    obtain ⟨lower, third⟩ := UInt64.or_eq_zero_iff.mp small
    obtain ⟨first, second⟩ := UInt64.or_eq_zero_iff.mp lower
    unfold toNat
    rw [first, second, third]
    rfl
  · rw [if_neg small] at fits
    cases fits

theorem positionLimit_le_of_toPosition? {word : Word} (refused : word.toPosition? = none) :
    positionLimit ≤ word.toNat := by
  unfold toPosition? at refused
  split at refused <;> rename_i large
  · cases refused
  · exact Nat.le_of_not_lt fun small => large (fitsLimb_iff.mpr small)

theorem inBounds_position (word : Word) : InBounds word.position := by
  unfold position
  split
  · exact .of_ok _
  · exact .outOfGas

theorem inBounds_range (length offset : Word) : InBounds (length.range offset) := by
  unfold range
  split
  · exact .of_ok _
  · exact (inBounds_position length).bind fun _ => (inBounds_position offset).bind fun _ =>
      .of_ok _

/-- A range keeps its length, and its offset matters only if it is not empty. -/
theorem range_eq_ok {length offset : Word} {size start : Nat}
    (fits : length.range offset = .ok (size, start)) :
    size = length.toNat ∧ Memory.cover (start, size) = Memory.cover (offset.toNat, length.toNat) := by
  unfold range at fits
  by_cases isEmpty : length.isZero = true
  · rw [if_pos isEmpty] at fits
    cases fits
    rw [isZero_iff.mp isEmpty]
    exact ⟨rfl, rfl⟩
  · rw [if_neg isEmpty] at fits
    obtain ⟨shown, sized, rest⟩ := Gas.bind_eq_ok.mp fits
    obtain ⟨position, placed, same⟩ := Gas.bind_eq_ok.mp rest
    cases same
    rw [position_eq_ok sized, position_eq_ok placed]
    exact ⟨rfl, rfl⟩

end Word

/-- What a frame has: its memory and its gas. -/
def Machine.means (machine : Machine) : Memory × UInt64 :=
  (machine.frame.memory, machine.frame.gas)

/-- The frame has paid for a memory of `needed` bytes and stayed within it. -/
structure Machine.Paid (needed : Nat) (machine final : Machine) : Prop where
  memory : machine.frame.memory.GrowsWithin (max machine.frame.memory.size needed)
    final.frame.memory
  price : Memory.wholePrice (max machine.frame.memory.size needed) + final.frame.gas.toNat ≤
    Memory.wholePrice machine.frame.memory.size + machine.frame.gas.toNat

/-- The end of an instruction that needs `needed` bytes of memory. Before it has paid it may refuse
a size beyond all positions, or what it has an `early` reason for; once it has paid, no access to
memory fails, apart from failures with an `excuse`. Where the price is zero both cases may apply:
no size beyond all positions is free, so that neither of them lets an access fail. -/
inductive Metered (needed : Nat) (early excuse : Failure → Prop) (machine : Machine)
    (ending : EStateM.Result Failure Machine Alpha) : Prop
  | idle :
      (reached ending).means = machine.means →
      (∀ cause final, ending = .error cause final → cause.isMemoryFault = true →
        positionLimit ≤ needed ∨ early cause) →
      Metered needed early excuse machine ending
  | paid :
      machine.Paid needed (reached ending) →
      (∀ cause final, ending = .error cause final → cause.isMemoryFault = true → excuse cause) →
      Metered needed early excuse machine ending

/-- A computation that only looks. If it fails, it keeps the means of the frame, and it does not
fail as accesses to memory do. -/
structure Idles (action : Run Alpha) : Prop where
  looks : Looks action
  keeps : Keeps Machine.means action
  faultless : ∀ {machine cause final}, action machine = .error cause final →
    cause.isMemoryFault = false

namespace Idles

theorem bind {first : Run Alpha} {next : Alpha → Run Beta} (early : Idles first)
    (late : ∀ value, Idles (next value)) : Idles (first >>= next) where
  looks := looks_bind early.looks fun value => (late value).looks
  keeps := early.keeps.bind fun value => (late value).keeps
  faultless := by
    intro machine cause final failed
    cases ended : first machine with
    | error reason middle =>
        rw [bind_of_error ended] at failed
        cases failed
        exact early.faultless ended
    | ok value middle =>
        rw [bind_of_ok ended] at failed
        exact (late value).faultless failed

theorem branch {condition : Prop} [Decidable condition] {left right : Run Alpha}
    (yes : Idles left) (no : Idles right) : Idles (if condition then left else right) where
  looks := looks_branch yes.looks no.looks
  keeps := .branch yes.keeps no.keeps
  faultless := by
    intro machine cause final failed
    split at failed
    · exact yes.faultless failed
    · exact no.faultless failed

end Idles

theorem idles_pure (value : Alpha) : Idles (pure value : Run Alpha) :=
  ⟨looks_pure _, fun _ => rfl, nofun⟩

theorem idles_get : Idles (get : Run Machine) :=
  ⟨fun done => by cases done; rfl, fun _ => rfl, nofun⟩

theorem idles_frame (question : Frame → Alpha) : Idles (Run.frame question) :=
  ⟨looks_frame _, fun _ => rfl, nofun⟩

theorem idles_halt {reason : Halt} (other : reason ≠ .outOfBounds) :
    Idles (Run.halt reason : Run Alpha) where
  looks := looks_halt _
  keeps := fun _ => rfl
  faultless := by
    rintro machine _ _ ⟨⟩
    exact isMemoryFault_halt other

theorem idles_ofHalting {answer : Except Halt Alpha} (inBounds : InBounds answer) :
    Idles (Run.ofHalting answer) where
  looks := looks_ofHalting answer
  keeps := by
    intro machine
    cases answer <;> rfl
  faultless := by
    intro machine cause final failed
    cases answer with
    | error reason =>
        cases failed
        exact isMemoryFault_halt fun same => inBounds (congrArg Except.error same)
    | ok value => cases failed

theorem idles_peek (count : Nat) : Idles (Run.peek count) :=
  idles_get.bind fun _ => idles_ofHalting <| by
    unfold Stack.peek
    split
    · exact .of_ok _
    · exact nofun

theorem idles_peekOne : Idles Run.peekOne := (idles_peek 1).bind fun _ => idles_pure _

theorem idles_peekTwo : Idles Run.peekTwo := (idles_peek 2).bind fun _ => idles_pure _

theorem idles_forbidStatic : Idles Run.forbidStatic :=
  (idles_frame _).bind fun _ => .branch (idles_halt nofun) (idles_pure _)

theorem idles_isColdAddress (address : Address) : Idles (Run.isColdAddress address) :=
  idles_get.bind fun _ => idles_pure _

theorem idles_isColdSlot (address : Address) (key : Word) : Idles (Run.isColdSlot address key) :=
  idles_get.bind fun _ => idles_pure _

/-- A store that refuses to be looked at takes nothing from the frame. -/
theorem idles_reading {access : Access Alpha} {view : World → Alpha}
    (reads : Access.Reads host.refusals access view) : Idles (Run.onWorld access) where
  looks := looks_reading reads
  keeps := by
    intro machine
    cases ended : Run.onWorld access machine with
    | ok value final =>
        obtain ⟨world, _, rfl⟩ := Run.onWorld_eq_ok.mp ended
        rfl
    | error cause final =>
        obtain ⟨_, world, _, _, rfl⟩ := Run.onWorld_eq_error.mp ended
        rfl
  faultless := by
    intro machine cause final failed
    obtain ⟨_, _, _, rfl, _⟩ := Run.onWorld_eq_error.mp failed
    rfl

/-- What is known of a range once it has been measured. -/
structure Memory.Measures (length offset : Word) (size start needed : Nat) : Prop where
  sized : size = length.toNat
  covered : needed = cover (offset.toNat, length.toNat)
  aligned : 32 ∣ needed
  covers : size = 0 ∨ start + size ≤ needed

namespace Memory

theorem measures_of_range {length offset : Word} {size start needed : Nat}
    (ranged : length.range offset = .ok (size, start))
    (reaches : sizeToReach start size = .ok needed) :
    Measures length offset size start needed := by
  obtain ⟨sized, covered⟩ := Word.range_eq_ok ranged
  exact ⟨sized, (sizeToReach_eq_ok reaches).trans covered, dvd_sizeToReach reaches,
    covers_of_sizeToReach reaches⟩

/-- What is refused as beyond all positions is too large for them. -/
theorem positionLimit_le_cover {offset length : Nat} {reason : Halt}
    (refused : sizeToReach offset length = .error reason) :
    positionLimit ≤ cover (offset, length) := by
  rw [sizeToReach_eq] at refused
  unfold cover
  split at refused <;> rename_i isEmpty
  · cases refused
  · rw [if_neg isEmpty]
    split at refused <;> rename_i fits
    · cases refused
    · exact Nat.le_of_not_lt fits

end Memory

namespace Metered

variable {needed size : Nat} {early excuse : Failure → Prop} {machine : Machine}

/-- Looking at the machine costs nothing and uses no memory. -/
theorem look {first : Run Alpha} {next : Alpha → Run Beta} (idles : Idles first)
    (rest : ∀ value, first machine = .ok value machine →
      Metered needed early excuse machine (next value machine)) :
    Metered needed early excuse machine ((first >>= next) machine) := by
  have kept := idles.keeps machine
  cases ended : first machine with
  | error cause middle =>
      rw [ended] at kept
      rw [bind_of_error ended]
      refine .idle kept ?_
      rintro _ _ ⟨⟩ fault
      cases (idles.faultless ended).symm.trans fault
  | ok value middle =>
      have same := idles.looks ended
      subst same
      rw [bind_of_ok ended]
      exact rest value ended

/-- What is computed from operands may turn out to be beyond all means. -/
theorem measure {answer : Except Halt Alpha} {next : Alpha → Run Beta}
    (inBounds : InBounds answer)
    (rest : ∀ value, answer = .ok value →
      Metered needed early excuse machine (next value machine)) :
    Metered needed early excuse machine ((Run.ofHalting answer >>= next) machine) :=
  look (idles_ofHalting inBounds) fun value shown => rest value (Run.ofHalting_eq_ok.mp shown).1

/-- A range is refused before anything is paid only if it lies beyond all positions. -/
theorem reach {offset length : Nat} {next : Nat → Run Beta}
    (within : Memory.cover (offset, length) ≤ needed)
    (rest : ∀ total, Memory.sizeToReach offset length = .ok total →
      Metered needed early excuse machine (next total machine)) :
    Metered needed early excuse machine
      ((Run.ofHalting (Memory.sizeToReach offset length) >>= next) machine) := by
  cases reaches : Memory.sizeToReach offset length with
  | error reason =>
      refine .idle rfl fun _ _ _ _ => .inl ?_
      exact (Memory.positionLimit_le_cover reaches).trans within
  | ok total => exact rest total reaches

/-- A range of the operands is measured before it is paid for. -/
theorem measureRange {length offset : Word} {next : Nat × Nat → Nat → Run Beta}
    (rest : ∀ range total, Memory.Measures length offset range.1 range.2 total →
      Metered total early excuse machine (next range total machine)) :
    Metered (Memory.cover (offset.toNat, length.toNat)) early excuse machine ((do
      let range ← Run.ofHalting (length.range offset)
      let total ← Run.ofHalting (Memory.sizeToReach range.2 range.1)
      next range total) machine) := by
  refine .measure (Word.inBounds_range length offset) fun range ranged => ?_
  refine .reach (Word.range_eq_ok ranged).2.le fun total reaches => ?_
  have measured := Memory.measures_of_range ranged reaches
  rw [← measured.covered]
  exact rest range total measured

/-- The current size of the memory is part of the price. -/
theorem measureMemory {next : Nat → Run Beta}
    (rest : Metered needed early excuse machine (next machine.frame.memory.size machine)) :
    Metered needed early excuse machine ((Run.memorySize >>= next) machine) :=
  look (idles_frame _) fun _ sized => by
    cases sized
    exact rest

theorem refuses {reason : Halt} (reasonable : early (.halt reason)) :
    Metered needed early excuse machine (Run.halt reason machine : EStateM.Result _ _ Alpha) := by
  refine .idle rfl ?_
  rintro _ _ ⟨⟩ _
  exact .inr reasonable

theorem halts {reason : Halt} (other : reason ≠ .outOfBounds) :
    Metered needed early excuse machine (Run.halt reason machine : EStateM.Result _ _ Alpha) := by
  refine .idle rfl ?_
  rintro _ _ ⟨⟩ fault
  cases (isMemoryFault_halt other).symm.trans fault

theorem guard {condition : Prop} [Decidable condition] {reason : Halt} {rest : Unit → Run Alpha}
    (other : reason ≠ .outOfBounds)
    (late : Metered needed early excuse machine (rest () machine)) :
    Metered needed early excuse machine
      ((if condition then do rest (← Run.halt reason) else rest ()) machine) := by
  split
  · exact halts other
  · exact late

/-- Whoever stays within the memory at hand needs no more of it. -/
theorem of_within {action : Run Alpha} (works : ∀ size, Within size action) :
    Metered 0 early excuse machine (action machine) := by
  have contained := works _ excuse machine (le_refl _)
  refine .paid ⟨?_, ?_⟩ contained.faults
  · rw [Nat.max_zero]
    exact contained.memory
  · rw [Nat.max_zero]
    exact Nat.add_le_add_left contained.gas _

/-- A price that contains the growth of the memory pays for all work within it. -/
theorem of_charge {price : UInt64} {rest : Unit → Run Alpha}
    (contains : GasSchedule.Contains price needed machine.frame.memory.size 0)
    (works : ∀ paid : Machine, paid = { machine with frame.gas := machine.frame.gas - price } →
      Contained (max machine.frame.memory.size needed) excuse paid (rest () paid)) :
    Metered needed early excuse machine ((Run.charge price >>= rest) machine) := by
  obtain ⟨growth, grows, covered⟩ := contains
  have whole := Memory.wholePrice_of_expansionPrice grows
  cases charged : Run.charge price machine with
  | error cause final =>
      obtain ⟨reason, refused, rfl, rfl⟩ := Run.updateFrame_eq_error.mp charged
      have starved : reason ≠ .outOfBounds := by
        rintro rfl
        unfold Frame.charge at refused
        split at refused <;> cases refused
      rw [bind_of_error charged]
      exact halts starved
  | ok nothing paid =>
      obtain ⟨enough, same⟩ := Run.charge_eq_ok.mp charged
      have gas : paid.frame.gas.toNat + price.toNat = machine.frame.gas.toNat := by
        rw [UInt64.le_iff_toNat_le] at enough
        rw [same, UInt64.toNat_sub_of_le _ _ (UInt64.le_iff_toNat_le.mpr enough)]
        omega
      have contained := works paid same
      have spent := contained.gas
      have memory := contained.memory
      rw [bind_of_ok charged]
      change Metered needed early excuse machine (rest () paid)
      refine .paid ⟨?_, ?_⟩ contained.faults
      · rw [same] at memory ⊢
        exact memory
      · omega

theorem of_chargeCost {cost : Except Halt UInt64} {rest : Unit → Run Alpha}
    (inBounds : InBounds cost)
    (contains : ∀ price, cost = .ok price →
      GasSchedule.Contains price needed machine.frame.memory.size 0)
    (works : ∀ price, cost = .ok price → ∀ paid : Machine,
      paid = { machine with frame.gas := machine.frame.gas - price } →
      Contained (max machine.frame.memory.size needed) excuse paid (rest () paid)) :
    Metered needed early excuse machine ((Run.chargeCost cost >>= rest) machine) := by
  unfold Run.chargeCost
  rw [bind_assoc]
  exact measure inBounds fun price priced => of_charge (contains price priced) (works price priced)

/-- An instruction that pays for the memory it needs and then stays within it. -/
theorem pay {cost : Except Halt UInt64} {rest : Unit → Run Alpha}
    (sound : Memory.Sound machine.frame.memory.size) (aligned : 32 ∣ needed)
    (inBounds : InBounds cost)
    (contains : ∀ price, cost = .ok price →
      GasSchedule.Contains price needed machine.frame.memory.size 0)
    (works : Memory.Sound (max machine.frame.memory.size needed) →
      Within (max machine.frame.memory.size needed) (rest ())) :
    Metered needed early excuse machine ((Run.chargeCost cost >>= rest) machine) := by
  refine of_chargeCost inBounds contains fun price priced paid same => ?_
  obtain ⟨growth, grows, _⟩ := contains price priced
  refine works (sound.expanded aligned grows) excuse paid ?_
  rw [same]
  exact le_max_left _ _

/-- An instruction that needs no memory. -/
theorem spend {cost : Except Halt UInt64} {rest : Unit → Run Alpha} (inBounds : InBounds cost)
    (works : ∀ size, Within size (rest ())) :
    Metered 0 early excuse machine ((Run.chargeCost cost >>= rest) machine) := by
  refine of_chargeCost inBounds (fun price _ => ?_) fun price _ paid same => works _ excuse paid ?_
  · refine ⟨0, ?_, Nat.zero_le _⟩
    rw [Memory.expansionPrice, if_pos (Nat.zero_le _)]
  · rw [same]
    exact le_max_left _ _

end Metered

end CancunMachine
