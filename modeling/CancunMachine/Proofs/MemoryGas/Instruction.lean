import Mathlib.Tactic
import CancunMachine.Proofs.MemoryGas.Payment

/-!
# How the instructions pay for memory

The instructions that start no child, one after the other. Most of them need no memory at all; the
others measure the ranges of their operands, pay for the growth and then work on these ranges.
-/

namespace CancunMachine

open Ending

namespace Run

variable {machine final : Machine}

theorem operand_of_peekOne {word : Word} (peeked : peekOne machine = .ok word final) :
    machine.frame.stack.operand 0 = word.toNat := by
  rw [Stack.operand, (peekOne_eq_ok peeked).1, Option.getD_some]

theorem operands_of_peekTwo {words : Word × Word} (peeked : peekTwo machine = .ok words final) :
    machine.frame.stack.operand 0 = words.1.toNat ∧
      machine.frame.stack.operand 1 = words.2.toNat := by
  obtain ⟨top, below⟩ := peekTwo_eq_ok peeked
  rw [Stack.operand, Stack.operand, top, below]
  exact ⟨rfl, rfl⟩

theorem operands_of_peekThree {words : Word × Word × Word}
    (peeked : peekThree machine = .ok words final) :
    machine.frame.stack.operand 0 = words.1.toNat ∧
      machine.frame.stack.operand 1 = words.2.1.toNat ∧
      machine.frame.stack.operand 2 = words.2.2.toNat := by
  obtain ⟨found, _, looked, returned⟩ := bind_eq_ok.mp peeked
  have stack := (Instruction.peek_eq_ok looked).1
  cases returned
  exact ⟨Stack.operand_of_peek stack (by decide), Stack.operand_of_peek stack (by decide),
    Stack.operand_of_peek stack (by decide)⟩

theorem operands_of_peekFour {words : Word × Word × Word × Word}
    (peeked : peekFour machine = .ok words final) :
    machine.frame.stack.operand 0 = words.1.toNat ∧
      machine.frame.stack.operand 1 = words.2.1.toNat ∧
      machine.frame.stack.operand 2 = words.2.2.1.toNat ∧
      machine.frame.stack.operand 3 = words.2.2.2.toNat := by
  obtain ⟨found, _, looked, returned⟩ := bind_eq_ok.mp peeked
  have stack := (Instruction.peek_eq_ok looked).1
  cases returned
  exact ⟨Stack.operand_of_peek stack (by decide), Stack.operand_of_peek stack (by decide),
    Stack.operand_of_peek stack (by decide), Stack.operand_of_peek stack (by decide)⟩

end Run

theorem idles_peekThree : Idles Run.peekThree := (idles_peek 3).bind fun _ => idles_pure _

theorem idles_peekFour : Idles Run.peekFour := (idles_peek 4).bind fun _ => idles_pure _

theorem Opcode.needed_of_range {opcode : Opcode} {stack : Stack} {range : Nat × Nat}
    (ranges : opcode.ranges stack.operand = [range]) :
    opcode.needed stack = Memory.cover range := by
  rw [needed, ranges]
  exact Nat.max_zero _

theorem Opcode.needed_of_ranges {opcode : Opcode} {stack : Stack} {first second : Nat × Nat}
    (ranges : opcode.ranges stack.operand = [first, second]) :
    opcode.needed stack = max (Memory.cover first) (Memory.cover second) := by
  rw [needed, ranges]
  exact congrArg _ (Nat.max_zero _)

namespace Instruction

variable {host : Host} {size : Nat}

theorem within_pushing (tier : Tier) {value : Run Word} (finds : Within size value) :
    Within size (pushing host tier value) :=
  (within_charge _).bind fun _ => finds.bind fun _ => (within_push _).bind fun _ => within_pure _

theorem within_unary (tier : Tier) (operation : Word → Word) :
    Within size (unary host tier operation) :=
  (within_charge _).bind fun _ => within_popOne.bind fun _ => (within_push _).bind fun _ =>
    within_pure _

theorem within_binary (tier : Tier) (operation : Word → Word → Word) :
    Within size (binary host tier operation) :=
  (within_charge _).bind fun _ => within_popTwo.bind fun _ => (within_push _).bind fun _ =>
    within_pure _

theorem within_ternary (tier : Tier) (operation : Word → Word → Word → Word) :
    Within size (ternary host tier operation) :=
  (within_charge _).bind fun _ => within_popThree.bind fun _ => (within_push _).bind fun _ =>
    within_pure _

theorem within_pushImmediate (width : Nat) : Within size (pushImmediate host width) :=
  (within_charge _).bind fun _ => (within_frame _).bind fun _ => (within_push _).bind fun _ =>
    (within_advance width).bind fun _ => within_pure _

theorem within_duplicate (index : Nat) : Within size (duplicate host index) :=
  (within_charge _).bind fun _ => (within_dup index).bind fun _ => within_pure _

theorem within_exchange (index : Nat) : Within size (exchange host index) :=
  (within_charge _).bind fun _ => (within_swap index).bind fun _ => within_pure _

theorem within_popInstruction : Within size (pop host) :=
  (within_charge _).bind fun _ => (within_drop 1).bind fun _ => within_pure _

theorem within_balance : Within size (balance host) := by
  refine within_peekOne.bind fun word => .branch ?_ ?_
  · exact (within_charge _).bind fun _ => (within_drop 1).bind fun _ => (within_push _).bind
      fun _ => within_pure _
  · exact (within_isColdAddress _).bind fun _ => (within_charge _).bind fun _ =>
      (within_warmAddress _).bind fun _ => (within_onWorld _).bind fun _ =>
      (within_drop 1).bind fun _ => (within_push _).bind fun _ => within_pure _

theorem within_calldataload : Within size (calldataload host) :=
  (within_charge _).bind fun _ => within_popOne.bind fun _ => (within_frame _).bind fun _ =>
    (within_push _).bind fun _ => within_pure _

theorem within_blockhash : Within size (blockhash host) := by
  refine (within_charge _).bind fun _ => within_popOne.bind fun number => .branch ?_ ?_
  · exact (within_push _).bind fun _ => within_pure _
  · refine (within_onWorld _).bind fun hash? => ?_
    cases hash? <;> exact (within_push _).bind fun _ => within_pure _

theorem within_selfbalance : Within size (selfbalance host) :=
  within_pushing .low ((within_frame _).bind fun _ => within_onWorld _)

theorem within_blobhash : Within size (blobhash host) :=
  (within_charge _).bind fun _ => within_popOne.bind fun _ => (within_push _).bind fun _ =>
    within_pure _

theorem within_traceTracked (event : Event) : Within size (do
    if ← Run.frame (·.isTracked) then Run.trace host event
    return Signal.proceed) := by
  refine (within_frame _).bind fun tracked => .branch ?_ ?_
  · exact (within_trace event).bind fun _ => within_pure _
  · exact within_pure _

theorem within_sload : Within size (sload host) :=
  within_peekOne.bind fun _ => (within_frame _).bind fun _ => (within_isColdSlot _ _).bind fun _ =>
    (within_charge _).bind fun _ => (within_warmSlot _ _).bind fun _ => (within_drop 1).bind fun _ =>
    (within_onWorld _).bind fun _ => (within_push _).bind fun _ => within_traceTracked _

theorem within_tload : Within size (tload host) :=
  (within_charge _).bind fun _ => within_popOne.bind fun _ => (within_frame _).bind fun _ =>
    within_get.bind fun _ => (within_push _).bind fun _ => within_pure _

theorem within_tstore : Within size (tstore host) :=
  within_forbidStatic.bind fun _ => (within_charge _).bind fun _ => within_popTwo.bind fun _ =>
    (within_frame _).bind fun _ => (within_modifySubstate _).bind fun _ => within_pure _

theorem within_jumpInstruction : Within size (jump host) :=
  (within_charge _).bind fun _ => within_popOne.bind fun _ => (within_jump _).bind fun _ =>
    within_pure _

theorem within_jumpi : Within size (jumpi host) := by
  refine (within_charge _).bind fun _ => within_popTwo.bind fun words => .branch ?_ ?_
  · exact (within_jump _).bind fun _ => within_pure _
  · exact within_pure _

theorem within_jumpdest : Within size (jumpdest host) :=
  (within_charge _).bind fun _ => within_pure _

theorem within_chargeDestruction (beneficiary : Address) (balance : Word) :
    Within size (chargeDestruction host beneficiary balance) := by
  have pays : ∀ cold createsAccount : Bool, Within size (do
      Run.charge (host.schedule.selfdestructCost cold createsAccount)
      Run.warmAddress beneficiary
      Run.drop 1) :=
    fun _ _ => (within_charge _).bind fun _ => (within_warmAddress _).bind fun _ => within_drop 1
  refine (within_isColdAddress _).bind fun cold => .branch ?_ ?_
  · exact pays cold false
  · exact (within_onWorld _).bind fun createsAccount => pays cold _

theorem within_bequeath (address beneficiary : Address) (balance : Word) :
    Within size (bequeath host address beneficiary balance) := by
  refine (within_onWorld _).bind fun _ => within_get.bind fun machine => .branch ?_ ?_
  · exact (within_onWorld _).bind fun _ => within_modifySubstate _
  · exact within_pure _

theorem within_selfdestruct (default : host.overrides.destruction = none) :
    Within size (selfdestruct host) := by
  rw [selfdestruct_eq default]
  exact within_forbidStatic.bind fun _ => within_peekOne.bind fun _ => (within_frame _).bind
    fun _ => (within_onWorld _).bind fun _ => (within_chargeDestruction _ _).bind fun _ =>
    (within_bequeath _ _ _).bind fun _ => within_pure _

variable {early excuse : Failure → Prop} {machine : Machine}

theorem metered_exp : Metered 0 early excuse machine (exp host machine) :=
  .look idles_peekTwo fun _ _ => .spend (GasSchedule.inBounds_exp _) fun _ =>
    (within_drop 2).bind fun _ => (within_push _).bind fun _ => within_pure _

theorem metered_sstore : Metered 0 early excuse machine (sstore host machine) := by
  refine .look idles_forbidStatic fun _ _ => .look (idles_frame _) fun _ _ => .guard nofun ?_
  refine .look idles_peekTwo fun _ _ => .look (idles_frame _) fun _ _ =>
    .look (idles_reading (Access.reads_slot _ _)) fun _ _ =>
    .look (idles_reading (Access.reads_initial _ _)) fun _ _ =>
    .look (idles_isColdSlot _ _) fun cold _ => .spend ?_ fun _ => ?_
  · unfold sstorePrice
    exact .branch (.plus _ _) (.of_ok _)
  exact (within_warmSlot _ _).bind fun _ => (within_drop 2).bind fun _ =>
    (within_modifySubstate _).bind fun _ => (within_onWorld _).bind fun _ =>
    (within_setLastWrite _).bind fun _ => within_traceTracked _

/-- The price of looking at code contains whatever its extra part contains. -/
theorem metered_chargeCodeAccess {address : Address} {extra : UInt64} {needed : Nat}
    {rest : Unit → Run Signal} (sound : Memory.Sound machine.frame.memory.size)
    (aligned : 32 ∣ needed)
    (contains : GasSchedule.Contains extra needed machine.frame.memory.size 0)
    (works : Memory.Sound (max machine.frame.memory.size needed) →
      Within (max machine.frame.memory.size needed) (rest ())) :
    Metered needed early excuse machine
      ((chargeCodeAccess host address extra >>= rest) machine) := by
  have access : Metered needed early excuse machine (((do
      let cold ← Run.isColdAddress address
      Run.chargeCost (Gas.plus (host.schedule.accountAccess cold) extra)
      Run.warmAddress address) >>= rest) machine) := by
    simp only [bind_assoc]
    refine .look (idles_isColdAddress _) fun cold _ => .pay sound aligned (.plus _ _) ?_
      fun sound => (within_warmAddress _).bind fun _ => works sound
    intro price priced
    obtain ⟨growth, grows, covered⟩ := contains
    refine ⟨growth, grows, ?_⟩
    rw [Gas.plus_eq_ok priced]
    omega
  unfold chargeCodeAccess
  split
  · rw [bind_assoc]
    refine .measure (.plus _ _) fun estimate _ => ?_
    rw [bind_assoc]
    refine .look (idles_frame _) fun gas _ => ?_
    split
    · exact .halts nofun
    · exact access
  · exact access

theorem contains_nothing (price : UInt64) (current : Nat) :
    GasSchedule.Contains price 0 current 0 := by
  refine ⟨0, ?_, Nat.zero_le _⟩
  rw [Memory.expansionPrice, if_pos (Nat.zero_le _)]

theorem metered_inspectCode (view : Address → Access Word)
    (sound : Memory.Sound machine.frame.memory.size) :
    Metered 0 early excuse machine (inspectCode host view machine) := by
  refine .look idles_peekOne fun word _ => metered_chargeCodeAccess sound (dvd_zero 32)
    (contains_nothing _ _) fun _ => (within_drop 1).bind fun _ => .branch ?_ ?_
  · exact (within_push _).bind fun _ => within_pure _
  · exact (within_onWorld _).bind fun _ => (within_push _).bind fun _ => within_pure _

theorem metered_keccak256 (sound : Memory.Sound machine.frame.memory.size) :
    Metered (Opcode.keccak256.needed machine.frame.stack) early excuse machine
      (keccak256 host machine) := by
  refine .look idles_peekTwo fun words peeked => ?_
  obtain ⟨first, second⟩ := Run.operands_of_peekTwo peeked
  rw [Opcode.needed_of_range rfl, first, second]
  refine .measureRange fun range needed measured => .measureMemory ?_
  refine .pay sound measured.aligned GasSchedule.inBounds_keccak256
    (fun _ => GasSchedule.contains_keccak256) fun sound => ?_
  exact (within_drop 2).bind fun _ =>
    (within_load sound (measured.covers.imp_right (·.trans (le_max_right _ _)))).bind fun _ =>
    (within_push _).bind fun _ => within_pure _

theorem metered_log (topicCount : Fin 5) (sound : Memory.Sound machine.frame.memory.size) :
    Metered ((Opcode.log topicCount).needed machine.frame.stack) early excuse machine
      (log host topicCount machine) := by
  refine .look idles_forbidStatic fun _ _ => .look (idles_peek _) fun _ _ =>
    .look idles_peekTwo fun words peeked => ?_
  obtain ⟨first, second⟩ := Run.operands_of_peekTwo peeked
  rw [Opcode.needed_of_range rfl, first, second]
  refine .measureRange fun range needed measured => .measureMemory ?_
  refine .pay sound measured.aligned GasSchedule.inBounds_log (fun _ => GasSchedule.contains_log)
    fun sound => ?_
  exact (within_drop 2).bind fun _ => (within_pop _).bind fun _ => (within_frame _).bind fun _ =>
    (within_load sound (measured.covers.imp_right (·.trans (le_max_right _ _)))).bind fun _ =>
    (within_modifySubstate _).bind fun _ => within_pure _

/-- Leaving a frame with output pays for the range of the output. -/
theorem metered_setOutput {opcode : Opcode} {rest : Unit → Run Signal}
    (ranges : ∀ operand, opcode.ranges operand = [(operand 0, operand 1)])
    (sound : Memory.Sound machine.frame.memory.size) (leaves : ∀ size, Within size (rest ())) :
    Metered (opcode.needed machine.frame.stack) early excuse machine
      ((setOutput host >>= rest) machine) := by
  unfold setOutput
  simp only [bind_assoc]
  refine .look idles_peekTwo fun words peeked => ?_
  obtain ⟨first, second⟩ := Run.operands_of_peekTwo peeked
  rw [Opcode.needed_of_range (ranges _), first, second]
  refine .measureRange fun range needed measured => .measureMemory ?_
  refine .pay sound measured.aligned (Memory.inBounds_expansionPrice _ _)
    (fun _ => GasSchedule.contains_exit) fun sound => ?_
  exact (within_drop 2).bind fun _ =>
    (within_load sound (measured.covers.imp_right (·.trans (le_max_right _ _)))).bind fun _ =>
    (within_setFrameOutput _).bind fun _ => leaves _

theorem metered_copyFrom {opcode : Opcode} (source : Frame → ByteArray)
    (ranges : ∀ operand, opcode.ranges operand = [(operand 0, operand 2)])
    (sound : Memory.Sound machine.frame.memory.size) :
    Metered (opcode.needed machine.frame.stack) early excuse machine
      (copyFrom host source machine) := by
  refine .look idles_peekThree fun words peeked => ?_
  obtain ⟨first, _, third⟩ := Run.operands_of_peekThree peeked
  rw [Opcode.needed_of_range (ranges _), first, third]
  refine .measureRange fun range needed measured => .measureMemory ?_
  refine .pay sound measured.aligned GasSchedule.inBounds_copy (fun _ => GasSchedule.contains_copy)
    fun sound => ?_
  exact (within_drop 3).bind fun _ => (within_frame _).bind fun _ =>
    (within_storePadded _ sound
      (measured.covers.imp_right (·.trans (le_max_right _ _)))).bind fun _ => within_pure _

/-- Code of an account that shows none is paid for and not copied. -/
theorem metered_extcodecopy (sound : Memory.Sound machine.frame.memory.size) :
    Metered (Opcode.extcodecopy.needed machine.frame.stack) early excuse machine
      (extcodecopy host machine) := by
  refine .look idles_peekFour fun words peeked => ?_
  obtain ⟨_, second, _, fourth⟩ := Run.operands_of_peekFour peeked
  rw [Opcode.needed_of_range rfl, second, fourth]
  refine .measureRange fun range needed measured => .measureMemory
    (.measure GasSchedule.inBounds_extcodecopy fun whole priced => ?_)
  refine metered_chargeCodeAccess sound measured.aligned
    (GasSchedule.contains_extcodecopy priced) fun sound => (within_drop 4).bind fun _ =>
    .branch (within_pure _) ?_
  exact (within_onWorld _).bind fun _ => (within_storePadded _ sound
    (measured.covers.imp_right (·.trans (le_max_right _ _)))).bind fun _ => within_pure _

theorem metered_mcopy (sound : Memory.Sound machine.frame.memory.size) :
    Metered (Opcode.mcopy.needed machine.frame.stack) early excuse machine
      (mcopy host machine) := by
  refine .look idles_peekThree fun words peeked => .measure (Word.inBounds_range _ _)
    fun range ranged => ?_
  obtain ⟨sized, covered⟩ := Word.range_eq_ok ranged
  obtain ⟨first, second, third⟩ := Run.operands_of_peekThree peeked
  have copies : ∀ source : Nat,
      Memory.cover (source, range.1) = Memory.cover (words.2.1.toNat, words.2.2.toNat) →
      Metered (Opcode.mcopy.needed machine.frame.stack) early excuse machine ((do
        let neededSource ← Run.reach source range.1
        let neededTarget ← Run.reach range.2 range.1
        Run.chargeCost
          (host.schedule.copy (max neededSource neededTarget) (← Run.memorySize) range.1)
        Run.drop 3
        Run.onMemory (Memory.copyWithin source range.2 range.1)
        return Signal.proceed) machine) := by
    intro source sourceCovered
    have whole : Opcode.mcopy.needed machine.frame.stack =
        max (Memory.cover (source, range.1)) (Memory.cover (range.2, range.1)) := by
      rw [max_comm, covered, sourceCovered, ← first, ← second, ← third]
      exact Opcode.needed_of_ranges rfl
    rw [whole]
    refine .reach (le_max_left _ _) fun neededSource reachesSource => .reach (le_max_right _ _)
      fun neededTarget reachesTarget => .measureMemory ?_
    have coversSource := Memory.covers_of_sizeToReach reachesSource
    have coversTarget := Memory.covers_of_sizeToReach reachesTarget
    have sourceTotal : neededSource = Memory.cover (source, range.1) :=
      Memory.sizeToReach_eq_ok reachesSource
    have targetTotal : neededTarget = Memory.cover (range.2, range.1) :=
      Memory.sizeToReach_eq_ok reachesTarget
    have aligned : 32 ∣ max neededSource neededTarget :=
      max_rec' (32 ∣ ·) (Memory.dvd_sizeToReach reachesSource)
        (Memory.dvd_sizeToReach reachesTarget)
    rw [← sourceTotal, ← targetTotal]
    refine .pay sound aligned GasSchedule.inBounds_copy (fun _ => GasSchedule.contains_copy)
      fun sound => ?_
    refine (within_drop 3).bind fun _ => (within_onMemory fun _ within =>
      ⟨(), Memory.copyWithin_within sound within ?_⟩).bind fun _ => within_pure _
    omega
  by_cases isEmpty : range.1 = 0
  · simp only [if_pos isEmpty, pure_bind]
    refine copies 0 ?_
    have none : words.2.2.toNat = 0 := sized.symm.trans isEmpty
    rw [isEmpty, none]
    rfl
  · simp only [if_neg isEmpty]
    refine .measure (Word.inBounds_position _) fun source placed => copies source ?_
    rw [Word.position_eq_ok placed, sized]

/-- An access of a fixed length at the position on top of the stack. -/
theorem metered_chargeMemoryAccess {opcode : Opcode} {offset : Word} {length : Nat}
    {rest : Nat → Run Signal} (sound : Memory.Sound machine.frame.memory.size)
    (ranges : opcode.ranges machine.frame.stack.operand = [(offset.toNat, length)])
    (works : ∀ position size, Memory.Sound size → length = 0 ∨ position + length ≤ size →
      Within size (rest position)) :
    Metered (opcode.needed machine.frame.stack) early excuse machine
      ((chargeMemoryAccess host offset length >>= rest) machine) := by
  unfold chargeMemoryAccess
  simp only [bind_assoc, pure_bind]
  rw [Opcode.needed_of_range ranges]
  refine .measure (Word.inBounds_position _) fun position placed => ?_
  rw [← Word.position_eq_ok placed]
  refine .reach (le_refl _) fun needed reaches => .measureMemory ?_
  have covers := Memory.covers_of_sizeToReach reaches
  have same : needed = Memory.cover (position, length) := Memory.sizeToReach_eq_ok reaches
  rw [← same]
  refine .pay sound (Memory.dvd_sizeToReach reaches) GasSchedule.inBounds_memoryAccess
    (fun _ => GasSchedule.contains_memoryAccess) fun sound => works position _ sound ?_
  exact covers.imp_right (·.trans (le_max_right _ _))

theorem metered_mload (sound : Memory.Sound machine.frame.memory.size) :
    Metered (Opcode.mload.needed machine.frame.stack) early excuse machine
      (mload host machine) := by
  refine .look idles_peekOne fun word peeked => metered_chargeMemoryAccess sound ?_
    fun position size sound covers => ?_
  · rw [← Run.operand_of_peekOne peeked]
    rfl
  · exact (within_drop 1).bind fun _ => (within_onMemory fun _ within =>
      Memory.loadWord_within sound within (covers.resolve_left nofun)).bind fun _ =>
      (within_push _).bind fun _ => within_pure _

theorem metered_mstore (sound : Memory.Sound machine.frame.memory.size) :
    Metered (Opcode.mstore.needed machine.frame.stack) early excuse machine
      (mstore host machine) := by
  refine .look idles_peekTwo fun words peeked => metered_chargeMemoryAccess sound ?_
    fun position size sound covers => ?_
  · rw [← (Run.operands_of_peekTwo peeked).1]
    rfl
  · refine (within_drop 2).bind fun _ => (within_store sound ?_).bind fun _ => within_pure _
    rw [Word.toBytes_size]
    exact covers

theorem metered_mstore8 (sound : Memory.Sound machine.frame.memory.size) :
    Metered (Opcode.mstore8.needed machine.frame.stack) early excuse machine
      (mstore8 host machine) := by
  refine .look idles_peekTwo fun words peeked => metered_chargeMemoryAccess sound ?_
    fun position size sound covers => ?_
  · rw [← (Run.operands_of_peekTwo peeked).1]
    rfl
  · refine (within_drop 2).bind fun _ => (within_store sound ?_).bind fun _ => within_pure _
    exact covers

theorem contained_storeWindow {data : ByteArray} {target offset length : Nat}
    (sound : Memory.Sound size) (covers : length = 0 ∨ target + length ≤ size)
    (within : machine.frame.memory.size ≤ size)
    (excused : data.size < offset + length → excuse (.halt .outOfBounds)) :
    Contained size excuse machine ((do
      let some bytes := Bytes.window? data offset length | Run.halt .outOfBounds
      Run.onMemory (Memory.store target bytes)
      return Signal.proceed) machine) := by
  cases window : Bytes.window? data offset length with
  | none =>
      refine ⟨.refl within, le_refl _, fun cause final failed _ => ?_⟩
      unfold Bytes.window? at window
      split at window
      · cases window
      · rename_i beyond
        cases failed
        exact excused (Nat.lt_of_not_le beyond)
  | some bytes =>
      unfold Bytes.window? at window
      split at window
      · rename_i inside
        cases window
        have long : (data.extract offset (offset + length)).size = length := by
          rw [ByteArray.size_extract]
          omega
        refine (within_store sound ?_).bind (fun _ => within_pure _) excuse _ within
        rw [long]
        exact covers
      · cases window

/-- An offset beyond all positions is refused before the payment; reading beyond the end of the
return data is what fails after it, and nothing else. -/
theorem metered_returndatacopy (sound : Memory.Sound machine.frame.memory.size)
    (refused : positionLimit ≤ machine.frame.stack.operand 1 → early (.halt .outOfBounds))
    (excused : machine.frame.returnData.size <
        machine.frame.stack.operand 1 + machine.frame.stack.operand 2 →
      excuse (.halt .outOfBounds)) :
    Metered (Opcode.returndatacopy.needed machine.frame.stack) early excuse machine
      (returndatacopy host machine) := by
  refine .look idles_peekThree fun words peeked => .measure (Word.inBounds_range _ _)
    fun range ranged => ?_
  obtain ⟨first, second, third⟩ := Run.operands_of_peekThree peeked
  rw [Opcode.needed_of_range rfl, first, third]
  cases placed : words.2.1.toPosition? with
  | none =>
      refine .refuses (refused ?_)
      rw [second]
      exact Word.positionLimit_le_of_toPosition? placed
  | some offset =>
      refine .reach (Word.range_eq_ok ranged).2.le fun needed reaches => .measureMemory ?_
      have measured := Memory.measures_of_range ranged reaches
      have position : offset = words.2.1.toNat := by
        refine Word.position_eq_ok ?_
        unfold Word.position
        rw [placed]
      rw [← measured.covered]
      refine .of_chargeCost GasSchedule.inBounds_copy (fun _ => GasSchedule.contains_copy)
        fun price priced paid same => ?_
      obtain ⟨growth, grows, _⟩ := GasSchedule.contains_copy priced
      have within : paid.frame.memory.size ≤ max machine.frame.memory.size needed := by
        rw [same]
        exact le_max_left _ _
      have larger := sound.expanded measured.aligned grows
      refine (within_drop 3 excuse paid within).bind fun _ dropped drops kept => ?_
      obtain ⟨stack, _, rfl⟩ := Run.updateStack_eq_ok.mp drops
      refine (within_frame _ excuse _ kept).bind fun returnData _ asked kept => ?_
      cases asked
      refine contained_storeWindow larger
        (measured.covers.imp_right (·.trans (le_max_right _ _))) kept fun beyond => excused ?_
      rw [second, third, ← measured.sized, ← position]
      rw [same] at beyond
      exact beyond

end Instruction

end CancunMachine
