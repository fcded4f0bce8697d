import Mathlib.Tactic
import CancunMachine.Instruction.Dispatch
import CancunMachine.Proofs.Stack.Exchange

/-!
# What the instructions exchange

The instructions that start no child, one after the other. The price of an instruction and its work
beside the stack exchange nothing, so its operands and its result are read off its steps on the
stack; all ways through an instruction that ends well come to the same.
-/

namespace CancunMachine

open Ending Run

namespace Instruction

variable {host : Host}

theorem exchanges_pushing (tier : Tier) {value : Run Word} (finds : Exchanges 0 0 value) :
    Exchanges 0 1 (pushing host tier value) :=
  ((exchanges_charge _).bind fun _ => finds.bind fun _ => (exchanges_push _).bind fun _ =>
    exchanges_pure _).as rfl rfl

theorem exchanges_unary (tier : Tier) (operation : Word → Word) :
    Exchanges 1 1 (unary host tier operation) :=
  ((exchanges_charge _).bind fun _ => exchanges_popOne.bind fun _ =>
    (exchanges_push _).bind fun _ => exchanges_pure _).as rfl rfl

theorem exchanges_binary (tier : Tier) (operation : Word → Word → Word) :
    Exchanges 2 1 (binary host tier operation) :=
  ((exchanges_charge _).bind fun _ => exchanges_popTwo.bind fun _ =>
    (exchanges_push _).bind fun _ => exchanges_pure _).as rfl rfl

theorem exchanges_ternary (tier : Tier) (operation : Word → Word → Word → Word) :
    Exchanges 3 1 (ternary host tier operation) :=
  ((exchanges_charge _).bind fun _ => exchanges_popThree.bind fun _ =>
    (exchanges_push _).bind fun _ => exchanges_pure _).as rfl rfl

theorem exchanges_exp : Exchanges 2 1 (exp host) :=
  (exchanges_peekTwo.bind fun _ => (exchanges_chargeCost _).bind fun _ =>
    (exchanges_drop 2).bind fun _ => (exchanges_push _).bind fun _ => exchanges_pure _).as rfl rfl

theorem exchanges_pushImmediate (width : Nat) : Exchanges 0 1 (pushImmediate host width) :=
  ((exchanges_charge _).bind fun _ => (exchanges_frame _).bind fun _ =>
    (exchanges_push _).bind fun _ => (exchanges_advance width).bind fun _ =>
    exchanges_pure _).as rfl rfl

theorem exchanges_duplicate (index : Nat) :
    Exchanges (index + 1) (index + 2) (duplicate host index) :=
  ((exchanges_charge _).bind fun _ => (exchanges_dup index).bind fun _ =>
    exchanges_pure _).as (by omega) (by omega)

theorem exchanges_exchange (index : Nat) :
    Exchanges (index + 1) (index + 1) (exchange host index) :=
  ((exchanges_charge _).bind fun _ => (exchanges_swap index).bind fun _ =>
    exchanges_pure _).as (by omega) (by omega)

theorem exchanges_popInstruction : Exchanges 1 0 (pop host) :=
  ((exchanges_charge _).bind fun _ => (exchanges_drop 1).bind fun _ =>
    exchanges_pure _).as rfl rfl

/-- A host-owned account gives a balance as any other does. -/
theorem exchanges_balance : Exchanges 1 1 (balance host) := by
  refine exchanges_peekOne.step (le_refl 1) fun word => Exchanges.branch ?_ ?_
  · exact ((exchanges_charge _).bind fun _ => (exchanges_drop 1).bind fun _ =>
      (exchanges_push _).bind fun _ => exchanges_pure _).as rfl rfl
  · exact ((exchanges_isColdAddress _).bind fun _ => (exchanges_charge _).bind fun _ =>
      (exchanges_warmAddress _).bind fun _ => (exchanges_onWorld _).bind fun _ =>
      (exchanges_drop 1).bind fun _ => (exchanges_push _).bind fun _ =>
      exchanges_pure _).as rfl rfl

theorem exchanges_calldataload : Exchanges 1 1 (calldataload host) :=
  ((exchanges_charge _).bind fun _ => exchanges_popOne.bind fun _ =>
    (exchanges_frame _).bind fun _ => (exchanges_push _).bind fun _ =>
    exchanges_pure _).as rfl rfl

theorem exchanges_copyFrom (source : Frame → ByteArray) : Exchanges 3 0 (copyFrom host source) :=
  (exchanges_peekThree.bind fun _ => (exchanges_range _ _).bind fun _ =>
    (exchanges_reach _ _).bind fun _ => exchanges_memorySize.bind fun _ =>
    (exchanges_chargeCost _).bind fun _ => (exchanges_drop 3).bind fun _ =>
    (exchanges_frame _).bind fun _ => (exchanges_onMemory _).bind fun _ =>
    exchanges_pure _).as rfl rfl

theorem exchanges_chargeCodeAccess (address : Address) (extra : UInt64) :
    Exchanges 0 0 (chargeCodeAccess host address extra) := by
  have access : Exchanges 0 0 (do
      let cold ← Run.isColdAddress address
      Run.chargeCost (Gas.plus (host.schedule.accountAccess cold) extra)
      Run.warmAddress address) :=
    ((exchanges_isColdAddress _).bind fun _ => (exchanges_chargeCost _).bind fun _ =>
      exchanges_warmAddress _).as rfl rfl
  refine Exchanges.branch ?_ access
  exact ((exchanges_ofHalting _).bind fun _ => (exchanges_frame _).bind fun _ =>
    Exchanges.guard access).as rfl rfl

theorem exchanges_inspectCode (view : Address → Access Word) :
    Exchanges 1 1 (inspectCode host view) := by
  refine exchanges_peekOne.step (le_refl 1) fun word =>
    (exchanges_chargeCodeAccess _ 0).step (Nat.zero_le 1) fun _ =>
    (exchanges_drop 1).step (le_refl 1) fun _ => Exchanges.branch ?_ ?_
  · exact ((exchanges_push _).bind fun _ => exchanges_pure _).as rfl rfl
  · exact ((exchanges_onWorld _).bind fun _ => (exchanges_push _).bind fun _ =>
      exchanges_pure _).as rfl rfl

theorem exchanges_extcodecopy : Exchanges 4 0 (extcodecopy host) := by
  refine exchanges_peekFour.step (le_refl 4) fun _ =>
    (exchanges_range _ _).step (Nat.zero_le 4) fun _ =>
    (exchanges_reach _ _).step (Nat.zero_le 4) fun _ =>
    exchanges_memorySize.step (Nat.zero_le 4) fun _ =>
    (exchanges_ofHalting _).step (Nat.zero_le 4) fun _ =>
    (exchanges_chargeCodeAccess _ _).step (Nat.zero_le 4) fun _ =>
    (exchanges_drop 4).step (le_refl 4) fun _ => Exchanges.branch (exchanges_pure _) ?_
  exact ((exchanges_onWorld _).bind fun _ => (exchanges_onMemory _).bind fun _ =>
    exchanges_pure _).as rfl rfl

theorem exchanges_returndatacopy : Exchanges 3 0 (returndatacopy host) := by
  refine exchanges_peekThree.step (le_refl 3) fun words =>
    (exchanges_range _ _).step (Nat.zero_le 3) fun range => ?_
  cases words.2.1.toPosition? with
  | none => exact exchanges_halt _
  | some offset =>
      refine (exchanges_reach _ _).step (Nat.zero_le 3) fun _ =>
        exchanges_memorySize.step (Nat.zero_le 3) fun _ =>
        (exchanges_chargeCost _).step (Nat.zero_le 3) fun _ =>
        (exchanges_drop 3).step (le_refl 3) fun _ =>
        (exchanges_frame _).step (le_refl 0) fun returnData => ?_
      cases Bytes.window? returnData offset range.1 with
      | none => exact exchanges_halt _
      | some bytes =>
          exact ((exchanges_onMemory _).bind fun _ => exchanges_pure _).as rfl rfl

theorem exchanges_blockhash : Exchanges 1 1 (blockhash host) := by
  have answers : ∀ word : Word, Exchanges 0 1 (do
      Run.push word
      return Signal.proceed) :=
    fun word => ((exchanges_push word).bind fun _ => exchanges_pure _).as rfl rfl
  refine (exchanges_charge _).step (Nat.zero_le 1) fun _ =>
    exchanges_popOne.step (le_refl 1) fun number => Exchanges.branch (answers _) ?_
  refine (exchanges_onWorld _).step (le_refl 0) fun hash? => ?_
  cases hash? <;> exact answers _

theorem exchanges_selfbalance : Exchanges 0 1 (selfbalance host) :=
  exchanges_pushing .low
    (((exchanges_frame _).bind fun _ => exchanges_onWorld _).as rfl rfl)

theorem exchanges_blobhash : Exchanges 1 1 (blobhash host) :=
  ((exchanges_charge _).bind fun _ => exchanges_popOne.bind fun _ =>
    (exchanges_push _).bind fun _ => exchanges_pure _).as rfl rfl

theorem exchanges_keccak256 : Exchanges 2 1 (keccak256 host) :=
  (exchanges_peekTwo.bind fun _ => (exchanges_range _ _).bind fun _ =>
    (exchanges_reach _ _).bind fun _ => exchanges_memorySize.bind fun _ =>
    (exchanges_chargeCost _).bind fun _ => (exchanges_drop 2).bind fun _ =>
    (exchanges_onMemory _).bind fun _ => (exchanges_push _).bind fun _ =>
    exchanges_pure _).as rfl rfl

theorem exchanges_chargeMemoryAccess (offset : Word) (size : Nat) :
    Exchanges 0 0 (chargeMemoryAccess host offset size) :=
  ((exchanges_position _).bind fun _ => (exchanges_reach _ _).bind fun _ =>
    exchanges_memorySize.bind fun _ => (exchanges_chargeCost _).bind fun _ =>
    exchanges_pure _).as rfl rfl

theorem exchanges_mload : Exchanges 1 1 (mload host) :=
  (exchanges_peekOne.bind fun _ => (exchanges_chargeMemoryAccess _ 32).bind fun _ =>
    (exchanges_drop 1).bind fun _ => (exchanges_onMemory _).bind fun _ =>
    (exchanges_push _).bind fun _ => exchanges_pure _).as rfl rfl

theorem exchanges_mstore : Exchanges 2 0 (mstore host) :=
  (exchanges_peekTwo.bind fun _ => (exchanges_chargeMemoryAccess _ 32).bind fun _ =>
    (exchanges_drop 2).bind fun _ => (exchanges_onMemory _).bind fun _ =>
    exchanges_pure _).as rfl rfl

theorem exchanges_mstore8 : Exchanges 2 0 (mstore8 host) :=
  (exchanges_peekTwo.bind fun _ => (exchanges_chargeMemoryAccess _ 1).bind fun _ =>
    (exchanges_drop 2).bind fun _ => (exchanges_onMemory _).bind fun _ =>
    exchanges_pure _).as rfl rfl

theorem exchanges_mcopy : Exchanges 3 0 (mcopy host) := by
  have copies : ∀ source target size : Nat, Exchanges 3 0 (do
      let neededSource ← Run.reach source size
      let neededTarget ← Run.reach target size
      Run.chargeCost (host.schedule.copy (max neededSource neededTarget) (← Run.memorySize) size)
      Run.drop 3
      Run.onMemory (Memory.copyWithin source target size)
      return Signal.proceed) := fun source target size =>
    ((exchanges_reach _ _).bind fun _ => (exchanges_reach _ _).bind fun _ =>
      exchanges_memorySize.bind fun _ => (exchanges_chargeCost _).bind fun _ =>
      (exchanges_drop 3).bind fun _ => (exchanges_onMemory _).bind fun _ =>
      exchanges_pure _).as rfl rfl
  refine exchanges_peekThree.step (le_refl 3) fun words =>
    (exchanges_range _ _).step (Nat.zero_le 3) fun range =>
    Exchanges.branch (copies _ _ _) ?_
  exact (exchanges_position _).step (Nat.zero_le 3) fun source => copies _ _ _

theorem exchanges_traceTracked (event : Event) : Exchanges 0 0 (do
    if ← Run.frame (·.isTracked) then Run.trace host event
    return Signal.proceed) := by
  refine (exchanges_frame _).step (le_refl 0) fun tracked =>
    Exchanges.branch ?_ (exchanges_pure _)
  exact ((exchanges_trace event).bind fun _ => exchanges_pure _).as rfl rfl

theorem exchanges_sload : Exchanges 1 1 (sload host) :=
  (exchanges_peekOne.bind fun _ => (exchanges_frame _).bind fun _ =>
    (exchanges_isColdSlot _ _).bind fun _ => (exchanges_charge _).bind fun _ =>
    (exchanges_warmSlot _ _).bind fun _ => (exchanges_drop 1).bind fun _ =>
    (exchanges_onWorld _).bind fun _ => (exchanges_push _).bind fun _ =>
    exchanges_traceTracked _).as rfl rfl

theorem exchanges_sstore : Exchanges 2 0 (sstore host) := by
  refine exchanges_forbidStatic.step (Nat.zero_le 2) fun _ =>
    (exchanges_frame _).step (Nat.zero_le 2) fun gas => Exchanges.guard ?_
  exact (exchanges_peekTwo.bind fun _ => (exchanges_frame _).bind fun _ =>
    (exchanges_onWorld _).bind fun _ => (exchanges_onWorld _).bind fun _ =>
    (exchanges_isColdSlot _ _).bind fun _ => (exchanges_chargeCost _).bind fun _ =>
    (exchanges_warmSlot _ _).bind fun _ => (exchanges_drop 2).bind fun _ =>
    (exchanges_modifySubstate _).bind fun _ => (exchanges_onWorld _).bind fun _ =>
    (exchanges_setLastWrite _).bind fun _ => exchanges_traceTracked _).as rfl rfl

theorem exchanges_tload : Exchanges 1 1 (tload host) :=
  ((exchanges_charge _).bind fun _ => exchanges_popOne.bind fun _ =>
    (exchanges_frame _).bind fun _ => exchanges_get.bind fun _ =>
    (exchanges_push _).bind fun _ => exchanges_pure _).as rfl rfl

theorem exchanges_tstore : Exchanges 2 0 (tstore host) :=
  (exchanges_forbidStatic.bind fun _ => (exchanges_charge _).bind fun _ =>
    exchanges_popTwo.bind fun _ => (exchanges_frame _).bind fun _ =>
    (exchanges_modifySubstate _).bind fun _ => exchanges_pure _).as rfl rfl

/-- A log takes the operands for its data and one for each topic. -/
theorem exchanges_log (topicCount : Nat) : Exchanges (topicCount + 2) 0 (log host topicCount) :=
  (exchanges_forbidStatic.bind fun _ => (exchanges_peek (topicCount + 2)).bind fun _ =>
    exchanges_peekTwo.bind fun _ => (exchanges_range _ _).bind fun _ =>
    (exchanges_reach _ _).bind fun _ => exchanges_memorySize.bind fun _ =>
    (exchanges_chargeCost _).bind fun _ => (exchanges_drop 2).bind fun _ =>
    (exchanges_pop topicCount).bind fun _ => (exchanges_frame _).bind fun _ =>
    (exchanges_onMemory _).bind fun _ => (exchanges_modifySubstate _).bind fun _ =>
    exchanges_pure _).as (by omega) (by omega)

theorem exchanges_jumpInstruction : Exchanges 1 0 (jump host) :=
  ((exchanges_charge _).bind fun _ => exchanges_popOne.bind fun _ =>
    (exchanges_jump _).bind fun _ => exchanges_pure _).as rfl rfl

theorem exchanges_jumpi : Exchanges 2 0 (jumpi host) := by
  refine (exchanges_charge _).step (Nat.zero_le 2) fun _ =>
    exchanges_popTwo.step (le_refl 2) fun words => Exchanges.branch ?_ (exchanges_pure _)
  exact ((exchanges_jump _).bind fun _ => exchanges_pure _).as rfl rfl

theorem exchanges_jumpdest : Exchanges 0 0 (jumpdest host) :=
  ((exchanges_charge _).bind fun _ => exchanges_pure _).as rfl rfl

theorem exchanges_setOutput : Exchanges 2 0 (setOutput host) :=
  (exchanges_peekTwo.bind fun _ => (exchanges_range _ _).bind fun _ =>
    (exchanges_reach _ _).bind fun _ => exchanges_memorySize.bind fun _ =>
    (exchanges_chargeCost _).bind fun _ => (exchanges_drop 2).bind fun _ =>
    (exchanges_onMemory _).bind fun _ => exchanges_setFrameOutput _).as rfl rfl

theorem exchanges_returns : Exchanges 2 0 (returns host) :=
  (exchanges_setOutput.bind fun _ => exchanges_pure _).as rfl rfl

theorem exchanges_revert : Exchanges 2 0 (revert host) :=
  exchanges_setOutput.step (le_refl 2) fun _ => exchanges_throw _

theorem exchanges_chargeDestruction (beneficiary : Address) (balance : Word) :
    Exchanges 1 0 (chargeDestruction host beneficiary balance) := by
  have pays : ∀ cold createsAccount : Bool, Exchanges 1 0 (do
      Run.charge (host.schedule.selfdestructCost cold createsAccount)
      Run.warmAddress beneficiary
      Run.drop 1) := fun cold createsAccount =>
    ((exchanges_charge _).bind fun _ => (exchanges_warmAddress _).bind fun _ =>
      exchanges_drop 1).as rfl rfl
  refine (exchanges_isColdAddress _).step (Nat.zero_le 1) fun cold =>
    Exchanges.branch (pays _ _) ?_
  exact (exchanges_onWorld _).step (Nat.zero_le 1) fun createsAccount => pays _ _

theorem exchanges_bequeath (address beneficiary : Address) (balance : Word) :
    Exchanges 0 0 (bequeath host address beneficiary balance) := by
  refine (exchanges_onWorld _).step (le_refl 0) fun _ => exchanges_get.step (le_refl 0) fun seen =>
    Exchanges.branch ?_ (exchanges_pure _)
  exact ((exchanges_onWorld _).bind fun _ => exchanges_modifySubstate _).as rfl rfl

/-- A destruction takes its beneficiary, also where it is replaced. -/
theorem exchanges_selfdestruct : Exchanges 1 0 (selfdestruct host) := by
  refine exchanges_forbidStatic.step (Nat.zero_le 1) fun _ =>
    exchanges_peekOne.step (le_refl 1) fun word => ?_
  cases host.overrides.destruction with
  | some override =>
      exact ((exchanges_drop 1).bind fun _ => exchanges_get.bind fun _ =>
        (exchanges_record _).bind fun _ => (exchanges_charge _).bind fun _ =>
        exchanges_ofExcept _).as rfl rfl
  | none =>
      exact ((exchanges_frame _).bind fun _ => (exchanges_onWorld _).bind fun _ =>
        (exchanges_chargeDestruction _ _).bind fun _ => (exchanges_bequeath _ _ _).bind fun _ =>
        exchanges_pure _).as rfl rfl

end Instruction

end CancunMachine
