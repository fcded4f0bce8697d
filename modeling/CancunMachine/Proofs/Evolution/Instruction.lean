import Mathlib.Tactic
import CancunMachine.Instruction.Dispatch
import CancunMachine.Proofs.Evolution.Step
import CancunMachine.Proofs.Gas

/-!
# The conduct of the instructions

The instructions that start no child, one after the other: each is orderly, and its price and its
use of the stack are read off its steps.
-/

namespace CancunMachine

open Ending

namespace Instruction

variable {host : Host} {known : Invocation → Prop} {silent tame : Prop}

theorem orderly_pushing (tier : Tier) {value : Run Word}
    (finds : Orderly host known silent tame 0 0 value) :
    Orderly host known silent tame (host.schedule.tier tier).toNat 1 (pushing host tier value) :=
  ((orderly_charge _).bind fun _ => finds.bind fun _ => (orderly_push _).bind fun _ =>
    orderly_pure _).weaken (by omega) (by omega)

theorem orderly_unary (tier : Tier) (operation : Word → Word) :
    Orderly host known silent tame (host.schedule.tier tier).toNat 0 (unary host tier operation) :=
  ((orderly_charge _).bind fun _ => orderly_popOne.bind fun _ => (orderly_push _).bind fun _ =>
    orderly_pure _).weaken (by omega) (by omega)

theorem orderly_binary (tier : Tier) (operation : Word → Word → Word) :
    Orderly host known silent tame (host.schedule.tier tier).toNat (-1) (binary host tier operation) :=
  ((orderly_charge _).bind fun _ => orderly_popTwo.bind fun _ => (orderly_push _).bind fun _ =>
    orderly_pure _).weaken (by omega) (by omega)

theorem orderly_ternary (tier : Tier) (operation : Word → Word → Word → Word) :
    Orderly host known silent tame (host.schedule.tier tier).toNat (-2)
      (ternary host tier operation) :=
  ((orderly_charge _).bind fun _ => orderly_popThree.bind fun _ => (orderly_push _).bind fun _ =>
    orderly_pure _).weaken (by omega) (by omega)

theorem orderly_exp :
    Orderly host known silent tame host.schedule.expStatic.toNat (-1) (exp host) :=
  (orderly_peekTwo.bind fun _ =>
    (orderly_chargeCost _ _ fun _ => GasSchedule.le_exp).bind fun _ =>
    (orderly_drop 2).bind fun _ => (orderly_push _).bind fun _ =>
    orderly_pure _).weaken (by omega) (by omega)

theorem orderly_pushImmediate (width : Nat) :
    Orderly host known silent tame (host.schedule.tier .veryLow).toNat 1 (pushImmediate host width) :=
  ((orderly_charge _).bind fun _ => (orderly_frame _).bind fun _ => (orderly_push _).bind fun _ =>
    (orderly_advance width).bind fun _ => orderly_pure _).weaken (by omega) (by omega)

theorem orderly_duplicate (index : Nat) :
    Orderly host known silent tame (host.schedule.tier .veryLow).toNat 1 (duplicate host index) :=
  ((orderly_charge _).bind fun _ => (orderly_dup index).bind fun _ =>
    orderly_pure _).weaken (by omega) (by omega)

theorem orderly_exchange (index : Nat) :
    Orderly host known silent tame (host.schedule.tier .veryLow).toNat 0 (exchange host index) :=
  ((orderly_charge _).bind fun _ => (orderly_swap index).bind fun _ =>
    orderly_pure _).weaken (by omega) (by omega)

theorem orderly_popInstruction :
    Orderly host known silent tame (host.schedule.tier .base).toNat (-1) (pop host) :=
  ((orderly_charge _).bind fun _ => (orderly_drop 1).bind fun _ =>
    orderly_pure _).weaken (by omega) (by omega)

/-- Taking the price of an access. -/
theorem orderly_chargeAccess (cold : Bool) :
    Orderly host known silent tame host.schedule.leastAccess 0
      (Run.charge (host.schedule.accountAccess cold)) :=
  (orderly_charge _).weaken (GasSchedule.leastAccess_le _ _) (le_refl _)

theorem orderly_balance :
    Orderly host known silent tame host.schedule.leastAccess 0 (balance host) := by
  have system : host.schedule.leastAccess ≤ host.schedule.coldAccountAccess.toNat :=
    GasSchedule.leastAccess_le _ true
  refine (orderly_peekOne.bind fun word => ?_).weaken (Nat.le_add_left _ 0) (Int.zero_add 0).le
  refine Orderly.branch ?_ ?_
  · exact ((orderly_charge _).bind fun _ => (orderly_drop 1).bind fun _ =>
      (orderly_push _).bind fun _ => orderly_pure _).weaken (by omega) (by omega)
  · exact ((orderly_isColdAddress _).bind fun cold => (orderly_chargeAccess cold).bind fun _ =>
      (orderly_warmAddress _).bind fun _ =>
      (orderly_reading (Access.reads_balance _)).bind fun _ => (orderly_drop 1).bind fun _ =>
      (orderly_push _).bind fun _ => orderly_pure _).weaken (by omega) (by omega)

theorem orderly_calldataload :
    Orderly host known silent tame (host.schedule.tier .veryLow).toNat 0 (calldataload host) :=
  ((orderly_charge _).bind fun _ => orderly_popOne.bind fun _ => (orderly_frame _).bind fun _ =>
    (orderly_push _).bind fun _ => orderly_pure _).weaken (by omega) (by omega)

theorem orderly_copyFrom (source : Frame → ByteArray) :
    Orderly host known silent tame (host.schedule.tier .veryLow).toNat (-3) (copyFrom host source) :=
  (orderly_peekThree.bind fun _ => (orderly_range _ _).bind fun _ => (orderly_reach _ _).bind fun _ =>
    orderly_memorySize.bind fun _ =>
    (orderly_chargeCost _ _ fun _ => GasSchedule.le_copy).bind fun _ =>
    (orderly_drop 3).bind fun _ => (orderly_frame _).bind fun _ =>
    (orderly_onMemory (Memory.haltsUnchanged_storePadded _ _ _)).bind fun _ =>
    orderly_pure _).weaken (by omega) (by omega)

theorem orderly_chargeCodeAccess (address : Address) (extra : UInt64) :
    Orderly host known silent tame host.schedule.leastAccess 0 (chargeCodeAccess host address extra) := by
  have access : Orderly host known silent tame host.schedule.leastAccess 0 (do
      let cold ← Run.isColdAddress address
      Run.chargeCost (Gas.plus (host.schedule.accountAccess cold) extra)
      Run.warmAddress address) := by
    refine ((orderly_isColdAddress address).bind fun cold =>
      (orderly_chargeCost _ host.schedule.leastAccess ?_).bind fun _ =>
      orderly_warmAddress address).weaken (by omega) (by omega)
    intro price sum
    have least := GasSchedule.leastAccess_le host.schedule cold
    rw [Gas.plus_eq_ok sum]
    omega
  unfold chargeCodeAccess
  refine Orderly.branch ?_ access
  refine (orderly_ofHalting _).step fun estimate => (orderly_frame _).step fun gas => ?_
  exact (Orderly.guard fun _ => access).weaken (by omega) (by omega)

theorem orderly_inspectCode {view : Address → Access Word} {shown : Address → World → Word}
    (reads : ∀ address, Access.Reads host.refusals (view address) (shown address)) :
    Orderly host known silent tame host.schedule.leastAccess 0 (inspectCode host view) := by
  refine orderly_peekOne.step fun word => (orderly_chargeCodeAccess _ 0).step fun _ =>
    (orderly_drop 1).step fun _ => Orderly.branch ?_ ?_
  · exact ((orderly_push _).bind fun _ => orderly_pure _).weaken (by omega) (by omega)
  · exact ((orderly_reading (reads _)).bind fun _ => (orderly_push _).bind fun _ =>
      orderly_pure _).weaken (by omega) (by omega)

theorem orderly_extcodesize :
    Orderly host known silent tame host.schedule.leastAccess 0 (extcodesize host) :=
  orderly_inspectCode fun address => (Access.reads_code address).map _ fun _ => rfl

theorem orderly_extcodehash :
    Orderly host known silent tame host.schedule.leastAccess 0 (extcodehash host) := by
  refine orderly_inspectCode fun address => (Access.reads_account address).map
    (fun account? => account?.elim .zero fun account =>
      if account.isEmpty then .zero else account.codeHash.toWord) ?_
  intro account?
  cases account? <;> rfl

theorem orderly_extcodecopy :
    Orderly host known silent tame host.schedule.leastAccess (-4) (extcodecopy host) := by
  refine orderly_peekFour.step fun _ => (orderly_range _ _).step fun _ =>
    (orderly_reach _ _).step fun _ => orderly_memorySize.step fun _ =>
    (orderly_ofHalting _).step fun _ => (orderly_chargeCodeAccess _ _).step fun _ =>
    (orderly_drop 4).step fun _ => Orderly.branch ?_ ?_
  · exact (orderly_pure _).weaken (by omega) (by omega)
  · exact ((orderly_reading (Access.reads_code _)).bind fun _ =>
      (orderly_onMemory (Memory.haltsUnchanged_storePadded _ _ _)).bind fun _ =>
      orderly_pure _).weaken (by omega) (by omega)

theorem orderly_returndatacopy :
    Orderly host known silent tame (host.schedule.tier .veryLow).toNat (-3) (returndatacopy host) := by
  refine orderly_peekThree.step fun words => (orderly_range _ _).step fun range => ?_
  cases words.2.1.toPosition? with
  | none => exact orderly_halt _ _ _
  | some offset =>
      refine (orderly_reach _ _).step fun needed => orderly_memorySize.step fun current =>
        (orderly_chargeCost _ _ fun _ => GasSchedule.le_copy).step fun _ =>
        (orderly_drop 3).step fun _ => (orderly_frame _).step fun returnData => ?_
      cases Bytes.window? returnData offset range.1 with
      | none => exact orderly_halt _ _ _
      | some bytes =>
          exact ((orderly_onMemory (Memory.haltsUnchanged_store _ _)).bind fun _ =>
            orderly_pure _).weaken (by omega) (by omega)

theorem orderly_blockhash :
    Orderly host known silent tame host.schedule.blockhash.toNat 0 (blockhash host) := by
  refine (orderly_charge _).step fun _ => orderly_popOne.step fun number => Orderly.branch ?_ ?_
  · exact ((orderly_push _).bind fun _ => orderly_pure _).weaken (by omega) (by omega)
  · refine (orderly_reading (Access.reads_blockHash _)).step fun hash? => ?_
    cases hash? <;>
      exact ((orderly_push _).bind fun _ => orderly_pure _).weaken (by omega) (by omega)

theorem orderly_selfbalance :
    Orderly host known silent tame (host.schedule.tier .low).toNat 1 (selfbalance host) :=
  orderly_pushing .low (((orderly_frame _).bind fun _ =>
    orderly_reading (Access.reads_balance _)).weaken (by omega) (by omega))

theorem orderly_blobhash :
    Orderly host known silent tame host.schedule.blobhash.toNat 0 (blobhash host) :=
  ((orderly_charge _).bind fun _ => orderly_popOne.bind fun _ => (orderly_push _).bind fun _ =>
    orderly_pure _).weaken (by omega) (by omega)

theorem orderly_keccak256 :
    Orderly host known silent tame host.schedule.keccakStatic.toNat (-1) (keccak256 host) :=
  (orderly_peekTwo.bind fun _ => (orderly_range _ _).bind fun _ => (orderly_reach _ _).bind fun _ =>
    orderly_memorySize.bind fun _ =>
    (orderly_chargeCost _ _ fun _ => GasSchedule.le_keccak256).bind fun _ =>
    (orderly_drop 2).bind fun _ =>
    (orderly_onMemory (Memory.haltsUnchanged_load _ _)).bind fun _ =>
    (orderly_push _).bind fun _ => orderly_pure _).weaken (by omega) (by omega)

theorem orderly_chargeMemoryAccess (offset : Word) (size : Nat) :
    Orderly host known silent tame (host.schedule.tier .veryLow).toNat 0
      (chargeMemoryAccess host offset size) :=
  ((orderly_position _).bind fun _ => (orderly_reach _ _).bind fun _ =>
    orderly_memorySize.bind fun _ =>
    (orderly_chargeCost _ _ fun _ => GasSchedule.le_memoryAccess).bind fun _ =>
    orderly_pure _).weaken (by omega) (by omega)

theorem orderly_mload :
    Orderly host known silent tame (host.schedule.tier .veryLow).toNat 0 (mload host) :=
  (orderly_peekOne.bind fun _ => (orderly_chargeMemoryAccess _ 32).bind fun _ =>
    (orderly_drop 1).bind fun _ =>
    (orderly_onMemory (Memory.haltsUnchanged_loadWord _)).bind fun _ =>
    (orderly_push _).bind fun _ => orderly_pure _).weaken (by omega) (by omega)

theorem orderly_mstore :
    Orderly host known silent tame (host.schedule.tier .veryLow).toNat (-2) (mstore host) :=
  (orderly_peekTwo.bind fun _ => (orderly_chargeMemoryAccess _ 32).bind fun _ =>
    (orderly_drop 2).bind fun _ =>
    (orderly_onMemory (Memory.haltsUnchanged_store _ _)).bind fun _ =>
    orderly_pure _).weaken (by omega) (by omega)

theorem orderly_mstore8 :
    Orderly host known silent tame (host.schedule.tier .veryLow).toNat (-2) (mstore8 host) :=
  (orderly_peekTwo.bind fun _ => (orderly_chargeMemoryAccess _ 1).bind fun _ =>
    (orderly_drop 2).bind fun _ =>
    (orderly_onMemory (Memory.haltsUnchanged_store _ _)).bind fun _ =>
    orderly_pure _).weaken (by omega) (by omega)

/-- Both ranges were measured before the copy, so that their ends are positions. -/
theorem orderly_mcopy :
    Orderly host known silent tame (host.schedule.tier .veryLow).toNat (-3) (mcopy host) := by
  have copies : ∀ source target size : Nat,
      Orderly host known silent tame (host.schedule.tier .veryLow).toNat (-3) (do
        let neededSource ← Run.reach source size
        let neededTarget ← Run.reach target size
        Run.chargeCost
          (host.schedule.copy (max neededSource neededTarget) (← Run.memorySize) size)
        Run.drop 3
        Run.onMemory (Memory.copyWithin source target size)
        return Signal.proceed) := by
    intro source target size
    refine Orderly.given fun neededSource measuredSource =>
      Orderly.given fun neededTarget measuredTarget => ?_
    have within : size = 0 ∨ max source target + size < positionLimit := by
      have sourceWithin := Memory.lt_positionLimit_of_sizeToReach measuredSource
      have targetWithin := Memory.lt_positionLimit_of_sizeToReach measuredTarget
      omega
    exact (orderly_memorySize.bind fun _ =>
      (orderly_chargeCost _ _ fun _ => GasSchedule.le_copy).bind fun _ =>
      (orderly_drop 3).bind fun _ =>
      (orderly_onMemory (Memory.haltsUnchanged_copyWithin within)).bind fun _ =>
      orderly_pure _).weaken (by omega) (by omega)
  refine orderly_peekThree.step fun words => (orderly_range _ _).step fun range => ?_
  refine Orderly.branch ?_ ?_
  · exact (copies _ _ _).weaken (by omega) (by omega)
  · refine (orderly_position _).step fun source => ?_
    exact (copies _ _ _).weaken (by omega) (by omega)

end Instruction

end CancunMachine
