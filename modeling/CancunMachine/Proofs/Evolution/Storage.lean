import Mathlib.Tactic
import CancunMachine.Proofs.Evolution.Instruction

/-!
# The conduct of storage, jumps and exits

The instructions that write first make sure that the frame is not static; what they write belongs
to the account of the frame.
-/

namespace CancunMachine

open Ending

namespace Instruction

variable {host : Host} {known : Invocation → Prop} {silent tame : Prop}

theorem orderly_traceTracked (event : Event) :
    Orderly host known silent tame 0 0 (do
      if ← Run.frame (·.isTracked) then Run.trace host event
      return Signal.proceed) := by
  refine (orderly_frame _).step fun tracked => Orderly.branch ?_ ?_
  · exact ((orderly_trace event).bind fun _ => orderly_pure _).weaken (by omega) (by omega)
  · exact (orderly_pure _).weaken (by omega) (by omega)

theorem orderly_sload :
    Orderly host known silent tame
      (min host.schedule.coldSload.toNat host.schedule.warmAccess.toNat) 0 (sload host) := by
  refine orderly_peekOne.step fun key => (orderly_frame _).step fun address =>
    (orderly_isColdSlot _ _).step fun cold => ?_
  have price : min host.schedule.coldSload.toNat host.schedule.warmAccess.toNat ≤
      (host.schedule.sload cold).toNat := by
    unfold GasSchedule.sload
    split <;> omega
  exact ((orderly_charge _).bind fun _ => (orderly_warmSlot _ _).bind fun _ =>
    (orderly_drop 1).bind fun _ => (orderly_reading (Access.reads_slot _ _)).bind fun _ =>
    (orderly_push _).bind fun _ => orderly_traceTracked _).weaken (by omega) (by omega)

theorem leastWrite_le_sstorePrice {initial current new : Word} {cold : Bool} {price : UInt64}
    (fits : sstorePrice host initial current new cold = .ok price) :
    host.schedule.leastWrite ≤ price.toNat := by
  have least := GasSchedule.leastWrite_le host.schedule initial current new
  unfold sstorePrice at fits
  split at fits
  · rw [Gas.plus_eq_ok fits]
    omega
  · cases fits
    exact least

theorem orderly_sstore :
    Orderly host known False tame host.schedule.leastWrite (-2) (sstore host) := by
  refine Orderly.unlessStatic ((orderly_frame _).step fun gas => Orderly.guard fun _ => ?_)
  refine orderly_peekTwo.step fun words => Orderly.asking (·.recipient) fun address => ?_
  refine (orderly_reading (Access.reads_slot _ _)).step fun current =>
    (orderly_reading (Access.reads_initial _ _)).step fun initial =>
    (orderly_isColdSlot _ _).step fun cold => ?_
  refine (orderly_chargeCost _ _ fun _ => leastWrite_le_sstorePrice).step fun _ =>
    (orderly_warmSlot _ _).step fun _ => (orderly_drop 2).step fun _ => ?_
  refine (orderly_modifySubstate _ fun machine holds => ?_).step fun _ =>
    (orderly_writing (Access.writes_slot _ _ _) fun machine holds => ?_).step fun _ => ?_
  · exact .refund _ holds.1.2
  · rw [holds.2]
    exact .writeSlot _ _ holds.1.2
  · exact ((orderly_setLastWrite _).bind fun _ =>
      orderly_traceTracked _).weaken (by omega) (by omega)

theorem orderly_tload :
    Orderly host known silent tame host.schedule.transientStorage.toNat 0 (tload host) :=
  ((orderly_charge _).bind fun _ => orderly_popOne.bind fun _ => (orderly_frame _).bind fun _ =>
    orderly_get.bind fun _ => (orderly_push _).bind fun _ =>
    orderly_pure _).weaken (by omega) (by omega)

theorem orderly_tstore :
    Orderly host known False tame host.schedule.transientStorage.toNat (-2) (tstore host) := by
  refine Orderly.unlessStatic ((orderly_charge _).step fun _ => orderly_popTwo.step fun words =>
    Orderly.asking (·.recipient) fun address => ?_)
  refine (orderly_modifySubstate _ fun machine holds => ?_).step fun _ => ?_
  · rw [holds.2]
    exact .writeTransient _ _ holds.1.2
  · exact (orderly_pure _).weaken (by omega) (by omega)

theorem orderly_log (topicCount : Nat) :
    Orderly host known False tame host.schedule.logStatic.toNat (-2) (log host topicCount) := by
  refine Orderly.unlessStatic ((orderly_peek _).step fun _ => orderly_peekTwo.step fun words =>
    (orderly_range _ _).step fun range => (orderly_reach _ _).step fun needed =>
    orderly_memorySize.step fun current =>
    (orderly_chargeCost _ _ fun _ => GasSchedule.le_log).step fun _ =>
    (orderly_drop 2).step fun _ => (orderly_pop topicCount).step fun topics =>
    Orderly.asking (·.recipient) fun address => ?_)
  refine (orderly_onMemory (Memory.haltsUnchanged_load _ _)).step fun data =>
    (orderly_modifySubstate _ fun machine holds => ?_).step fun _ => ?_
  · exact .log _ holds.1.2 holds.2
  · exact (orderly_pure _).weaken (by omega) (by omega)

theorem orderly_jumpInstruction :
    Orderly host known silent tame (host.schedule.tier .mid).toNat (-1) (jump host) :=
  ((orderly_charge _).bind fun _ => orderly_popOne.bind fun _ => (orderly_jump _).bind fun _ =>
    orderly_pure _).weaken (by omega) (by omega)

theorem orderly_jumpi :
    Orderly host known silent tame (host.schedule.tier .high).toNat (-2) (jumpi host) := by
  refine (orderly_charge _).step fun _ => orderly_popTwo.step fun words => Orderly.branch ?_ ?_
  · exact ((orderly_jump _).bind fun _ => orderly_pure _).weaken (by omega) (by omega)
  · exact (orderly_pure _).weaken (by omega) (by omega)

theorem orderly_jumpdest :
    Orderly host known silent tame host.schedule.jumpdest.toNat 0 (jumpdest host) :=
  ((orderly_charge _).bind fun _ => orderly_pure _).weaken (by omega) (by omega)

theorem orderly_setOutput : Orderly host known silent tame 0 (-2) (setOutput host) :=
  (orderly_peekTwo.bind fun _ => (orderly_range _ _).bind fun _ => (orderly_reach _ _).bind fun _ =>
    orderly_memorySize.bind fun _ =>
    (orderly_chargeCost _ 0 fun _ _ => Nat.zero_le _).bind fun _ => (orderly_drop 2).bind fun _ =>
    (orderly_onMemory (Memory.haltsUnchanged_load _ _)).bind fun _ =>
    orderly_setFrameOutput _).weaken (by omega) (by omega)

theorem orderly_returns : Orderly host known silent tame 0 (-2) (returns host) :=
  (orderly_setOutput.bind fun _ => orderly_pure _).weaken (by omega) (by omega)

theorem orderly_throwRevert (cost : Nat) (growth : Int) :
    Orderly host known silent tame cost growth (throw Failure.revert : Run Signal) where
  acts := fun _ done => by cases done
  keeps := fun _ _ done => by cases done
  spends := fun _ done => by cases done
  grows := fun _ done => by cases done
  failed := fun _ failed _ => by cases failed; exact .refl _
  stays := fun _ failed => by cases failed; exact ⟨rfl, le_refl _⟩
  settles := fun _ _ failed _ => by cases failed; rfl

theorem orderly_revert : Orderly host known silent tame 0 0 (revert host) :=
  (orderly_setOutput.bind fun _ => orderly_throwRevert 0 2).weaken (by omega) (by omega)

end Instruction

end CancunMachine
