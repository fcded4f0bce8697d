import Mathlib.Tactic
import CancunMachine.Instruction.Dispatch
import CancunMachine.Proofs.Likeness.Machine

/-!
# Instructions on machines that look alike

Every instruction that starts no child mirrors itself, whatever the tuning of the host. Only the
two storage instructions depend on the tuning at all, and they do so in what they report.
-/

namespace CancunMachine

open Ending

namespace Instruction

variable {host : Host} {tuning : Tuning}

theorem mirrors_pushing (tier : Tier) {value same : Run Word} (finds : Mirrors Eq value same) :
    Mirrors Eq (pushing host tier value) (pushing (host.tuned tuning) tier same) :=
  (mirrors_charge _).step fun _ => finds.step fun _ => (mirrors_push _).step fun _ =>
    mirrors_same _

theorem mirrors_pushFixed (tier : Tier) (value : Word) :
    Mirrors Eq (pushing host tier (pure value)) (pushing (host.tuned tuning) tier (pure value)) :=
  mirrors_pushing tier (mirrors_same value)

theorem mirrors_pushFrame {value : Frame → Word}
    (agree : ∀ {frame other : Frame}, frame.Alike other → value frame = value other) :
    Mirrors Eq (pushFrame host value) (pushFrame (host.tuned tuning) value) :=
  mirrors_pushing _ (mirrors_frame agree)

theorem mirrors_pushSize {size : Frame → Nat}
    (agree : ∀ {frame other : Frame}, frame.Alike other → size frame = size other) :
    Mirrors Eq (pushSize host size) (pushSize (host.tuned tuning) size) :=
  mirrors_pushFrame fun alike => congrArg (fun size => Word.ofLimb (.ofNat size)) (agree alike)

theorem mirrors_unary (tier : Tier) (operation : Word → Word) :
    Mirrors Eq (unary host tier operation) (unary (host.tuned tuning) tier operation) :=
  (mirrors_charge _).step fun _ => mirrors_popOne.step fun _ => (mirrors_push _).step fun _ =>
    mirrors_same _

theorem mirrors_binary (tier : Tier) (operation : Word → Word → Word) :
    Mirrors Eq (binary host tier operation) (binary (host.tuned tuning) tier operation) :=
  (mirrors_charge _).step fun _ => mirrors_popTwo.step fun _ => (mirrors_push _).step fun _ =>
    mirrors_same _

theorem mirrors_ternary (tier : Tier) (operation : Word → Word → Word → Word) :
    Mirrors Eq (ternary host tier operation) (ternary (host.tuned tuning) tier operation) :=
  (mirrors_charge _).step fun _ => mirrors_popThree.step fun _ => (mirrors_push _).step fun _ =>
    mirrors_same _

theorem mirrors_exp : Mirrors Eq (exp host) (exp (host.tuned tuning)) :=
  mirrors_peekTwo.step fun _ => (mirrors_chargeCost _).step fun _ => (mirrors_drop 2).step fun _ =>
    (mirrors_push _).step fun _ => mirrors_same _

theorem mirrors_pushImmediate (width : Nat) :
    Mirrors Eq (pushImmediate host width) (pushImmediate (host.tuned tuning) width) := by
  refine (mirrors_charge _).step fun _ => (mirrors_frame fun alike => ?_).step fun _ =>
    (mirrors_push _).step fun _ => (mirrors_advance width).step fun _ => mirrors_same _
  rw [alike.program, alike.pc]

theorem mirrors_duplicate (index : Nat) :
    Mirrors Eq (duplicate host index) (duplicate (host.tuned tuning) index) :=
  (mirrors_charge _).step fun _ => (mirrors_updateStack (Stack.visible_dup index)).step fun _ =>
    mirrors_same _

theorem mirrors_exchange (index : Nat) :
    Mirrors Eq (exchange host index) (exchange (host.tuned tuning) index) :=
  (mirrors_charge _).step fun _ => (mirrors_updateStack (Stack.visible_swap index)).step fun _ =>
    mirrors_same _

theorem mirrors_popInstruction : Mirrors Eq (pop host) (pop (host.tuned tuning)) :=
  (mirrors_charge _).step fun _ => (mirrors_drop 1).step fun _ => mirrors_same _

theorem mirrors_balance : Mirrors Eq (balance host) (balance (host.tuned tuning)) := by
  refine mirrors_peekOne.step fun word => .branch ?_ ?_
  · exact (mirrors_charge _).step fun _ => (mirrors_drop 1).step fun _ =>
      (mirrors_push _).step fun _ => mirrors_same _
  · exact (mirrors_isColdAddress _).step fun _ => (mirrors_charge _).step fun _ =>
      (mirrors_modifyWarmth _).step fun _ => (mirrors_onWorld _).step fun _ =>
      (mirrors_drop 1).step fun _ => (mirrors_push _).step fun _ => mirrors_same _

theorem mirrors_calldataload :
    Mirrors Eq (calldataload host) (calldataload (host.tuned tuning)) :=
  (mirrors_charge _).step fun _ => mirrors_popOne.step fun _ =>
    (mirrors_frame fun alike => congrArg Invocation.calldata alike.invocation).step fun _ =>
    (mirrors_push _).step fun _ => mirrors_same _

theorem mirrors_memoryCopy (target : Nat) (bytes : ByteArray) (offset size : Nat) :
    Mirrors Eq (Run.onMemory (Memory.copyFrom target bytes offset size))
      (Run.onMemory (Memory.copyFrom target bytes offset size)) :=
  mirrors_onMemory fun alike => alike.storePadded target _ size

theorem mirrors_copyFrom {source : Frame → ByteArray}
    (agree : ∀ {frame other : Frame}, frame.Alike other → source frame = source other) :
    Mirrors Eq (copyFrom host source) (copyFrom (host.tuned tuning) source) :=
  mirrors_peekThree.step fun _ => (mirrors_ofHalting _).step fun _ =>
    (mirrors_ofHalting _).step fun _ => mirrors_memorySize.step fun _ =>
    (mirrors_chargeCost _).step fun _ => (mirrors_drop 3).step fun _ =>
    (mirrors_frame agree).step fun _ => (mirrors_memoryCopy _ _ _ _).step fun _ => mirrors_same _

theorem mirrors_chargeCodeAccess (address : Address) (extra : UInt64) :
    Mirrors Eq (chargeCodeAccess host address extra)
      (chargeCodeAccess (host.tuned tuning) address extra) := by
  have pays : Mirrors Eq
      (do
        let cold ← Run.isColdAddress address
        Run.chargeCost (Gas.plus (host.schedule.accountAccess cold) extra)
        Run.warmAddress address)
      (do
        let cold ← Run.isColdAddress address
        Run.chargeCost (Gas.plus (host.schedule.accountAccess cold) extra)
        Run.warmAddress address) :=
    (mirrors_isColdAddress _).step fun _ => (mirrors_chargeCost _).step fun _ =>
      mirrors_modifyWarmth _
  refine .branch ?_ pays
  exact (mirrors_ofHalting _).step fun _ => mirrors_gas.step fun _ => .guard (mirrors_halt _) pays

theorem mirrors_inspectCode (view : Address → Access Word) :
    Mirrors Eq (inspectCode host view) (inspectCode (host.tuned tuning) view) := by
  refine mirrors_peekOne.step fun word => (mirrors_chargeCodeAccess _ _).step fun _ =>
    (mirrors_drop 1).step fun _ => .branch ?_ ?_
  · exact (mirrors_push _).step fun _ => mirrors_same _
  · exact (mirrors_onWorld _).step fun _ => (mirrors_push _).step fun _ => mirrors_same _

theorem mirrors_extcodecopy : Mirrors Eq (extcodecopy host) (extcodecopy (host.tuned tuning)) := by
  refine mirrors_peekFour.step fun words => (mirrors_ofHalting _).step fun _ =>
    (mirrors_ofHalting _).step fun _ => mirrors_memorySize.step fun _ =>
    (mirrors_ofHalting _).step fun _ => (mirrors_chargeCodeAccess _ _).step fun _ =>
    (mirrors_drop 4).step fun _ => .branch (mirrors_same _) ?_
  exact (mirrors_onWorld _).step fun _ => (mirrors_memoryCopy _ _ _ _).step fun _ => mirrors_same _

theorem mirrors_returndatacopy :
    Mirrors Eq (returndatacopy host) (returndatacopy (host.tuned tuning)) := by
  refine mirrors_peekThree.step fun words => (mirrors_ofHalting _).step fun range => ?_
  obtain ⟨target, offset, size⟩ := words
  dsimp only
  cases offset.toPosition? with
  | none => exact mirrors_halt _
  | some offset =>
      refine (mirrors_ofHalting _).step fun _ => mirrors_memorySize.step fun _ =>
        (mirrors_chargeCost _).step fun _ => (mirrors_drop 3).step fun _ =>
        (mirrors_frame fun alike => alike.returnData).step fun returnData => ?_
      cases Bytes.window? returnData offset range.1 with
      | none => exact mirrors_halt _
      | some bytes =>
          exact (mirrors_onMemory fun alike => alike.store _ bytes).step fun _ =>
            mirrors_same _

theorem mirrors_blockhash : Mirrors Eq (blockhash host) (blockhash (host.tuned tuning)) := by
  refine (mirrors_charge _).step fun _ => mirrors_popOne.step fun number => .branch ?_ ?_
  · exact (mirrors_push _).step fun _ => mirrors_same _
  · refine (mirrors_onWorld _).step fun found => ?_
    cases found <;> exact (mirrors_push _).step fun _ => mirrors_same _

theorem mirrors_selfbalance : Mirrors Eq (selfbalance host) (selfbalance (host.tuned tuning)) :=
  mirrors_pushing _ (mirrors_recipient.step fun _ => mirrors_onWorld _)

theorem mirrors_blobhash : Mirrors Eq (blobhash host) (blobhash (host.tuned tuning)) :=
  (mirrors_charge _).step fun _ => mirrors_popOne.step fun _ => (mirrors_push _).step fun _ =>
    mirrors_same _

theorem mirrors_keccak256 : Mirrors Eq (keccak256 host) (keccak256 (host.tuned tuning)) :=
  mirrors_peekTwo.step fun _ => (mirrors_ofHalting _).step fun _ =>
    (mirrors_ofHalting _).step fun _ => mirrors_memorySize.step fun _ =>
    (mirrors_chargeCost _).step fun _ => (mirrors_drop 2).step fun _ =>
    (mirrors_load _ _).step fun _ => (mirrors_push _).step fun _ => mirrors_same _

theorem mirrors_chargeMemoryAccess (offset : Word) (size : Nat) :
    Mirrors Eq (chargeMemoryAccess host offset size)
      (chargeMemoryAccess (host.tuned tuning) offset size) :=
  (mirrors_ofHalting _).step fun _ => (mirrors_ofHalting _).step fun _ =>
    mirrors_memorySize.step fun _ => (mirrors_chargeCost _).step fun _ => mirrors_same _

theorem mirrors_mload : Mirrors Eq (mload host) (mload (host.tuned tuning)) :=
  mirrors_peekOne.step fun _ => (mirrors_chargeMemoryAccess _ _).step fun position =>
    (mirrors_drop 1).step fun _ => (mirrors_onMemory fun alike => alike.loadWord position).step
    fun _ => (mirrors_push _).step fun _ => mirrors_same _

theorem mirrors_mstore : Mirrors Eq (mstore host) (mstore (host.tuned tuning)) :=
  mirrors_peekTwo.step fun _ => (mirrors_chargeMemoryAccess _ _).step fun position =>
    (mirrors_drop 2).step fun _ => (mirrors_onMemory fun alike => alike.store position _).step
    fun _ => mirrors_same _

theorem mirrors_mstore8 : Mirrors Eq (mstore8 host) (mstore8 (host.tuned tuning)) :=
  mirrors_peekTwo.step fun _ => (mirrors_chargeMemoryAccess _ _).step fun position =>
    (mirrors_drop 2).step fun _ => (mirrors_onMemory fun alike => alike.store position _).step
    fun _ => mirrors_same _

theorem mirrors_mcopy : Mirrors Eq (mcopy host) (mcopy (host.tuned tuning)) := by
  refine mirrors_peekThree.step fun words => (mirrors_ofHalting _).step fun range => ?_
  have copies : ∀ source : Nat, Mirrors Eq
      (do
        let neededSource ← Run.reach source range.1
        let neededTarget ← Run.reach range.2 range.1
        Run.chargeCost
          (host.schedule.copy (max neededSource neededTarget) (← Run.memorySize) range.1)
        Run.drop 3
        Run.onMemory (Memory.copyWithin source range.2 range.1)
        return Signal.proceed)
      (do
        let neededSource ← Run.reach source range.1
        let neededTarget ← Run.reach range.2 range.1
        Run.chargeCost
          (host.schedule.copy (max neededSource neededTarget) (← Run.memorySize) range.1)
        Run.drop 3
        Run.onMemory (Memory.copyWithin source range.2 range.1)
        return Signal.proceed) :=
    fun source => (mirrors_ofHalting _).step fun _ => (mirrors_ofHalting _).step fun _ =>
      mirrors_memorySize.step fun _ => (mirrors_chargeCost _).step fun _ =>
      (mirrors_drop 3).step fun _ =>
      (mirrors_onMemory fun alike => alike.copyWithin source range.2 range.1).step fun _ =>
      mirrors_same _
  exact .branch (copies 0) ((mirrors_ofHalting _).step copies)

/-- An access is reported if both the frame and the host say so. -/
theorem reports_access (host : Host) {event : Event} (traced : event.isTraced = true) :
    Reports Signal.proceed (do
      if ← Run.frame (·.isTracked) then Run.trace host event
      return .proceed) := by
  refine .ask fun tracked => ?_
  split
  · exact (reports_trace host traced).seq (reports_pure _)
  · exact reports_pure _

theorem mirrors_sload : Mirrors Eq (sload host) (sload (host.tuned tuning)) :=
  mirrors_peekOne.step fun _ => mirrors_recipient.step fun _ => (mirrors_isColdSlot _ _).step
    fun _ => (mirrors_charge _).step fun _ => (mirrors_modifyWarmth _).step fun _ =>
    (mirrors_drop 1).step fun _ => (mirrors_onWorld _).step fun _ => (mirrors_push _).step fun _ =>
    (reports_access _ rfl).mirrors (reports_access _ rfl)

theorem mirrors_setLastWrite (key value : Word) :
    Mirrors Eq (Run.modifyFrame fun frame => { frame with lastWrite := some (key, value) })
      (Run.modifyFrame fun frame => { frame with lastWrite := some (key, value) }) :=
  mirrors_modifyFrame fun alike => { alike with lastWrite := rfl }

theorem mirrors_sstore : Mirrors Eq (sstore host) (sstore (host.tuned tuning)) := by
  refine mirrors_forbidStatic.step fun _ => mirrors_gas.step fun _ => .guard (mirrors_halt _) ?_
  exact mirrors_peekTwo.step fun _ => mirrors_recipient.step fun _ => (mirrors_onWorld _).step
    fun _ => (mirrors_onWorld _).step fun _ => (mirrors_isColdSlot _ _).step fun _ =>
    (mirrors_chargeCost _).step fun _ => (mirrors_modifyWarmth _).step fun _ =>
    (mirrors_drop 2).step fun _ => (mirrors_modifySubstate _).step fun _ =>
    (mirrors_onWorld _).step fun _ => (mirrors_setLastWrite _ _).step fun _ =>
    (reports_access _ rfl).mirrors (reports_access _ rfl)

theorem mirrors_tload : Mirrors Eq (tload host) (tload (host.tuned tuning)) := by
  refine (mirrors_charge _).step fun _ => mirrors_popOne.step fun key => mirrors_recipient.step
    fun address => mirrors_get.bind fun machine other alike => ?_
  rw [alike.substate]
  exact (mirrors_push _).step fun _ => mirrors_same _

theorem mirrors_tstore : Mirrors Eq (tstore host) (tstore (host.tuned tuning)) :=
  mirrors_forbidStatic.step fun _ => (mirrors_charge _).step fun _ => mirrors_popTwo.step fun _ =>
    mirrors_recipient.step fun _ => (mirrors_modifySubstate _).step fun _ => mirrors_same _

theorem mirrors_log (topics : Nat) :
    Mirrors Eq (log host topics) (log (host.tuned tuning) topics) :=
  mirrors_forbidStatic.step fun _ => (mirrors_peek _).step fun _ => mirrors_peekTwo.step fun _ =>
    (mirrors_ofHalting _).step fun _ => (mirrors_ofHalting _).step fun _ =>
    mirrors_memorySize.step fun _ => (mirrors_chargeCost _).step fun _ =>
    (mirrors_drop 2).step fun _ => (mirrors_pop _).step fun _ => mirrors_recipient.step fun _ =>
    (mirrors_load _ _).step fun _ => (mirrors_modifySubstate _).step fun _ => mirrors_same _

theorem mirrors_jumpInstruction : Mirrors Eq (jump host) (jump (host.tuned tuning)) :=
  (mirrors_charge _).step fun _ => mirrors_popOne.step fun _ => (mirrors_jump _).step fun _ =>
    mirrors_same _

theorem mirrors_jumpi : Mirrors Eq (jumpi host) (jumpi (host.tuned tuning)) := by
  refine (mirrors_charge _).step fun _ => mirrors_popTwo.step fun words => .branch ?_ ?_
  · exact (mirrors_jump _).step fun _ => mirrors_same _
  · exact mirrors_same _

theorem mirrors_jumpdest : Mirrors Eq (jumpdest host) (jumpdest (host.tuned tuning)) :=
  (mirrors_charge _).step fun _ => mirrors_same _

theorem mirrors_pc : Mirrors Eq (pc host) (pc (host.tuned tuning)) :=
  mirrors_pushFrame fun alike => congrArg (fun pc => Word.ofLimb (.ofNat (pc - 1))) alike.pc

theorem mirrors_gasInstruction : Mirrors Eq (gas host) (gas (host.tuned tuning)) :=
  mirrors_pushFrame fun alike => congrArg Word.ofLimb alike.gas

theorem mirrors_output : Mirrors Eq (setOutput host) (setOutput (host.tuned tuning)) :=
  mirrors_peekTwo.step fun _ => (mirrors_ofHalting _).step fun _ =>
    (mirrors_ofHalting _).step fun _ => mirrors_memorySize.step fun _ =>
    (mirrors_chargeCost _).step fun _ => (mirrors_drop 2).step fun _ =>
    (mirrors_load _ _).step fun output => mirrors_setOutput output

theorem mirrors_returns : Mirrors Eq (returns host) (returns (host.tuned tuning)) :=
  mirrors_output.step fun _ => mirrors_same _

theorem mirrors_revert : Mirrors Eq (revert host) (revert (host.tuned tuning)) :=
  mirrors_output.step fun _ => mirrors_throw _

theorem mirrors_overriddenDestruction (override : DestructionOverride) (beneficiary : Address) :
    Mirrors Eq (overriddenDestruction override beneficiary)
      (overriddenDestruction override beneficiary) := by
  refine (mirrors_drop 1).step fun _ => mirrors_get.bind fun machine other alike => ?_
  dsimp only
  rw [alike.world, alike.frame.invocation]
  exact (mirrors_record _).step fun _ => (mirrors_charge _).step fun _ => mirrors_ofExcept _

theorem mirrors_chargeDestruction (beneficiary : Address) (balance : Word) :
    Mirrors Eq (chargeDestruction host beneficiary balance)
      (chargeDestruction (host.tuned tuning) beneficiary balance) := by
  have pays : ∀ cold createsAccount : Bool, Mirrors Eq
      (do
        Run.charge (host.schedule.selfdestructCost cold createsAccount)
        Run.warmAddress beneficiary
        Run.drop 1)
      (do
        Run.charge (host.schedule.selfdestructCost cold createsAccount)
        Run.warmAddress beneficiary
        Run.drop 1) :=
    fun _ _ => (mirrors_charge _).step fun _ => (mirrors_modifyWarmth _).step fun _ =>
      mirrors_drop 1
  exact (mirrors_isColdAddress _).step fun cold =>
    .branch (pays cold false) ((mirrors_onWorld _).step fun _ => pays cold _)

theorem mirrors_bequeath (address beneficiary : Address) (balance : Word) :
    Mirrors Eq (bequeath host address beneficiary balance)
      (bequeath (host.tuned tuning) address beneficiary balance) := by
  refine (mirrors_onWorld _).step fun _ => mirrors_get.bind fun machine other alike => ?_
  rw [alike.substate]
  exact .branch ((mirrors_onWorld _).step fun _ => mirrors_modifySubstate _) (mirrors_same _)

theorem mirrors_selfdestruct :
    Mirrors Eq (selfdestruct host) (selfdestruct (host.tuned tuning)) := by
  have destroys : ∀ beneficiary : Address, Mirrors Eq
      (do
        let address ← Run.frame (·.invocation.recipient)
        let balance ← Run.onWorld (Access.readBalance host.refusals address)
        chargeDestruction host beneficiary balance
        bequeath host address beneficiary balance
        return Signal.stop)
      (do
        let address ← Run.frame (·.invocation.recipient)
        let balance ← Run.onWorld (Access.readBalance host.refusals address)
        chargeDestruction (host.tuned tuning) beneficiary balance
        bequeath (host.tuned tuning) address beneficiary balance
        return Signal.stop) :=
    fun _ => mirrors_recipient.step fun _ => (mirrors_onWorld _).step fun _ =>
      (mirrors_chargeDestruction _ _).step fun _ => (mirrors_bequeath _ _ _).step fun _ =>
      mirrors_same _
  have same : (host.tuned tuning).overrides = host.overrides := rfl
  refine mirrors_forbidStatic.step fun _ => mirrors_peekOne.step fun word => ?_
  rw [same]
  cases host.overrides.destruction with
  | none => exact destroys _
  | some override => exact mirrors_overriddenDestruction override _

end Instruction

end CancunMachine
