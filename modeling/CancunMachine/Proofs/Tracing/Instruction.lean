import Mathlib.Tactic
import CancunMachine.Proofs.Tracing.Quiet

/-!
# The quiet instructions

An instruction that starts no child and is neither a read nor a write of a slot reports nothing,
however it ends; a destruction that has been replaced leaves a note at most. Calls and creations
are quiet up to the entry of their child and again from its end on.
-/

namespace CancunMachine

open Ending

namespace Instruction

variable {host : Host}

theorem quiet_pushing (tier : Tier) {value : Run Word} (finds : Quiet value) :
    Quiet (pushing host tier value) :=
  (quiet_charge _).bind fun _ => finds.bind fun _ => (quiet_push _).bind fun _ => .pure _

theorem quiet_unary (tier : Tier) (operation : Word → Word) :
    Quiet (unary host tier operation) :=
  (quiet_charge _).bind fun _ => quiet_popOne.bind fun _ => (quiet_push _).bind fun _ => .pure _

theorem quiet_binary (tier : Tier) (operation : Word → Word → Word) :
    Quiet (binary host tier operation) :=
  (quiet_charge _).bind fun _ => quiet_popTwo.bind fun _ => (quiet_push _).bind fun _ => .pure _

theorem quiet_ternary (tier : Tier) (operation : Word → Word → Word → Word) :
    Quiet (ternary host tier operation) :=
  (quiet_charge _).bind fun _ => quiet_popThree.bind fun _ => (quiet_push _).bind fun _ =>
    .pure _

theorem quiet_exp : Quiet (exp host) :=
  quiet_peekTwo.bind fun _ => (quiet_chargeCost _).bind fun _ => (quiet_drop 2).bind fun _ =>
    (quiet_push _).bind fun _ => .pure _

theorem quiet_pushImmediate (width : Nat) : Quiet (pushImmediate host width) :=
  (quiet_charge _).bind fun _ => (Keeps.frame _).bind fun _ => (quiet_push _).bind fun _ =>
    (quiet_modifyFrame (·.advance width) fun _ => rfl).bind fun _ => .pure _

theorem quiet_duplicate (index : Nat) : Quiet (duplicate host index) :=
  (quiet_charge _).bind fun _ => (quiet_updateStack _).bind fun _ => .pure _

theorem quiet_exchange (index : Nat) : Quiet (exchange host index) :=
  (quiet_charge _).bind fun _ => (quiet_updateStack _).bind fun _ => .pure _

theorem quiet_popInstruction : Quiet (pop host) :=
  (quiet_charge _).bind fun _ => (quiet_drop 1).bind fun _ => .pure _

theorem quiet_balance : Quiet (balance host) := by
  refine quiet_peekOne.bind fun word => .branch ?_ ?_
  · exact (quiet_charge _).bind fun _ => (quiet_drop 1).bind fun _ =>
      (quiet_push _).bind fun _ => .pure _
  · exact (quiet_isColdAddress _).bind fun _ => (quiet_charge _).bind fun _ =>
      (quiet_modifyWarmth _).bind fun _ => (quiet_onWorld _).bind fun _ =>
      (quiet_drop 1).bind fun _ => (quiet_push _).bind fun _ => .pure _

theorem quiet_calldataload : Quiet (calldataload host) :=
  (quiet_charge _).bind fun _ => quiet_popOne.bind fun _ => (Keeps.frame _).bind fun _ =>
    (quiet_push _).bind fun _ => .pure _

theorem quiet_copyFrom (source : Frame → ByteArray) : Quiet (copyFrom host source) :=
  quiet_peekThree.bind fun _ => (quiet_ofHalting _).bind fun _ => (quiet_ofHalting _).bind fun _ =>
    (Keeps.frame _).bind fun _ => (quiet_chargeCost _).bind fun _ => (quiet_drop 3).bind fun _ =>
    (Keeps.frame _).bind fun _ => (quiet_onMemory _).bind fun _ => .pure _

theorem quiet_chargeCodeAccess (address : Address) (extra : UInt64) :
    Quiet (chargeCodeAccess host address extra) := by
  have access : Quiet (do
      let cold ← Run.isColdAddress address
      Run.chargeCost (Gas.plus (host.schedule.accountAccess cold) extra)
      Run.warmAddress address) :=
    (quiet_isColdAddress _).bind fun _ => (quiet_chargeCost _).bind fun _ => quiet_modifyWarmth _
  refine .branch ?_ access
  exact (quiet_ofHalting _).bind fun _ => (Keeps.frame _).bind fun _ =>
    .branch ((Keeps.halt _).bind fun _ => access) access

theorem quiet_inspectCode (view : Address → Access Word) : Quiet (inspectCode host view) := by
  refine quiet_peekOne.bind fun word => (quiet_chargeCodeAccess _ 0).bind fun _ =>
    (quiet_drop 1).bind fun _ => .branch ?_ ?_
  · exact (quiet_push _).bind fun _ => .pure _
  · exact (quiet_onWorld _).bind fun _ => (quiet_push _).bind fun _ => .pure _

theorem quiet_extcodecopy : Quiet (extcodecopy host) := by
  refine quiet_peekFour.bind fun words => (quiet_ofHalting _).bind fun range =>
    (quiet_ofHalting _).bind fun needed => (Keeps.frame _).bind fun current =>
    (quiet_ofHalting _).bind fun whole => (quiet_chargeCodeAccess _ _).bind fun _ =>
    (quiet_drop 4).bind fun _ => .branch (.pure _) ?_
  exact (quiet_onWorld _).bind fun _ => (quiet_onMemory _).bind fun _ => .pure _

theorem quiet_returndatacopy : Quiet (returndatacopy host) := by
  refine quiet_peekThree.bind fun words => (quiet_ofHalting _).bind fun range => ?_
  cases words.2.1.toPosition? with
  | none => exact .halt _
  | some offset =>
      refine (quiet_ofHalting _).bind fun needed => (Keeps.frame _).bind fun current =>
        (quiet_chargeCost _).bind fun _ => (quiet_drop 3).bind fun _ =>
        (Keeps.frame _).bind fun returnData => ?_
      cases Bytes.window? returnData offset range.1 with
      | none => exact .halt _
      | some bytes => exact (quiet_onMemory _).bind fun _ => .pure _

theorem quiet_blockhash : Quiet (blockhash host) := by
  refine (quiet_charge _).bind fun _ => quiet_popOne.bind fun number => .branch ?_ ?_
  · exact (quiet_push _).bind fun _ => .pure _
  · refine (quiet_onWorld _).bind fun hash? => ?_
    cases hash? <;> exact (quiet_push _).bind fun _ => .pure _

theorem quiet_blobhash : Quiet (blobhash host) :=
  (quiet_charge _).bind fun _ => quiet_popOne.bind fun _ => (quiet_push _).bind fun _ => .pure _

theorem quiet_keccak256 : Quiet (keccak256 host) :=
  quiet_peekTwo.bind fun _ => (quiet_ofHalting _).bind fun _ => (quiet_ofHalting _).bind fun _ =>
    (Keeps.frame _).bind fun _ => (quiet_chargeCost _).bind fun _ => (quiet_drop 2).bind fun _ =>
    (quiet_onMemory _).bind fun _ => (quiet_push _).bind fun _ => .pure _

theorem quiet_chargeMemoryAccess (offset : Word) (size : Nat) :
    Quiet (chargeMemoryAccess host offset size) :=
  (quiet_ofHalting _).bind fun _ => (quiet_ofHalting _).bind fun _ => (Keeps.frame _).bind fun _ =>
    (quiet_chargeCost _).bind fun _ => .pure _

theorem quiet_mload : Quiet (mload host) :=
  quiet_peekOne.bind fun _ => (quiet_chargeMemoryAccess _ 32).bind fun _ =>
    (quiet_drop 1).bind fun _ => (quiet_onMemory _).bind fun _ => (quiet_push _).bind fun _ =>
    .pure _

theorem quiet_mstore : Quiet (mstore host) :=
  quiet_peekTwo.bind fun _ => (quiet_chargeMemoryAccess _ 32).bind fun _ =>
    (quiet_drop 2).bind fun _ => (quiet_onMemory _).bind fun _ => .pure _

theorem quiet_mstore8 : Quiet (mstore8 host) :=
  quiet_peekTwo.bind fun _ => (quiet_chargeMemoryAccess _ 1).bind fun _ =>
    (quiet_drop 2).bind fun _ => (quiet_onMemory _).bind fun _ => .pure _

theorem quiet_mcopy : Quiet (mcopy host) := by
  have copies : ∀ source target size : Nat, Quiet (do
      let neededSource ← Run.reach source size
      let neededTarget ← Run.reach target size
      Run.chargeCost
        (host.schedule.copy (max neededSource neededTarget) (← Run.memorySize) size)
      Run.drop 3
      Run.onMemory (Memory.copyWithin source target size)
      return Signal.proceed) := by
    intro source target size
    exact (quiet_ofHalting _).bind fun _ => (quiet_ofHalting _).bind fun _ =>
      (Keeps.frame _).bind fun _ => (quiet_chargeCost _).bind fun _ => (quiet_drop 3).bind fun _ =>
      (quiet_onMemory _).bind fun _ => .pure _
  refine quiet_peekThree.bind fun words => (quiet_ofHalting _).bind fun range => .branch ?_ ?_
  · exact copies _ _ _
  · exact (quiet_ofHalting _).bind fun source => copies _ _ _

theorem quiet_tload : Quiet (tload host) :=
  (quiet_charge _).bind fun _ => quiet_popOne.bind fun _ => (Keeps.frame _).bind fun _ =>
    quiet_get.bind fun _ => (quiet_push _).bind fun _ => .pure _

theorem quiet_tstore : Quiet (tstore host) :=
  quiet_forbidStatic.bind fun _ => (quiet_charge _).bind fun _ => quiet_popTwo.bind fun _ =>
    (Keeps.frame _).bind fun _ => (quiet_modifySubstate _).bind fun _ => .pure _

theorem quiet_log (topicCount : Nat) : Quiet (log host topicCount) :=
  quiet_forbidStatic.bind fun _ => (quiet_peek _).bind fun _ => quiet_peekTwo.bind fun _ =>
    (quiet_ofHalting _).bind fun _ => (quiet_ofHalting _).bind fun _ => (Keeps.frame _).bind fun _ =>
    (quiet_chargeCost _).bind fun _ => (quiet_drop 2).bind fun _ => (quiet_pop _).bind fun _ =>
    (Keeps.frame _).bind fun _ => (quiet_onMemory _).bind fun _ =>
    (quiet_modifySubstate _).bind fun _ => .pure _

theorem quiet_jumpInstruction : Quiet (jump host) :=
  (quiet_charge _).bind fun _ => quiet_popOne.bind fun _ => (quiet_jump _).bind fun _ => .pure _

theorem quiet_jumpi : Quiet (jumpi host) := by
  refine (quiet_charge _).bind fun _ => quiet_popTwo.bind fun words => .branch ?_ ?_
  · exact (quiet_jump _).bind fun _ => .pure _
  · exact .pure _

theorem quiet_jumpdest : Quiet (jumpdest host) := (quiet_charge _).bind fun _ => .pure _

theorem quiet_setOutput : Quiet (setOutput host) :=
  quiet_peekTwo.bind fun _ => (quiet_ofHalting _).bind fun _ => (quiet_ofHalting _).bind fun _ =>
    (Keeps.frame _).bind fun _ => (quiet_chargeCost _).bind fun _ => (quiet_drop 2).bind fun _ =>
    (quiet_onMemory _).bind fun _ => quiet_modifyFrame _ fun _ => rfl

theorem quiet_returns : Quiet (returns host) := quiet_setOutput.bind fun _ => .pure _

theorem quiet_revert : Quiet (revert host) := quiet_setOutput.bind fun _ => .throw _

theorem quiet_chargeDestruction (beneficiary : Address) (balance : Word) :
    Quiet (chargeDestruction host beneficiary balance) := by
  have pays : ∀ cold createsAccount : Bool, Quiet (do
      Run.charge (host.schedule.selfdestructCost cold createsAccount)
      Run.warmAddress beneficiary
      Run.drop 1) :=
    fun _ _ => (quiet_charge _).bind fun _ => (quiet_modifyWarmth _).bind fun _ => quiet_drop 1
  refine (quiet_isColdAddress _).bind fun cold => .branch (pays cold false) ?_
  exact (quiet_onWorld _).bind fun createsAccount => pays cold _

theorem quiet_bequeath (address beneficiary : Address) (balance : Word) :
    Quiet (bequeath host address beneficiary balance) := by
  refine (quiet_onWorld _).bind fun _ => quiet_get.bind fun machine => .branch ?_ (.pure _)
  exact (quiet_onWorld _).bind fun _ => quiet_modifySubstate _

/-- A replaced destruction leaves a note, which is not for the tracer. -/
theorem quiet_overriddenDestruction (override : DestructionOverride) (beneficiary : Address) :
    Quiet (overriddenDestruction override beneficiary) :=
  (quiet_drop 1).bind fun _ => quiet_get.bind fun _ => (quiet_record rfl).bind fun _ =>
    (quiet_charge _).bind fun _ => quiet_ofExcept _

theorem quiet_selfdestruct : Quiet (selfdestruct host) := by
  refine quiet_forbidStatic.bind fun _ => quiet_peekOne.bind fun word => ?_
  cases host.overrides.destruction with
  | some override => exact quiet_overriddenDestruction override _
  | none =>
      exact (Keeps.frame _).bind fun _ => (quiet_onWorld _).bind fun _ =>
        (quiet_chargeDestruction _ _).bind fun _ => (quiet_bequeath _ _ _).bind fun _ => .pure _

end Instruction

/-- Whether an instruction reads or writes a slot of the world. -/
def Opcode.accessesSlot : Opcode → Bool
  | .sload | .sstore => true
  | _ => false

namespace Instruction

variable {host : Host} {enter : Transfer → Run Outcome}

/-- Every instruction that neither starts a child nor accesses a slot is quiet. -/
theorem quiet_execute {opcode : Opcode} (alone : opcode.startsChild = false)
    (other : opcode.accessesSlot = false) : Quiet (execute host enter opcode) := by
  cases opcode <;> simp only [execute]
  case create | call | callcode | delegatecall | create2 | staticcall => cases alone
  case sload | sstore => cases other
  case stop => exact .pure _
  case invalid => exact .halt _
  case returns => exact quiet_returns
  case revert => exact quiet_revert
  case selfdestruct => exact quiet_selfdestruct
  case add | mul | sub | div | sdiv | mod | smod | signextend | lt | gt | slt | sgt | eq | and | or
      | xor | byte | shl | shr | sar =>
    exact quiet_binary _ _
  case addmod | mulmod => exact quiet_ternary _ _
  case iszero | not => exact quiet_unary _ _
  case address | caller | callvalue | calldatasize | codesize | returndatasize | msize | pc | gas =>
    exact quiet_pushing _ (.frame _)
  case origin | gasprice | coinbase | timestamp | number | prevrandao | gaslimit | chainid
      | basefee | blobbasefee =>
    exact quiet_pushing _ (.pure _)
  case selfbalance =>
    exact quiet_pushing _ ((Keeps.frame _).bind fun _ => quiet_onWorld _)
  case calldatacopy | codecopy => exact quiet_copyFrom _
  case exp => exact quiet_exp
  case keccak256 => exact quiet_keccak256
  case balance => exact quiet_balance
  case calldataload => exact quiet_calldataload
  case extcodesize | extcodehash => exact quiet_inspectCode _
  case extcodecopy => exact quiet_extcodecopy
  case returndatacopy => exact quiet_returndatacopy
  case blockhash => exact quiet_blockhash
  case blobhash => exact quiet_blobhash
  case pop => exact quiet_popInstruction
  case mload => exact quiet_mload
  case mstore => exact quiet_mstore
  case mstore8 => exact quiet_mstore8
  case mcopy => exact quiet_mcopy
  case tload => exact quiet_tload
  case tstore => exact quiet_tstore
  case log => exact quiet_log _
  case jump => exact quiet_jumpInstruction
  case jumpi => exact quiet_jumpi
  case jumpdest => exact quiet_jumpdest
  case dup => exact quiet_duplicate _
  case swap => exact quiet_exchange _
  case push =>
    split
    · exact quiet_pushing _ (.pure _)
    · exact quiet_pushImmediate _

end Instruction

end CancunMachine
