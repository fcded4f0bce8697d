import Mathlib.Tactic
import CancunMachine.Proofs.Likeness.Instruction

/-!
# Children on machines that look alike

Calls and creations mirror themselves if the runs of their children do. The child of one run may
get a cached program and buffers that were used before while the child of the other gets new ones;
when it has ended, its own buffers may be kept in one run and lost in the other.
-/

namespace CancunMachine

open Ending

/-- Two children that cannot be told apart by running them. -/
structure Entry.Alike (entry other : Entry) : Prop where
  child : entry.child.Alike other.child
  transfer : entry.transfer = other.transfer

theorem Frame.alike_start {program other : Interned} {buffers otherBuffers : Stack × Memory}
    (invocation : Invocation) (programs : program.program = other.program)
    (same : SameBuffers buffers otherBuffers) :
    (Frame.start invocation program buffers.1 buffers.2).Alike
      (.start invocation other otherBuffers.1 otherBuffers.2) where
  invocation := rfl
  program := programs
  operands := same.operands
  memory := same.memory
  pc := rfl
  gas := rfl
  output := rfl
  returnData := rfl
  warmMark := rfl
  lastWrite := rfl
  queuedHalt := rfl

namespace Instruction

variable {host : Host} {tuning : Tuning} {enter otherEnter : Transfer → Run Outcome}

theorem mirrors_readOperands (gas argumentsOffset argumentsSize returnOffset returnSize : Word) :
    Mirrors Eq (CallOperands.read gas argumentsOffset argumentsSize returnOffset returnSize)
      (CallOperands.read gas argumentsOffset argumentsSize returnOffset returnSize) :=
  (mirrors_ofHalting _).step fun _ => (mirrors_ofHalting _).step fun _ => mirrors_same _

theorem mirrors_readCall : Mirrors Eq (readCall host) (readCall (host.tuned tuning)) := by
  refine (mirrors_peek 7).step fun words => (mirrors_readOperands _ _ _ _ _).step fun operands =>
    mirrors_invocation.step fun invocation => .branch ?_ (mirrors_same _)
  exact (mirrors_halt _).step fun _ => mirrors_same _

theorem mirrors_readCallcode :
    Mirrors Eq (readCallcode host) (readCallcode (host.tuned tuning)) :=
  (mirrors_peek 7).step fun _ => (mirrors_readOperands _ _ _ _ _).step fun _ =>
    mirrors_invocation.step fun _ => mirrors_same _

theorem mirrors_readDelegatecall : Mirrors Eq readDelegatecall readDelegatecall :=
  (mirrors_peek 6).step fun _ => (mirrors_readOperands _ _ _ _ _).step fun _ =>
    mirrors_invocation.step fun _ => mirrors_same _

theorem mirrors_readStaticcall :
    Mirrors Eq (readStaticcall host) (readStaticcall (host.tuned tuning)) :=
  (mirrors_peek 6).step fun _ => (mirrors_readOperands _ _ _ _ _).step fun _ =>
    mirrors_invocation.step fun _ => mirrors_same _

theorem mirrors_checkTarget (target : CallTarget) :
    Mirrors Eq (checkTarget host target) (checkTarget (host.tuned tuning) target) := by
  unfold checkTarget
  refine .guard (mirrors_halt _) ?_
  refine .branch ?_ (mirrors_same _)
  exact (mirrors_onWorld _).step fun _ => .branch (mirrors_halt _) (mirrors_same _)

theorem mirrors_callCreatesAccount (target : CallTarget) :
    Mirrors Eq (callCreatesAccount host target) (callCreatesAccount (host.tuned tuning) target) :=
  .branch (mirrors_onWorld _) (mirrors_same _)

theorem mirrors_requireCallGas (target : CallTarget) (baseCost : UInt64) :
    Mirrors Eq (requireCallGas host target baseCost)
      (requireCallGas (host.tuned tuning) target baseCost) :=
  (mirrors_ofHalting _).step fun _ => mirrors_gas.step fun _ =>
    .branch (mirrors_halt _) (mirrors_same _)

theorem mirrors_operandsReach (operands : CallOperands) :
    Mirrors Eq operands.reach operands.reach :=
  (mirrors_ofHalting _).step fun _ => (mirrors_ofHalting _).step fun _ => mirrors_same _

theorem mirrors_quoteCall (request : CallRequest) :
    Mirrors Eq (quoteCall host request) (quoteCall (host.tuned tuning) request) :=
  (mirrors_checkTarget _).step fun _ => (mirrors_callCreatesAccount _).step fun _ =>
    (mirrors_operandsReach _).step fun _ => mirrors_memorySize.step fun _ =>
    (mirrors_ofHalting _).step fun _ => (mirrors_requireCallGas _ _).step fun _ =>
    (mirrors_setReturnData _).step fun _ => mirrors_same _

theorem mirrors_callFailsEarly (target : CallTarget) :
    Mirrors Eq (callFailsEarly host target) (callFailsEarly (host.tuned tuning) target) := by
  have answer : ∀ poor : Bool, Mirrors Eq
      (do
        let depth ← Run.frame (·.invocation.depth)
        return poor || host.config.maxCallDepth ≤ depth)
      (do
        let depth ← Run.frame (·.invocation.depth)
        return poor || host.config.maxCallDepth ≤ depth) :=
    fun _ => mirrors_depth.step fun _ => mirrors_same _
  exact mirrors_recipient.step fun _ =>
    .branch ((mirrors_onWorld _).step fun _ => answer _) (answer false)

theorem mirrors_payCall (request : CallRequest) (needed : Nat) (baseCost : UInt64) :
    Mirrors Eq (payCall host request needed baseCost)
      (payCall (host.tuned tuning) request needed baseCost) :=
  (mirrors_isColdAddress _).step fun _ => (mirrors_chargeCost _).step fun _ =>
    (mirrors_modifyWarmth _).step fun _ => (mirrors_drop _).step fun _ => mirrors_grow _

theorem mirrors_chargeChildGas (target : CallTarget) (requested : Word) :
    Mirrors Eq (chargeChildGas host target requested)
      (chargeChildGas (host.tuned tuning) target requested) := by
  have same : (host.tuned tuning).schedule = host.schedule := rfl
  refine mirrors_gas.step fun available => (mirrors_charge _).step fun _ =>
    .branch ?_ (mirrors_same _)
  rw [same]
  cases addWithin? (Gas.forChild available requested.toLimbSaturating)
      host.schedule.callStipend with
  | some gas => exact mirrors_same gas
  | none => exact mirrors_throw _

theorem mirrors_calleeFrame (target : CallTarget) (operands : CallOperands) (gas : UInt64) :
    Mirrors Frame.Alike (calleeFrame host target operands gas)
      (calleeFrame (host.tuned tuning) target operands gas) :=
  (mirrors_load _ _).step fun _ => mirrors_depth.step fun _ => (mirrors_onWorld _).step fun _ =>
    (mirrors_makeProgram _).bind fun _ _ programs => (mirrors_takeBuffers _ _).bind
    fun _ _ same => mirrors_pure (Frame.alike_start _ programs same)

theorem mirrors_calleeEntry (request : CallRequest) (needed : Nat) (baseCost : UInt64) :
    Mirrors Entry.Alike (calleeEntry host request needed baseCost)
      (calleeEntry (host.tuned tuning) request needed baseCost) :=
  (mirrors_payCall _ _ _).step fun _ => (mirrors_chargeChildGas _ _).step fun _ =>
    mirrors_recipient.step fun _ => (mirrors_calleeFrame _ _ _).bind fun _ _ child =>
    mirrors_pure ⟨child, rfl⟩

theorem mirrors_prepareCall (request : CallRequest) :
    Mirrors (Option.Rel Entry.Alike) (prepareCall host request)
      (prepareCall (host.tuned tuning) request) := by
  refine (mirrors_quoteCall _).step fun quote => (mirrors_callFailsEarly _).step fun early =>
    .branch ?_ ?_
  · exact (mirrors_drop _).step fun _ => (mirrors_push _).step fun _ => mirrors_pure .none
  · exact (mirrors_calleeEntry _ _ _).bind fun _ _ alike => mirrors_pure (.some alike)

theorem mirrors_suspend {child other : Frame} (alike : child.Alike other) :
    Mirrors Eq (suspend child) (suspend other) :=
  fun _ _ machines => .ok rfl
    { machines with
      frame := alike
      suspended := .cons machines.frame machines.suspended }

/-- Whether the buffers of a child are kept cannot be seen afterwards. -/
theorem mirrors_resume : Mirrors Eq (resume host) (resume (host.tuned tuning)) := by
  intro machine other alike
  have keeps : ∀ {reuses : Bool} {machine : Machine}, machine.pool.Tidy →
      machine.frame.memory.Tidy →
      (if reuses then machine.pool.give machine.frame else machine.pool).Tidy := by
    intro reuses machine tidy memory
    split
    · exact tidy.give memory
    · exact tidy
  have waiting := alike.suspended
  cases suspended : machine.suspended with
  | nil =>
      rw [suspended] at waiting
      cases otherSuspended : other.suspended with
      | nil =>
          simp only [resume, bind, EStateM.bind, get_apply, suspended, otherSuspended]
          exact .error alike
      | cons parent rest =>
          rw [otherSuspended] at waiting
          cases waiting
  | cons parent rest =>
      rw [suspended] at waiting
      cases otherSuspended : other.suspended with
      | nil =>
          rw [otherSuspended] at waiting
          cases waiting
      | cons otherParent otherRest =>
          rw [otherSuspended] at waiting
          cases waiting with
          | cons parents rests =>
              simp only [resume, bind, EStateM.bind, get_apply, suspended, otherSuspended]
              exact .ok rfl
                { alike with
                  frame := parents
                  suspended := rests
                  tidy := keeps alike.tidy alike.frame.memory.tidy
                  otherTidy := keeps alike.otherTidy alike.frame.memory.otherTidy }

/-- A child is run alike if its frame is, whatever becomes of its buffers. -/
theorem mirrors_runChild {entry other : Entry} (alike : entry.Alike other)
    (enters : ∀ transfer, Mirrors Eq (enter transfer) (otherEnter transfer)) :
    Mirrors Eq (runChild host enter entry.child entry.transfer)
      (runChild (host.tuned tuning) otherEnter other.child other.transfer) := by
  rw [← alike.transfer]
  exact (mirrors_suspend alike.child).step fun _ => (enters _).attempt.step fun outcome =>
    mirrors_resume.step fun _ => mirrors_ofExcept outcome

theorem mirrors_clearQueue :
    Mirrors Eq (Run.modifyFrame fun frame => { frame with queuedHalt := none })
      (Run.modifyFrame fun frame => { frame with queuedHalt := none }) :=
  mirrors_modifyFrame fun alike => { alike with queuedHalt := rfl }

theorem mirrors_raiseChildHalt (outcome : Outcome) :
    Mirrors Eq (raiseChildHalt outcome) (raiseChildHalt outcome) := by
  refine (mirrors_frame fun alike => alike.queuedHalt).step fun queued =>
    mirrors_clearQueue.step fun _ => ?_
  cases outcome.haltReason? with
  | none => exact mirrors_same _
  | some reason =>
      cases queued with
      | some queued => exact mirrors_halt queued
      | none => exact .branch (mirrors_halt reason) (mirrors_same _)

theorem mirrors_returnGas (outcome : Outcome) :
    Mirrors Eq (returnGas outcome) (returnGas outcome) := by
  refine mirrors_gas.step fun gas => ?_
  cases addWithin? gas outcome.gasRemaining with
  | some gas => exact mirrors_modifyFrame fun alike => { alike with gas := rfl }
  | none => exact mirrors_throw _

theorem mirrors_finishCall (outcome : Outcome) (operands : CallOperands) :
    Mirrors Eq (finishCall outcome operands) (finishCall outcome operands) :=
  (mirrors_raiseChildHalt _).step fun _ => (mirrors_returnGas _).step fun _ =>
    (mirrors_setReturnData _).step fun _ =>
    (mirrors_onMemory fun alike => alike.storePadded _ _ _).step fun _ =>
    (mirrors_push _).step fun _ => mirrors_same _

theorem mirrors_performCall (request : CallRequest)
    (enters : ∀ transfer, Mirrors Eq (enter transfer) (otherEnter transfer)) :
    Mirrors Eq (performCall host enter request)
      (performCall (host.tuned tuning) otherEnter request) := by
  refine (mirrors_prepareCall _).bind fun prepared other same => ?_
  cases same with
  | none => exact mirrors_same _
  | some alike =>
      exact (mirrors_runChild alike enters).step fun outcome => mirrors_finishCall outcome _

theorem mirrors_finishCreation (outcome : Outcome) (address : Address) :
    Mirrors Eq (finishCreation outcome address) (finishCreation outcome address) := by
  refine (mirrors_raiseChildHalt _).step fun _ => (mirrors_returnGas _).step fun _ => .branch ?_ ?_
  · exact (mirrors_push _).step fun _ => mirrors_same _
  · exact (mirrors_setReturnData _).step fun _ => (mirrors_push _).step fun _ => mirrors_same _

theorem mirrors_payCreation (request : CreationRequest) :
    Mirrors Eq (payCreation host request) (payCreation (host.tuned tuning) request) := by
  refine mirrors_forbidStatic.step fun _ => (mirrors_ofHalting _).step fun range =>
    .guard (mirrors_halt _) ?_
  exact (mirrors_ofHalting _).step fun _ => mirrors_memorySize.step fun _ =>
    (mirrors_chargeCost _).step fun _ => (mirrors_drop _).step fun _ => (mirrors_grow _).step
    fun _ => (mirrors_setReturnData _).step fun _ => mirrors_same _

theorem mirrors_creationFailsEarly (deployer : Address) (value : Word) :
    Mirrors Eq (creationFailsEarly host deployer value)
      (creationFailsEarly (host.tuned tuning) deployer value) :=
  (mirrors_onWorld _).step fun _ => (mirrors_onWorld _).step fun _ => mirrors_depth.step fun _ =>
    mirrors_same _

theorem mirrors_initcodeFrame (kind : CallKind) (deployer address : Address) (value : Word)
    (gas : UInt64) (code : ByteArray) :
    Mirrors Frame.Alike (initcodeFrame host kind deployer address value gas code)
      (initcodeFrame (host.tuned tuning) kind deployer address value gas code) :=
  (mirrors_makeProgram _).bind fun _ _ programs => (mirrors_takeBuffers _ _).bind fun _ _ same =>
    mirrors_depth.step fun _ => mirrors_pure (Frame.alike_start _ programs same)

theorem mirrors_initcodeEntry (request : CreationRequest) (deployer : Address)
    (offset size : Nat) :
    Mirrors Entry.Alike (initcodeEntry host request deployer offset size)
      (initcodeEntry (host.tuned tuning) request deployer offset size) :=
  (mirrors_load _ _).step fun _ => (mirrors_onWorld _).step fun _ => (mirrors_modifyWarmth _).step
    fun _ => mirrors_gas.step fun _ => (mirrors_charge _).step fun _ =>
    (mirrors_initcodeFrame _ _ _ _ _ _).bind fun _ _ child => mirrors_pure ⟨child, rfl⟩

theorem mirrors_prepareCreation (request : CreationRequest) :
    Mirrors (Option.Rel Entry.Alike) (prepareCreation host request)
      (prepareCreation (host.tuned tuning) request) := by
  refine (mirrors_payCreation _).step fun range => mirrors_recipient.step fun deployer =>
    (mirrors_creationFailsEarly _ _).step fun early => .branch ?_ ?_
  · exact (mirrors_push _).step fun _ => mirrors_pure .none
  · exact (mirrors_initcodeEntry _ _ _ _).bind fun _ _ alike => mirrors_pure (.some alike)

theorem mirrors_performCreation (request : CreationRequest)
    (enters : ∀ transfer, Mirrors Eq (enter transfer) (otherEnter transfer)) :
    Mirrors Eq (performCreation host enter request)
      (performCreation (host.tuned tuning) otherEnter request) := by
  refine (mirrors_prepareCreation _).bind fun prepared other same => ?_
  cases same with
  | none => exact mirrors_same _
  | some alike =>
      refine (mirrors_runChild alike enters).step fun outcome => ?_
      rw [alike.child.invocation]
      exact mirrors_finishCreation outcome _

/-- Every instruction mirrors itself, whatever the tuning, if the runs of its children do. -/
theorem mirrors_execute (enters : ∀ transfer, Mirrors Eq (enter transfer) (otherEnter transfer))
    (opcode : Opcode) :
    Mirrors Eq (execute host enter opcode) (execute (host.tuned tuning) otherEnter opcode) := by
  cases opcode <;> simp only [execute]
  case stop => exact mirrors_same _
  case invalid => exact mirrors_halt _
  case returns => exact mirrors_returns
  case revert => exact mirrors_revert
  case selfdestruct => exact mirrors_selfdestruct
  case call => exact mirrors_readCall.step fun request => mirrors_performCall request enters
  case callcode =>
    exact mirrors_readCallcode.step fun request => mirrors_performCall request enters
  case delegatecall =>
    exact mirrors_readDelegatecall.step fun request => mirrors_performCall request enters
  case staticcall =>
    exact mirrors_readStaticcall.step fun request => mirrors_performCall request enters
  case create =>
    exact (mirrors_peekThree.step fun _ => mirrors_same _).step fun request =>
      mirrors_performCreation request enters
  case create2 =>
    exact (mirrors_peekFour.step fun _ => mirrors_same _).step fun request =>
      mirrors_performCreation request enters
  case add | mul | sub | div | sdiv | mod | smod | signextend | lt | gt | slt | sgt | eq | and | or
      | xor | byte | shl | shr | sar =>
    exact mirrors_binary _ _
  case addmod | mulmod => exact mirrors_ternary _ _
  case iszero | not => exact mirrors_unary _ _
  case address | caller | callvalue =>
    exact mirrors_pushFrame fun alike => by rw [alike.invocation]
  case calldatasize => exact mirrors_pushSize fun alike => by rw [alike.invocation]
  case codesize => exact mirrors_pushSize fun alike => by rw [alike.program]
  case returndatasize => exact mirrors_pushSize fun alike => by rw [alike.returnData]
  case msize => exact mirrors_pushSize fun alike => alike.memory.size
  case pc => exact mirrors_pc
  case gas => exact mirrors_gasInstruction
  case origin | gasprice | coinbase | timestamp | number | prevrandao | gaslimit | chainid
      | basefee | blobbasefee =>
    exact mirrors_pushFixed _ _
  case calldatacopy => exact mirrors_copyFrom fun alike => by rw [alike.invocation]
  case codecopy => exact mirrors_copyFrom fun alike => by rw [alike.program]
  case exp => exact mirrors_exp
  case keccak256 => exact mirrors_keccak256
  case balance => exact mirrors_balance
  case calldataload => exact mirrors_calldataload
  case extcodesize => exact mirrors_inspectCode _
  case extcodecopy => exact mirrors_extcodecopy
  case returndatacopy => exact mirrors_returndatacopy
  case extcodehash => exact mirrors_inspectCode _
  case blockhash => exact mirrors_blockhash
  case selfbalance => exact mirrors_selfbalance
  case blobhash => exact mirrors_blobhash
  case pop => exact mirrors_popInstruction
  case mload => exact mirrors_mload
  case mstore => exact mirrors_mstore
  case mstore8 => exact mirrors_mstore8
  case mcopy => exact mirrors_mcopy
  case sload => exact mirrors_sload
  case sstore => exact mirrors_sstore
  case tload => exact mirrors_tload
  case tstore => exact mirrors_tstore
  case jump => exact mirrors_jumpInstruction
  case jumpi => exact mirrors_jumpi
  case jumpdest => exact mirrors_jumpdest
  case dup index => exact mirrors_duplicate _
  case swap index => exact mirrors_exchange _
  case log topics => exact mirrors_log _
  case push width =>
    split
    · exact mirrors_pushFixed _ _
    · exact mirrors_pushImmediate _

end Instruction

end CancunMachine
