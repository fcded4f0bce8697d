import Mathlib.Tactic
import CancunMachine.Proofs.Evolution.Dispatch
import CancunMachine.Proofs.Order.Prudence

/-!
# The order of the instructions

Every instruction that starts no child looks before it pays, pays once and works afterwards. Only
immediate pushes and jumps move within their program, and only storage writes and logs change world
or substate. What calls and creations do before they enter a child is in the same order, although
they pay twice: the gas of the child is a part of what is left.
-/

namespace CancunMachine

open Ending

namespace Instruction

variable {host : Host} {steady silent : Prop} {phase : Phase}

theorem prudent_pushing (tier : Tier) {value : Run Word}
    (finds : Prudent steady silent .works value) :
    Prudent steady silent .pays (pushing host tier value) :=
  (prudent_charge _).pay fun _ => finds.work fun _ => (prudent_push _).work fun _ => prudent_pure _

theorem prudent_unary (tier : Tier) (operation : Word → Word) :
    Prudent steady silent .pays (unary host tier operation) :=
  (prudent_charge _).pay fun _ => prudent_popOne.work fun _ => (prudent_push _).work fun _ =>
    prudent_pure _

theorem prudent_binary (tier : Tier) (operation : Word → Word → Word) :
    Prudent steady silent .pays (binary host tier operation) :=
  (prudent_charge _).pay fun _ => prudent_popTwo.work fun _ => (prudent_push _).work fun _ =>
    prudent_pure _

theorem prudent_ternary (tier : Tier) (operation : Word → Word → Word → Word) :
    Prudent steady silent .pays (ternary host tier operation) :=
  (prudent_charge _).pay fun _ => prudent_popThree.work fun _ => (prudent_push _).work fun _ =>
    prudent_pure _

theorem prudent_exp : Prudent steady silent .pays (exp host) :=
  .ask prudent_peekTwo fun _ => (prudent_chargeCost _).pay fun _ => (prudent_drop 2).work fun _ =>
    (prudent_push _).work fun _ => prudent_pure _

/-- Stepping over the immediate bytes moves within the program. -/
theorem prudent_pushImmediate (width : Nat) :
    Prudent False silent .pays (pushImmediate host width) :=
  (prudent_charge _).pay fun _ => .ask (prudent_frame _) fun _ => (prudent_push _).work fun _ =>
    (prudent_advance width).work fun _ => prudent_pure _

theorem prudent_duplicate (index : Nat) : Prudent steady silent .pays (duplicate host index) :=
  (prudent_charge _).pay fun _ => (prudent_dup index).work fun _ => prudent_pure _

theorem prudent_exchange (index : Nat) : Prudent steady silent .pays (exchange host index) :=
  (prudent_charge _).pay fun _ => (prudent_swap index).work fun _ => prudent_pure _

theorem prudent_popInstruction : Prudent steady silent .pays (pop host) :=
  (prudent_charge _).pay fun _ => (prudent_drop 1).work fun _ => prudent_pure _

theorem prudent_balance : Prudent steady silent .pays (balance host) := by
  refine .ask prudent_peekOne fun word => .branch ?_ ?_
  · exact (prudent_charge _).pay fun _ => (prudent_drop 1).work fun _ =>
      (prudent_push _).work fun _ => prudent_pure _
  · exact .ask (prudent_isColdAddress _) fun _ => (prudent_charge _).pay fun _ =>
      (prudent_warmAddress _).work fun _ => .ask (prudent_reading (Access.reads_balance _)) fun _ =>
      (prudent_drop 1).work fun _ => (prudent_push _).work fun _ => prudent_pure _

theorem prudent_calldataload : Prudent steady silent .pays (calldataload host) :=
  (prudent_charge _).pay fun _ => prudent_popOne.work fun _ => .ask (prudent_frame _) fun _ =>
    (prudent_push _).work fun _ => prudent_pure _

theorem prudent_copyFrom (source : Frame → ByteArray) :
    Prudent steady silent .pays (copyFrom host source) :=
  .ask prudent_peekThree fun _ => .measure fun _ => .measure fun _ =>
    .ask (prudent_frame _) fun _ => (prudent_chargeCost _).pay fun _ =>
    (prudent_drop 3).work fun _ => .ask (prudent_frame _) fun _ =>
    (prudent_storePadded _ _ _).work fun _ => prudent_pure _

theorem prudent_chargeCodeAccess (address : Address) (extra : UInt64) :
    Prudent steady silent .pays (chargeCodeAccess host address extra) := by
  have access : Prudent steady silent .pays (do
      let cold ← Run.isColdAddress address
      Run.chargeCost (Gas.plus (host.schedule.accountAccess cold) extra)
      Run.warmAddress address) :=
    .ask (prudent_isColdAddress _) fun _ => (prudent_chargeCost _).pay fun _ =>
      prudent_warmAddress _
  apply Prudent.branch
  · apply Prudent.measure
    intro estimate
    apply Prudent.ask (prudent_frame _)
    exact fun gas => .guard access
  · exact access

theorem prudent_inspectCode {view : Address → Access Word} {shown : Address → World → Word}
    (reads : ∀ address, Access.Reads host.refusals (view address) (shown address)) :
    Prudent steady silent .pays (inspectCode host view) := by
  apply Prudent.ask prudent_peekOne
  intro word
  apply (prudent_chargeCodeAccess _ 0).pay
  intro _
  apply (prudent_drop 1).work
  intro _
  apply Prudent.branch
  · exact (prudent_push _).work fun _ => prudent_pure _
  · exact .ask (prudent_reading (reads _)) fun _ => (prudent_push _).work fun _ => prudent_pure _

theorem prudent_extcodesize : Prudent steady silent .pays (extcodesize host) :=
  prudent_inspectCode fun address => (Access.reads_code address).map _ fun _ => rfl

theorem prudent_extcodehash : Prudent steady silent .pays (extcodehash host) := by
  refine prudent_inspectCode fun address => (Access.reads_account address).map
    (fun account? => account?.elim .zero fun account =>
      if account.isEmpty then .zero else account.codeHash.toWord) ?_
  intro account?
  cases account? <;> rfl

theorem prudent_extcodecopy : Prudent steady silent .pays (extcodecopy host) := by
  refine .ask prudent_peekFour fun words => .measure fun range => .measure fun needed =>
    .ask (prudent_frame _) fun current => .measure fun whole =>
    (prudent_chargeCodeAccess _ _).pay fun _ => (prudent_drop 4).work fun _ => .branch ?_ ?_
  · exact prudent_pure _
  · exact .ask (prudent_reading (Access.reads_code _)) fun _ =>
      (prudent_storePadded _ _ _).work fun _ => prudent_pure _

/-- That the range lies within the return data is seen only after it was paid for. -/
theorem prudent_returndatacopy : Prudent steady silent .pays (returndatacopy host) := by
  refine .ask prudent_peekThree fun words => .measure fun range => ?_
  cases words.2.1.toPosition? with
  | none => exact prudent_halt nofun
  | some offset =>
      refine .measure fun needed => .ask (prudent_frame _) fun current =>
        (prudent_chargeCost _).pay fun _ => (prudent_drop 3).work fun _ =>
        .ask (prudent_frame _) fun returnData => ?_
      cases Bytes.window? returnData offset range.1 with
      | none => exact prudent_halt fun _ => nofun
      | some bytes => exact (prudent_store _ _).work fun _ => prudent_pure _

theorem prudent_blockhash : Prudent steady silent .pays (blockhash host) := by
  refine (prudent_charge _).pay fun _ => prudent_popOne.work fun number => .branch ?_ ?_
  · exact (prudent_push _).work fun _ => prudent_pure _
  · refine .ask (prudent_reading (Access.reads_blockHash _)) fun hash? => ?_
    cases hash? <;> exact (prudent_push _).work fun _ => prudent_pure _

theorem prudent_selfbalance : Prudent steady silent .pays (selfbalance host) :=
  prudent_pushing .low (.ask (prudent_frame _) fun _ => prudent_reading (Access.reads_balance _))

theorem prudent_blobhash : Prudent steady silent .pays (blobhash host) :=
  (prudent_charge _).pay fun _ => prudent_popOne.work fun _ => (prudent_push _).work fun _ =>
    prudent_pure _

theorem prudent_keccak256 : Prudent steady silent .pays (keccak256 host) :=
  .ask prudent_peekTwo fun _ => .measure fun _ => .measure fun _ => .ask (prudent_frame _) fun _ =>
    (prudent_chargeCost _).pay fun _ => (prudent_drop 2).work fun _ =>
    (prudent_load _ _).work fun _ => (prudent_push _).work fun _ => prudent_pure _

theorem prudent_chargeMemoryAccess (offset : Word) (size : Nat) :
    Prudent steady silent .pays (chargeMemoryAccess host offset size) :=
  .measure fun _ => .measure fun _ => .ask (prudent_frame _) fun _ =>
    (prudent_chargeCost _).pay fun _ => prudent_pure _

theorem prudent_mload : Prudent steady silent .pays (mload host) :=
  .ask prudent_peekOne fun _ => (prudent_chargeMemoryAccess _ 32).pay fun position =>
    (prudent_drop 1).work fun _ =>
    (prudent_haltsUnchanged (Memory.haltsUnchanged_loadWord position)).work fun _ =>
    (prudent_push _).work fun _ => prudent_pure _

theorem prudent_mstore : Prudent steady silent .pays (mstore host) :=
  .ask prudent_peekTwo fun _ => (prudent_chargeMemoryAccess _ 32).pay fun _ =>
    (prudent_drop 2).work fun _ => (prudent_store _ _).work fun _ => prudent_pure _

theorem prudent_mstore8 : Prudent steady silent .pays (mstore8 host) :=
  .ask prudent_peekTwo fun _ => (prudent_chargeMemoryAccess _ 1).pay fun _ =>
    (prudent_drop 2).work fun _ => (prudent_store _ _).work fun _ => prudent_pure _

theorem prudent_mcopy : Prudent steady silent .pays (mcopy host) := by
  have copies : ∀ source target size : Nat, Prudent steady silent .pays (do
      let neededSource ← Run.reach source size
      let neededTarget ← Run.reach target size
      Run.chargeCost
        (host.schedule.copy (max neededSource neededTarget) (← Run.memorySize) size)
      Run.drop 3
      Run.onMemory (Memory.copyWithin source target size)
      return Signal.proceed) := by
    intro source target size
    exact .measure fun _ => .measure fun _ => .ask (prudent_frame _) fun _ =>
      (prudent_chargeCost _).pay fun _ => (prudent_drop 3).work fun _ =>
      (prudent_copyWithin _ _ _).work fun _ => prudent_pure _
  refine .ask prudent_peekThree fun words => .measure fun range => .branch ?_ ?_
  · exact copies _ _ _
  · exact .measure fun source => copies _ _ _

theorem prudent_traceTracked (event : Event) : Prudent steady silent .works (do
    if ← Run.frame (·.isTracked) then Run.trace host event
    return Signal.proceed) := by
  refine .ask (prudent_frame _) fun tracked => .branch ?_ ?_
  · exact (prudent_trace event).work fun _ => prudent_pure _
  · exact prudent_pure _

theorem prudent_sload : Prudent steady silent .pays (sload host) :=
  .ask prudent_peekOne fun _ => .ask (prudent_frame _) fun _ => .ask (prudent_isColdSlot _ _)
    fun _ => (prudent_charge _).pay fun _ => (prudent_warmSlot _ _).work fun _ =>
    (prudent_drop 1).work fun _ => .ask (prudent_reading (Access.reads_slot _ _)) fun _ =>
    (prudent_push _).work fun _ => prudent_traceTracked _

theorem prudent_setLastWrite (write : Option (Word × Word)) :
    Prudent steady silent .works
      (Run.modifyFrame fun frame => { frame with lastWrite := write }) :=
  prudent_modifyFrame _ (fun _ => rfl) (fun _ => rfl) fun _ _ => rfl

theorem prudent_sstore : Prudent steady False .pays (sstore host) := by
  refine .ask prudent_forbidStatic fun _ => .ask (prudent_frame _) fun gas => .guard ?_
  refine .ask prudent_peekTwo fun words => .ask (prudent_frame _) fun address =>
    .ask (prudent_reading (Access.reads_slot _ _)) fun current =>
    .ask (prudent_reading (Access.reads_initial _ _)) fun initial =>
    .ask (prudent_isColdSlot _ _) fun cold => (prudent_chargeCost _).pay fun _ => ?_
  exact (prudent_warmSlot _ _).work fun _ => (prudent_drop 2).work fun _ =>
    (prudent_modifySubstate _).work fun _ => (prudent_onWorld _).work fun _ =>
    (prudent_setLastWrite _).work fun _ => prudent_traceTracked _

theorem prudent_tload : Prudent steady silent .pays (tload host) :=
  (prudent_charge _).pay fun _ => prudent_popOne.work fun _ => .ask (prudent_frame _) fun _ =>
    .ask prudent_get fun _ => (prudent_push _).work fun _ => prudent_pure _

theorem prudent_tstore : Prudent steady False .pays (tstore host) :=
  .ask prudent_forbidStatic fun _ => (prudent_charge _).pay fun _ => prudent_popTwo.work fun _ =>
    .ask (prudent_frame _) fun _ => (prudent_modifySubstate _).work fun _ => prudent_pure _

theorem prudent_log (topicCount : Nat) : Prudent steady False .pays (log host topicCount) :=
  .ask prudent_forbidStatic fun _ => .ask (prudent_peek _) fun _ => .ask prudent_peekTwo fun _ =>
    .measure fun _ => .measure fun _ => .ask (prudent_frame _) fun _ =>
    (prudent_chargeCost _).pay fun _ => (prudent_drop 2).work fun _ =>
    (prudent_pop topicCount).work fun _ => .ask (prudent_frame _) fun _ =>
    (prudent_load _ _).work fun _ => (prudent_modifySubstate _).work fun _ => prudent_pure _

theorem prudent_jumpInstruction : Prudent False silent .pays (jump host) :=
  (prudent_charge _).pay fun _ => prudent_popOne.work fun _ => (prudent_jump _).work fun _ =>
    prudent_pure _

theorem prudent_jumpi : Prudent False silent .pays (jumpi host) := by
  refine (prudent_charge _).pay fun _ => prudent_popTwo.work fun words => .branch ?_ ?_
  · exact (prudent_jump _).work fun _ => prudent_pure _
  · exact prudent_pure _

theorem prudent_jumpdest : Prudent steady silent .pays (jumpdest host) :=
  (prudent_charge _).pay fun _ => prudent_pure _

theorem prudent_setOutput : Prudent steady silent .pays (setOutput host) :=
  .ask prudent_peekTwo fun _ => .measure fun _ => .measure fun _ => .ask (prudent_frame _) fun _ =>
    (prudent_chargeCost _).pay fun _ => (prudent_drop 2).work fun _ =>
    (prudent_load _ _).work fun _ =>
    prudent_modifyFrame _ (fun _ => rfl) (fun _ => rfl) fun _ _ => rfl

theorem prudent_returns : Prudent steady silent .pays (returns host) :=
  prudent_setOutput.pay fun _ => prudent_pure _

theorem prudent_revert : Prudent steady silent .pays (revert host) :=
  prudent_setOutput.pay fun _ => prudent_throw fun _ => nofun

theorem prudent_chargeDestruction (beneficiary : Address) (balance : Word) :
    Prudent steady silent .pays (chargeDestruction host beneficiary balance) := by
  have pays : ∀ cold createsAccount : Bool, Prudent steady silent .pays (do
      Run.charge (host.schedule.selfdestructCost cold createsAccount)
      Run.warmAddress beneficiary
      Run.drop 1) :=
    fun _ _ => (prudent_charge _).pay fun _ => (prudent_warmAddress _).work fun _ => prudent_drop 1
  refine .ask (prudent_isColdAddress _) fun cold => .branch ?_ ?_
  · exact pays cold false
  · exact .ask (prudent_reading (Access.reads_isEmpty _)) fun createsAccount => pays cold _

theorem prudent_bequeath (address beneficiary : Address) (balance : Word) :
    Prudent steady False .works (bequeath host address beneficiary balance) := by
  refine (prudent_onWorld _).work fun _ => .ask prudent_get fun machine => .branch ?_ ?_
  · exact (prudent_onWorld _).work fun _ => prudent_modifySubstate _
  · exact prudent_pure _

theorem prudent_selfdestruct (default : host.overrides.destruction = none) :
    Prudent steady False .pays (selfdestruct host) := by
  rw [selfdestruct_eq default]
  exact .ask prudent_forbidStatic fun _ => .ask prudent_peekOne fun _ => .ask (prudent_frame _)
    fun _ => .ask (prudent_reading (Access.reads_balance _)) fun _ =>
    (prudent_chargeDestruction _ _).pay fun _ => (prudent_bequeath _ _ _).work fun _ =>
    prudent_pure _

theorem prudent_readOperands (gas argumentsOffset argumentsSize returnOffset returnSize : Word) :
    Prudent steady silent .looks
      (CallOperands.read gas argumentsOffset argumentsSize returnOffset returnSize) :=
  .examine fun _ => .examine fun _ => prudent_pure _

theorem prudent_readCall : Prudent steady silent .looks (readCall host) := by
  refine .ask (prudent_peek 7) fun words => .look (prudent_readOperands _ _ _ _ _) nofun
    fun operands => .ask (prudent_frame _) fun invocation => .branch ?_ ?_
  · exact .look (prudent_halt nofun) nofun fun _ => prudent_pure _
  · exact prudent_pure _

theorem prudent_readCallcode : Prudent steady silent .looks (readCallcode host) :=
  .ask (prudent_peek 7) fun _ => .look (prudent_readOperands _ _ _ _ _) nofun fun _ =>
    .ask (prudent_frame _) fun _ => prudent_pure _

theorem prudent_readDelegatecall : Prudent steady silent .looks readDelegatecall :=
  .ask (prudent_peek 6) fun _ => .look (prudent_readOperands _ _ _ _ _) nofun fun _ =>
    .ask (prudent_frame _) fun _ => prudent_pure _

theorem prudent_readStaticcall : Prudent steady silent .looks (readStaticcall host) :=
  .ask (prudent_peek 6) fun _ => .look (prudent_readOperands _ _ _ _ _) nofun fun _ =>
    .ask (prudent_frame _) fun _ => prudent_pure _

theorem prudent_checkTarget (target : CallTarget) :
    Prudent steady silent .looks (checkTarget host target) := by
  have present : Prudent steady silent .looks (do
      if host.policy.mustBePresent target.codeAddress then
        if !(← Run.onWorld (Access.accountExists host.refusals target.codeAddress)) then
          Run.halt .invalidAddress) := by
    refine .branch (.ask (prudent_reading (Access.reads_exists _)) fun found => ?_) (prudent_pure _)
    exact .branch (prudent_halt nofun) (prudent_pure _)
  exact .branch (.look (prudent_halt nofun) nofun fun _ => present) present

theorem prudent_callCreatesAccount (target : CallTarget) :
    Prudent steady silent phase (callCreatesAccount host target) :=
  .branch (prudent_reading (Access.reads_isEmpty _)) (prudent_pure _)

theorem prudent_requireCallGas (target : CallTarget) (baseCost : UInt64) :
    Prudent steady silent .looks (requireCallGas host target baseCost) :=
  .examine fun _ => .ask (prudent_frame _) fun _ => .branch (prudent_halt nofun) (prudent_pure _)

theorem prudent_operandsReach (operands : CallOperands) :
    Prudent steady silent .looks operands.reach :=
  .examine fun _ => .examine fun _ => prudent_pure _

/-- A quote takes no more than a look: it only clears the return data. -/
theorem prudent_quoteCall (request : CallRequest) :
    Prudent steady silent .looks (quoteCall host request) :=
  .look (prudent_checkTarget _) nofun fun _ => .ask (prudent_callCreatesAccount _) fun _ =>
    .look (prudent_operandsReach _) nofun fun _ => .ask (prudent_frame _) fun _ =>
    .examine fun _ => .look (prudent_requireCallGas _ _) nofun fun _ =>
    .ask (prudent_setReturnData _) fun _ => prudent_pure _

theorem prudent_callFailsEarly (target : CallTarget) :
    Prudent steady silent phase (callFailsEarly host target) := by
  have answer : ∀ poor : Bool, Prudent steady silent phase (do
      let depth ← Run.frame (·.invocation.depth)
      return poor || host.config.maxCallDepth ≤ depth) :=
    fun poor => .ask (prudent_frame _) fun _ => prudent_pure _
  refine .ask (prudent_frame _) fun current => .branch ?_ ?_
  · exact .ask (prudent_reading (Access.reads_balance _)) fun balance => answer _
  · exact answer false

theorem prudent_payCall (request : CallRequest) (needed : Nat) (baseCost : UInt64) :
    Prudent steady silent .pays (payCall host request needed baseCost) :=
  .ask (prudent_isColdAddress _) fun _ => (prudent_chargeCost _).pay fun _ =>
    (prudent_warmAddress _).work fun _ => (prudent_drop _).work fun _ => prudent_grow _

/-- The gas of a callee is a part of what its caller has left. -/
theorem prudent_chargeChildGas (target : CallTarget) (requested : Word) :
    Prudent steady silent .works (chargeChildGas host target requested) := by
  refine prudent_chargeShare (fun gas => ?_) fun gas => .branch ?_ (prudent_pure _)
  · exact UInt64.le_iff_toNat_le.mpr (Gas.forChild_le gas _)
  · cases addWithin? (Gas.forChild gas requested.toLimbSaturating) host.schedule.callStipend with
    | some total => exact prudent_pure _
    | none => exact prudent_throw fun _ => nofun

theorem prudent_calleeFrame (target : CallTarget) (operands : CallOperands) (gas : UInt64) :
    Prudent steady silent .works (calleeFrame host target operands gas) :=
  (prudent_load _ _).work fun _ => .ask (prudent_frame _) fun _ =>
    .ask (prudent_reading (Access.reads_code _)) fun _ => (prudent_makeProgram _).work fun _ =>
    prudent_takeBuffers.work fun _ => prudent_pure _

theorem prudent_prepareCall (request : CallRequest) :
    Prudent steady silent .pays (prepareCall host request) := by
  refine .look (prudent_quoteCall _) nofun fun quote => .ask (prudent_callFailsEarly _)
    fun early => .branch ?_ ?_
  · have gives : Prudent steady silent .works (do
        Run.drop request.operandCount
        Run.push .zero
        return (none : Option Entry)) :=
      (prudent_drop _).work fun _ => (prudent_push _).work fun _ => prudent_pure _
    exact gives.atMostPays nofun
  · have enters : Prudent steady silent .pays (calleeEntry host request quote.1 quote.2) :=
      (prudent_payCall _ _ _).pay fun _ => (prudent_chargeChildGas _ _).work fun _ =>
        .ask (prudent_frame _) fun _ => (prudent_calleeFrame _ _ _).work fun _ => prudent_pure _
    exact enters.pay fun _ => prudent_pure _

theorem prudent_payCreation (request : CreationRequest) :
    Prudent steady silent .pays (payCreation host request) :=
  .ask prudent_forbidStatic fun _ => .measure fun _ => .guard (.measure fun _ =>
    .ask (prudent_frame _) fun _ => (prudent_chargeCost _).pay fun _ =>
    (prudent_drop _).work fun _ => (prudent_grow _).work fun _ =>
    .ask (prudent_setReturnData _) fun _ => prudent_pure _)

theorem prudent_creationFailsEarly (deployer : Address) (value : Word) :
    Prudent steady silent phase (creationFailsEarly host deployer value) :=
  .ask (prudent_reading (Access.reads_balance _)) fun _ =>
    .ask (prudent_reading (Access.reads_nonce _)) fun _ => .ask (prudent_frame _) fun _ =>
    prudent_pure _

theorem prudent_initcodeFrame (kind : CallKind) (deployer address : Address) (value : Word)
    (gas : UInt64) (code : ByteArray) :
    Prudent steady silent .works (initcodeFrame host kind deployer address value gas code) :=
  (prudent_makeProgram _).work fun _ => prudent_takeBuffers.work fun _ =>
    .ask (prudent_frame _) fun _ => prudent_pure _

/-- The initcode gets a part of the gas that is left after everything else was paid. -/
theorem prudent_initcodeEntry (request : CreationRequest) (deployer : Address)
    (offset size : Nat) :
    Prudent steady False .works (initcodeEntry host request deployer offset size) := by
  refine (prudent_load _ _).work fun code => (prudent_onWorld _).work fun nonce =>
    (prudent_warmAddress _).work fun _ => prudent_chargeShare (fun gas => ?_) fun gas =>
    (prudent_initcodeFrame _ _ _ _ _ _).work fun _ => prudent_pure _
  exact UInt64.le_iff_toNat_le.mpr (Gas.forChild_le gas gas)

theorem prudent_prepareCreation (request : CreationRequest) :
    Prudent steady False .pays (prepareCreation host request) := by
  refine (prudent_payCreation _).pay fun range => .ask (prudent_frame _) fun deployer =>
    .ask (prudent_creationFailsEarly _ _) fun early => .branch ?_ ?_
  · exact (prudent_push _).work fun _ => prudent_pure _
  · exact (prudent_initcodeEntry _ _ _ _).work fun _ => prudent_pure _

theorem prudent_overriddenDestruction (override : DestructionOverride) (beneficiary : Address) :
    Prudent steady silent .mixed (overriddenDestruction override beneficiary) := by
  have answers (answer : Except Failure Signal) :
      Prudent steady silent .mixed (Run.ofExcept answer) := by
    cases answer with
    | ok signal => exact prudent_pure _
    | error cause => exact prudent_throw nofun
  have asks : Prudent steady silent .works (get : Run Machine) := prudent_get
  exact (prudent_drop 1).mix fun _ => asks.mix fun _ => (prudent_record _).mix fun _ =>
    (prudent_charge _).mix fun _ => answers _

/-- A destruction stays in its place and in its frame, even if it has been replaced. -/
theorem prudent_destruction : Prudent steady False .mixed (selfdestruct host) := by
  cases overridden : host.overrides.destruction with
  | none =>
      have prudent : Prudent steady False .pays (selfdestruct host) :=
        prudent_selfdestruct overridden
      exact { prudent with looks := nofun, starves := by simp, affords := nofun }
  | some override =>
      unfold selfdestruct
      rw [overridden]
      exact .ask prudent_forbidStatic fun _ => .ask prudent_peekOne fun _ =>
        prudent_overriddenDestruction override _

end Instruction

/-- Whether an instruction moves within its program, apart from going on to the next one. -/
def Opcode.moves : Opcode → Bool
  | .push width => width.val != 0
  | .jump | .jumpi => true
  | _ => false

/-- Whether an instruction writes a slot or a log. -/
def Opcode.writes : Opcode → Bool
  | .sstore | .tstore | .log _ => true
  | _ => false

namespace Instruction

variable {host : Host} {enter : Transfer → Run Outcome} {steady silent : Prop}

/-- An instruction that starts no child and destroys no account is prudent. -/
theorem prudent_execute {opcode : Opcode} (regular : opcode.isRegular = true)
    (stands : steady → opcode.moves = false) (keeps : silent → opcode.writes = false) :
    Prudent steady silent .pays (execute host enter opcode) := by
  cases opcode <;> simp only [execute]
  case create | call | callcode | delegatecall | create2 | staticcall | selfdestruct =>
    cases regular
  case stop => exact prudent_pure _
  case invalid => exact prudent_halt fun _ => Halt.noConfusion
  case returns => exact prudent_returns
  case revert => exact prudent_revert
  case add | mul | sub | div | sdiv | mod | smod | signextend | lt | gt | slt | sgt | eq | and | or
      | xor | byte | shl | shr | sar =>
    exact prudent_binary _ _
  case addmod | mulmod => exact prudent_ternary _ _
  case iszero | not => exact prudent_unary _ _
  case address | caller | callvalue | calldatasize | codesize | returndatasize | msize | pc | gas =>
    exact prudent_pushing _ (prudent_frame _)
  case origin | gasprice | coinbase | timestamp | number | prevrandao | gaslimit | chainid
      | basefee | blobbasefee =>
    exact prudent_pushing _ (prudent_pure _)
  case calldatacopy | codecopy => exact prudent_copyFrom _
  case exp => exact prudent_exp
  case keccak256 => exact prudent_keccak256
  case balance => exact prudent_balance
  case calldataload => exact prudent_calldataload
  case extcodesize => exact prudent_extcodesize
  case extcodecopy => exact prudent_extcodecopy
  case returndatacopy => exact prudent_returndatacopy
  case extcodehash => exact prudent_extcodehash
  case blockhash => exact prudent_blockhash
  case selfbalance => exact prudent_selfbalance
  case blobhash => exact prudent_blobhash
  case pop => exact prudent_popInstruction
  case mload => exact prudent_mload
  case mstore => exact prudent_mstore
  case mstore8 => exact prudent_mstore8
  case mcopy => exact prudent_mcopy
  case sload => exact prudent_sload
  case tload => exact prudent_tload
  case jumpdest => exact prudent_jumpdest
  case dup index => exact prudent_duplicate _
  case swap index => exact prudent_exchange _
  case sstore => exact prudent_sstore.relax id fun isSilent => Bool.noConfusion (keeps isSilent)
  case tstore => exact prudent_tstore.relax id fun isSilent => Bool.noConfusion (keeps isSilent)
  case log topics =>
    exact (prudent_log _).relax id fun isSilent => Bool.noConfusion (keeps isSilent)
  case jump =>
    exact prudent_jumpInstruction.relax (fun isSteady => Bool.noConfusion (stands isSteady)) id
  case jumpi =>
    exact prudent_jumpi.relax (fun isSteady => Bool.noConfusion (stands isSteady)) id
  case push width =>
    split
    · exact prudent_pushing _ (prudent_pure _)
    · rename_i wide
      refine (prudent_pushImmediate _).relax (fun isSteady => ?_) id
      have none : (width.val != 0) = false := stands isSteady
      exact wide (Fin.ext (by simpa using none))

end Instruction

end CancunMachine
