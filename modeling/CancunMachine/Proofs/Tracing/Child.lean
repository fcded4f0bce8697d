import Mathlib.Tactic
import CancunMachine.Proofs.Order.Frugality
import CancunMachine.Proofs.Tracing.Instruction

/-!
# Children between their parent's reports

Before its child is entered and after it has come back, a call or creation is quiet. While the child
runs, its parent waits with what it has in store for the tracer and gets it back unchanged, so of a
call or creation the tracer sees the reports of the child and nothing else.
-/

namespace CancunMachine

open Ending

namespace Instruction

variable {host : Host}

theorem quiet_readOperands (gas argumentsOffset argumentsSize returnOffset returnSize : Word) :
    Quiet (CallOperands.read gas argumentsOffset argumentsSize returnOffset returnSize) :=
  (quiet_ofHalting _).bind fun _ => (quiet_ofHalting _).bind fun _ => .pure _

theorem quiet_readCall : Quiet (readCall host) := by
  refine (quiet_peek 7).bind fun words => (quiet_readOperands _ _ _ _ _).bind fun operands =>
    (Keeps.frame _).bind fun invocation => .branch ?_ (.pure _)
  exact (Keeps.halt _).bind fun _ => .pure _

theorem quiet_readCallcode : Quiet (readCallcode host) :=
  (quiet_peek 7).bind fun _ => (quiet_readOperands _ _ _ _ _).bind fun _ =>
    (Keeps.frame _).bind fun _ => .pure _

theorem quiet_readDelegatecall : Quiet readDelegatecall :=
  (quiet_peek 6).bind fun _ => (quiet_readOperands _ _ _ _ _).bind fun _ =>
    (Keeps.frame _).bind fun _ => .pure _

theorem quiet_readStaticcall : Quiet (readStaticcall host) :=
  (quiet_peek 6).bind fun _ => (quiet_readOperands _ _ _ _ _).bind fun _ =>
    (Keeps.frame _).bind fun _ => .pure _

theorem quiet_checkTarget (target : CallTarget) : Quiet (checkTarget host target) := by
  have present : Quiet (do
      if host.policy.mustBePresent target.codeAddress then
        if !(← Run.onWorld (Access.accountExists host.refusals target.codeAddress)) then
          Run.halt .invalidAddress) :=
    .branch ((quiet_onWorld _).bind fun _ => .branch (.halt _) (.pure _)) (.pure _)
  exact .branch ((Keeps.halt _).bind fun _ => present) present

theorem quiet_requireCallGas (target : CallTarget) (baseCost : UInt64) :
    Quiet (requireCallGas host target baseCost) :=
  (quiet_ofHalting _).bind fun _ => (Keeps.frame _).bind fun _ => .branch (.halt _) (.pure _)

theorem quiet_operandsReach (operands : CallOperands) : Quiet operands.reach :=
  (quiet_ofHalting _).bind fun _ => (quiet_ofHalting _).bind fun _ => .pure _

theorem quiet_quoteCall (request : CallRequest) : Quiet (quoteCall host request) := by
  refine (quiet_checkTarget _).bind fun _ => Keeps.bind (.branch (quiet_onWorld _) (.pure _))
    fun createsAccount => (quiet_operandsReach _).bind fun needed => (Keeps.frame _).bind fun size =>
    (quiet_ofHalting _).bind fun cost => (quiet_requireCallGas _ _).bind fun _ => ?_
  exact (quiet_modifyFrame (fun frame => { frame with returnData := ByteArray.empty })
    fun _ => rfl).bind fun _ => .pure _

theorem quiet_callFailsEarly (target : CallTarget) : Quiet (callFailsEarly host target) := by
  have answer : ∀ poor : Bool, Quiet (do
      let depth ← Run.frame (·.invocation.depth)
      return poor || host.config.maxCallDepth ≤ depth) :=
    fun poor => (Keeps.frame _).bind fun _ => .pure _
  refine (Keeps.frame _).bind fun current => .branch ?_ (answer false)
  exact (quiet_onWorld _).bind fun balance => answer _

theorem quiet_payCall (request : CallRequest) (needed : Nat) (baseCost : UInt64) :
    Quiet (payCall host request needed baseCost) :=
  (quiet_isColdAddress _).bind fun _ => (quiet_chargeCost _).bind fun _ =>
    (quiet_modifyWarmth _).bind fun _ => (quiet_drop _).bind fun _ => quiet_onMemory _

theorem quiet_chargeChildGas (target : CallTarget) (requested : Word) :
    Quiet (chargeChildGas host target requested) := by
  refine (Keeps.frame _).bind fun gas => (quiet_charge _).bind fun _ => .branch ?_ (.pure _)
  cases addWithin? (Gas.forChild gas requested.toLimbSaturating) host.schedule.callStipend with
  | some total => exact .pure _
  | none => exact .throw _

theorem quiet_calleeFrame (target : CallTarget) (operands : CallOperands) (gas : UInt64) :
    Quiet (calleeFrame host target operands gas) :=
  (quiet_onMemory _).bind fun _ => (Keeps.frame _).bind fun _ => (quiet_onWorld _).bind fun _ =>
    (quiet_makeProgram _).bind fun _ => quiet_takeBuffers.bind fun _ => .pure _

theorem quiet_prepareCall (request : CallRequest) : Quiet (prepareCall host request) := by
  refine (quiet_quoteCall _).bind fun quote => (quiet_callFailsEarly _).bind fun early =>
    .branch ?_ ?_
  · exact (quiet_drop _).bind fun _ => (quiet_push _).bind fun _ => .pure _
  · have enters : Quiet (calleeEntry host request quote.1 quote.2) :=
      (quiet_payCall _ _ _).bind fun _ => (quiet_chargeChildGas _ _).bind fun _ =>
        (Keeps.frame _).bind fun _ => (quiet_calleeFrame _ _ _).bind fun _ => .pure _
    exact enters.bind fun _ => .pure _

theorem quiet_payCreation (request : CreationRequest) : Quiet (payCreation host request) := by
  refine quiet_forbidStatic.bind fun _ => (quiet_ofHalting _).bind fun range => ?_
  have pays : Quiet (do
      let needed ← Run.reach range.2 range.1
      Run.chargeCost
        (host.schedule.create needed (← Run.memorySize) range.1 request.salt.isSome)
      Run.drop request.operandCount
      Run.onMemory (Memory.grow needed)
      Run.modifyFrame fun frame => { frame with returnData := ByteArray.empty }
      return (range.2, range.1)) := by
    refine (quiet_ofHalting _).bind fun needed => (Keeps.frame _).bind fun size =>
      (quiet_chargeCost _).bind fun _ => (quiet_drop _).bind fun _ =>
      (quiet_onMemory _).bind fun _ => ?_
    exact (quiet_modifyFrame (fun frame => { frame with returnData := ByteArray.empty })
      fun _ => rfl).bind fun _ => .pure _
  exact .branch ((Keeps.halt _).bind fun _ => pays) pays

theorem quiet_creationFailsEarly (deployer : Address) (value : Word) :
    Quiet (creationFailsEarly host deployer value) :=
  (quiet_onWorld _).bind fun _ => (quiet_onWorld _).bind fun _ => (Keeps.frame _).bind fun _ =>
    .pure _

theorem quiet_initcodeFrame (kind : CallKind) (deployer address : Address) (value : Word)
    (gas : UInt64) (code : ByteArray) :
    Quiet (initcodeFrame host kind deployer address value gas code) :=
  (quiet_makeProgram _).bind fun _ => quiet_takeBuffers.bind fun _ => (Keeps.frame _).bind fun _ =>
    .pure _

theorem quiet_initcodeEntry (request : CreationRequest) (deployer : Address)
    (offset size : Nat) : Quiet (initcodeEntry host request deployer offset size) :=
  (quiet_onMemory _).bind fun _ => (quiet_onWorld _).bind fun _ =>
    (quiet_modifyWarmth _).bind fun _ => (Keeps.frame _).bind fun _ => (quiet_charge _).bind fun _ =>
    (quiet_initcodeFrame _ _ _ _ _ _).bind fun _ => .pure _

theorem quiet_prepareCreation (request : CreationRequest) :
    Quiet (prepareCreation host request) := by
  refine (quiet_payCreation _).bind fun range => (Keeps.frame _).bind fun deployer =>
    (quiet_creationFailsEarly _ _).bind fun early => .branch ?_ ?_
  · exact (quiet_push _).bind fun _ => .pure _
  · exact (quiet_initcodeEntry _ _ _ _).bind fun _ => .pure _

theorem quiet_raiseChildHalt (outcome : Outcome) : Quiet (raiseChildHalt outcome) := by
  refine (Keeps.frame _).bind fun queued =>
    (quiet_modifyFrame (fun frame => { frame with queuedHalt := none }) fun _ => rfl).bind
      fun _ => ?_
  rcases outcome.haltReason? with _ | reason
  · exact .pure _
  cases queued with
  | some queuedHalt => exact .halt _
  | none => exact .branch (.halt _) (.pure _)

theorem quiet_returnGas (outcome : Outcome) : Quiet (returnGas outcome) := by
  refine (Keeps.frame _).bind fun gas => ?_
  cases addWithin? gas outcome.gasRemaining with
  | some total => exact quiet_modifyFrame _ fun _ => rfl
  | none => exact .throw _

theorem quiet_setReturnData (data : ByteArray) :
    Quiet (Run.modifyFrame fun frame => { frame with returnData := data }) :=
  quiet_modifyFrame _ fun _ => rfl

theorem quiet_finishCall (outcome : Outcome) (operands : CallOperands) :
    Quiet (finishCall outcome operands) :=
  (quiet_raiseChildHalt _).bind fun _ => (quiet_returnGas _).bind fun _ =>
    (quiet_setReturnData _).bind fun _ => (quiet_onMemory _).bind fun _ =>
    (quiet_push _).bind fun _ => .pure _

theorem quiet_finishCreation (outcome : Outcome) (address : Address) :
    Quiet (finishCreation outcome address) := by
  refine (quiet_raiseChildHalt _).bind fun _ => (quiet_returnGas _).bind fun _ => .branch ?_ ?_
  · exact (quiet_push _).bind fun _ => .pure _
  · exact (quiet_setReturnData _).bind fun _ => (quiet_push _).bind fun _ => .pure _

/-- A course whose own steps are all quiet. -/
structure Course.Hushed {opcode : Opcode} (course : Course host opcode) : Prop where
  reads : Quiet course.read
  prepares : ∀ request, Quiet (course.prepare request)
  finishes : ∀ request entry outcome, Quiet (course.finish request entry outcome)

theorem hushed_course {opcode : Opcode} (starts : opcode.startsChild = true) :
    (course host opcode starts).Hushed := by
  have calls : ∀ request : CallRequest, ∀ _entry : Entry, ∀ outcome,
      Quiet (finishCall outcome request.operands) := fun _ _ _ => quiet_finishCall _ _
  have creates : ∀ _request : CreationRequest, ∀ entry : Entry, ∀ outcome,
      Quiet (finishCreation outcome entry.child.invocation.recipient) :=
    fun _ _ _ => quiet_finishCreation _ _
  cases opcode
  case call => exact ⟨quiet_readCall, quiet_prepareCall, calls⟩
  case callcode => exact ⟨quiet_readCallcode, quiet_prepareCall, calls⟩
  case delegatecall => exact ⟨quiet_readDelegatecall, quiet_prepareCall, calls⟩
  case staticcall => exact ⟨quiet_readStaticcall, quiet_prepareCall, calls⟩
  case create => exact ⟨quiet_peekThree.bind fun _ => .pure _, quiet_prepareCreation, creates⟩
  case create2 => exact ⟨quiet_peekFour.bind fun _ => .pure _, quiet_prepareCreation, creates⟩
  all_goals cases starts

theorem quiet_preparation (opcode : Opcode) : Quiet (preparation host opcode) := by
  cases starts : opcode.startsChild with
  | false =>
      rw [preparation_of_alone starts]
      exact .pure none
  | true =>
      rw [(course host opcode starts).prepares]
      exact (hushed_course starts).reads.bind (hushed_course starts).prepares

variable {enter : Transfer → Run Outcome} {opcode : Opcode} {machine ready : Machine}
  {entry : Entry}

/-- What starts a child runs it once it is prepared, and finishes quietly. -/
theorem execute_of_entry (starts : opcode.startsChild = true)
    (prepares : preparation host opcode machine = .ok (some entry) ready) :
    ∃ finish : Outcome → Run Signal, (∀ outcome, Quiet (finish outcome)) ∧ ∀ enter,
      execute host enter opcode machine = (do
        let outcome ← runChild host enter entry.child entry.transfer
        finish outcome) ready := by
  have hushed : (course host opcode starts).Hushed := hushed_course starts
  generalize course host opcode starts = course at hushed
  rw [course.prepares] at prepares
  obtain ⟨request, middle, reads, prepared⟩ := bind_eq_ok.mp prepares
  refine ⟨course.finish request entry, hushed.finishes request entry, fun enter => ?_⟩
  rw [course.executes, bind_of_ok reads]
  exact bind_of_ok prepared

/-- A child that has left the reports of its parent in place gives them back to it. -/
theorem runChild_of_waiting {child : Frame} {transfer : Transfer}
    (waits : (reached (enter transfer (machine.entering child))).tracing.waiting =
      (machine.entering child).tracing.waiting) :
    ∃ returned, returned.tracing =
        { machine.tracing with
          reports := (reached (enter transfer (machine.entering child))).reports } ∧
      runChild host enter child transfer machine =
        match enter transfer (machine.entering child) with
        | .ok outcome _ => .ok outcome returned
        | .error cause _ => .error cause returned := by
  have resumes : ∀ closed : Machine,
      closed.tracing.waiting = (machine.entering child).tracing.waiting →
      ∃ returned, resume host closed = .ok () returned ∧
        returned.tracing = { machine.tracing with reports := closed.reports } := by
    intro closed same
    cases layers : closed.suspended with
    | nil =>
        rw [Machine.tracing, layers] at same
        cases same
    | cons parent others =>
        refine ⟨_, resume_of_suspended layers, ?_⟩
        rw [Machine.tracing, layers] at same
        obtain ⟨running, waiting⟩ := List.cons.inj same
        exact Tracing.ext rfl running waiting
  unfold runChild
  rw [bind_of_ok (suspend_apply _ _)]
  cases ended : enter transfer (machine.entering child) with
  | ok outcome closed =>
      rw [ended] at waits
      obtain ⟨returned, resumed, shown⟩ := resumes closed waits
      refine ⟨returned, shown, ?_⟩
      rw [bind_of_ok (Run.attempt_of_ok ended), bind_of_ok resumed]
      rfl
  | error cause closed =>
      rw [ended] at waits
      obtain ⟨returned, resumed, shown⟩ := resumes closed waits
      refine ⟨returned, shown, ?_⟩
      rw [bind_of_ok (Run.attempt_of_error ended), bind_of_ok resumed]
      rfl

/-- Of an instruction that runs a child the tracer sees what it sees of the child. -/
theorem tracing_of_entry (starts : opcode.startsChild = true)
    (prepares : preparation host opcode machine = .ok (some entry) ready)
    (waits : (reached (enter entry.transfer (ready.entering entry.child))).tracing.waiting =
      (ready.entering entry.child).tracing.waiting) :
    (reached (execute host enter opcode machine)).tracing =
      { machine.tracing with
        reports := (reached (enter entry.transfer (ready.entering entry.child))).reports } := by
  obtain ⟨finish, quiet, executes⟩ := execute_of_entry starts prepares
  obtain ⟨returned, shown, runs⟩ := @runChild_of_waiting host enter _ _ _ waits
  rw [executes, ← (quiet_preparation opcode).of_ok prepares]
  cases ended : enter entry.transfer (ready.entering entry.child) with
  | ok outcome closed =>
      simp only [ended] at runs shown
      rw [bind_of_ok runs, quiet outcome returned, shown]
  | error cause closed =>
      simp only [ended] at runs shown
      rw [bind_of_error runs]
      exact shown

end Instruction

end CancunMachine
