import Mathlib.Tactic
import CancunMachine.Proofs.Evolution.Run
import CancunMachine.Proofs.Order.Child

/-!
# The order of frames

Whatever a frame executes and whatever its collaborators ask for, the frames that wait stay where
they stand. So an instruction leaves all frames in their places, its own as well, unless it steps
over immediate bytes or jumps.
-/

namespace CancunMachine

open Ending

namespace Keeps

variable {Alpha View : Type} {view : Machine → View}

theorem pure (value : Alpha) : Keeps view (Pure.pure value : Run Alpha) := fun _ => rfl

theorem throw (cause : Failure) : Keeps view (MonadExcept.throw cause : Run Alpha) := fun _ => rfl

theorem halt (reason : Halt) : Keeps view (Run.halt reason : Run Alpha) := fun _ => rfl

theorem frame (question : Frame → Alpha) : Keeps view (Run.frame question) := fun _ => rfl

theorem onWorld (access : Access Alpha) : Keeps Machine.setting (Run.onWorld access) := by
  have prudent : Prudent True False .works (Run.onWorld access) := prudent_onWorld access
  exact prudent.stays

theorem modifySubstate (change : Substate → Substate) :
    Keeps Machine.setting (Run.modifySubstate change) := fun _ => rfl

theorem charge (cost : UInt64) : Keeps Machine.setting (Run.charge cost) := by
  have prudent : Prudent True True .pays (Run.charge cost) := prudent_charge cost
  exact prudent.stays

theorem chargeCost (cost : Except Halt UInt64) : Keeps Machine.setting (Run.chargeCost cost) := by
  have prudent : Prudent True True .pays (Run.chargeCost cost) := prudent_chargeCost cost
  exact prudent.stays

end Keeps

namespace Interpreter

variable {host : Host}

theorem setting_of_failFrame (cause : Failure) : Keeps Machine.setting (failFrame cause) := by
  intro machine
  cases ends : cause.endsMessage with
  | true => rw [failFrame_of_fatal ends]; rfl
  | false =>
      unfold failFrame
      rw [if_neg (by simp [ends])]
      cases cause.isRevert <;> rfl

theorem setting_of_claimAddress (address : Address) :
    Keeps Machine.setting (claimAddress host address) := by
  have founds : Keeps Machine.setting (do
      Run.onWorld (Access.writeNonce host.refusals address 1)
      Run.modifySubstate (·.addCreated address)) :=
    (Keeps.onWorld _).bind fun _ => .modifySubstate _
  refine (Keeps.onWorld _).bind fun holder => ?_
  cases holder with
  | none => exact founds
  | some account => exact .branch ((Keeps.halt _).bind fun _ => founds) founds

theorem setting_of_runPrecompile : Keeps Machine.setting (runPrecompile host) := by
  refine (Keeps.frame _).bind fun frame => ?_
  simp only
  split
  · exact .pure _
  · exact .throw _
  · exact (Keeps.charge _).bind fun _ => fun _ => rfl

theorem setting_of_startFrame (transfer : Transfer) :
    Keeps Machine.setting (startFrame host transfer) := by
  have pays : ∀ invocation : Invocation, Keeps Machine.setting (paying host transfer invocation) :=
    fun invocation => (Keeps.onWorld _).bind fun _ => .branch setting_of_runPrecompile (.pure _)
  refine (Keeps.frame _).bind fun invocation => ?_
  apply Keeps.branch
  · exact (setting_of_claimAddress _).bind fun _ => pays invocation
  · exact pays invocation

theorem setting_of_depositCode : Keeps Machine.setting (depositCode host) := by
  refine (Keeps.frame _).bind fun frame => ?_
  have deposits : Keeps Machine.setting (do
      Run.chargeCost (host.schedule.codeDeposit frame.output.size)
      Run.onWorld (Access.writeCode host.refusals frame.invocation.recipient frame.output)) :=
    (Keeps.chargeCost _).bind fun _ => .onWorld _
  have checks : Keeps Machine.setting (do
      if !frame.output.isEmpty && Bytes.get frame.output 0 = reservedCodeByte then
        Run.halt .invalidContractPrefix
      Run.chargeCost (host.schedule.codeDeposit frame.output.size)
      Run.onWorld (Access.writeCode host.refusals frame.invocation.recipient frame.output)) :=
    .branch ((Keeps.halt _).bind fun _ => deposits) deposits
  exact .branch ((Keeps.halt _).bind fun _ => checks) checks

theorem setting_of_stopFrame : Keeps Machine.setting (stopFrame host) := by
  have succeeds : Keeps Machine.setting (Run.frame (Outcome.ofFrame · .success)) := .frame _
  refine (Keeps.frame _).bind fun creates => ?_
  apply Keeps.branch
  · refine setting_of_depositCode.attempt.bind fun answer => ?_
    cases answer with
    | ok nothing => exact succeeds
    | error cause => exact setting_of_failFrame cause
  · exact succeeds

/-- A queued halt does not move the parent it is queued on. -/
theorem waiting_of_queueOnParent (halt : Halt) : Keeps Machine.waiting (queueOnParent halt) := by
  intro machine
  unfold queueOnParent
  rw [bind_of_ok (get_apply machine)]
  cases layers : machine.suspended with
  | nil => rfl
  | cons parent others =>
      simp only [Machine.waiting, layers]
      rfl

theorem waiting_of_applyActions (actions : List OutcomeAction) (outcome : Outcome) :
    Keeps Machine.waiting (applyActions actions outcome) := by
  have records : ∀ event, Keeps Machine.waiting (Run.record event) := fun _ _ => rfl
  induction actions generalizing outcome with
  | nil => exact .pure _
  | cons action rest inductionHypothesis =>
      cases action with
      | note event => exact (records _).bind fun _ => inductionHypothesis _
      | replaceOutput output => exact inductionHypothesis _
      | queue halt =>
          exact (waiting_of_queueOnParent halt).bind fun _ => (records _).bind fun _ =>
            inductionHypothesis _
      | fail cause => exact .throw _

theorem waiting_of_consult (hook : OutcomeHook) (outcome : Outcome) :
    Keeps Machine.waiting (consult hook outcome) :=
  fun machine => waiting_of_applyActions (hook machine outcome) outcome machine

theorem waiting_of_settle (outcome : Outcome) : Keeps Machine.waiting (settle host outcome) := by
  unfold settle
  cases host.overrides.outcome with
  | none => exact .pure _
  | some hook =>
      have again : ∀ outcome : Outcome, Keeps Machine.waiting
          (if !outcome.isSuccess then consult hook outcome >>= Pure.pure
          else Pure.pure outcome) :=
        fun _ => .branch ((waiting_of_consult _ _).bind .pure) (.pure _)
      apply Keeps.branch
      · refine (waiting_of_consult _ _).attempt.bind fun answer => ?_
        cases answer with
        | ok settled => exact again settled
        | error cause =>
            exact (setting_of_failFrame cause).waiting.bind fun settled => again settled
      · exact again outcome

theorem waiting_of_exitFrame (outcome : Outcome) :
    Keeps Machine.waiting (exitFrame host outcome) := by
  intro machine
  rcases exitFrame_cases host outcome machine with ⟨closed, exits, closes⟩ | ⟨cause, fails, _⟩
  · rw [exits]
    exact congrArg (·.map Frame.place) closes.suspended
  · rw [fails]
    rfl

theorem waiting_of_openFrame : Keeps Machine.waiting (openFrame host) := by
  intro machine
  rw [openFrame_apply]
  rfl

/-- A frame leaves the frames that wait for it in their places. -/
theorem waiting_of_runFrame {body : Run Outcome} (transfer : Transfer)
    (runs : Keeps Machine.waiting body) : Keeps Machine.waiting (runFrame host body transfer) := by
  have ends : ∀ outcome : Outcome, Keeps Machine.waiting (do
      let outcome ← settle host outcome
      exitFrame host outcome
      return outcome) :=
    fun outcome => (waiting_of_settle outcome).bind fun settled =>
      (waiting_of_exitFrame settled).bind fun _ => .pure _
  refine waiting_of_openFrame.bind fun _ => ?_
  refine (setting_of_startFrame transfer).waiting.attempt.bind fun answer => ?_
  rcases answer with cause | _ | outcome
  · exact (setting_of_failFrame cause).waiting.bind ends
  · exact runs.bind ends
  · exact (Keeps.pure outcome).bind ends

end Interpreter

/-- What moves starts no child. -/
theorem Opcode.regular_of_moves {opcode : Opcode} (moves : opcode.moves = true) :
    opcode.isRegular = true := by
  cases opcode <;> first | rfl | cases moves

namespace Instruction

variable {host : Host} {enter : Transfer → Run Outcome}

/-- An instruction that does not move leaves every frame in its place. -/
theorem places_of_execute {opcode : Opcode} (stands : opcode.moves = false)
    (enters : ∀ transfer, Keeps Machine.waiting (enter transfer)) :
    Keeps Machine.places (execute host enter opcode) := by
  rcases opcode.regular_or_startsChild with regular | rfl | starts
  · have prudent : Prudent True False .pays (execute host enter opcode) :=
      prudent_execute regular (fun _ => stands) False.elim
    exact prudent.places
  · have prudent : Prudent True False .mixed (selfdestruct host) := prudent_destruction
    exact prudent.places
  · have course := course host opcode starts
    rw [course.executes]
    refine course.looks.places.bind fun request => ?_
    refine (course.pays request).places.bind fun answer => ?_
    cases answer with
    | none => exact .pure _
    | some entry =>
        exact (places_of_runChild _ (enters _)).bind fun outcome =>
          (course.resumes request entry outcome).places

/-- Any instruction leaves the frames that wait in their places. -/
theorem waiting_of_execute (host : Host)
    (enters : ∀ transfer, Keeps Machine.waiting (enter transfer))
    (opcode : Opcode) : Keeps Machine.waiting (execute host enter opcode) := by
  cases moves : opcode.moves with
  | false => exact fun machine => congrArg List.tail (places_of_execute moves enters machine)
  | true =>
      have prudent : Prudent False False .pays (execute host enter opcode) :=
        prudent_execute (Opcode.regular_of_moves moves) False.elim False.elim
      exact prudent.stays.waiting

end Instruction

namespace Interpreter

variable {host : Host}

/-- The instructions of a frame leave the frames that wait for it in their places. -/
theorem waiting_of_run (budget : Nat) : Keeps Machine.waiting (run host budget) := by
  induction budget with
  | zero => exact .throw _
  | succ budget inductionHypothesis =>
      intro machine
      rw [run_succ]
      have enters : ∀ transfer, Keeps Machine.waiting (runFrame host (run host budget) transfer) :=
        fun transfer => waiting_of_runFrame transfer inductionHypothesis
      have executes := Instruction.waiting_of_execute host enters machine.nextOpcode machine.fetched
      cases ended : Instruction.execute host (runFrame host (run host budget)) machine.nextOpcode
          machine.fetched with
      | error cause next =>
          rw [ended] at executes
          exact ((setting_of_failFrame cause).waiting next).trans executes
      | ok signal next =>
          rw [ended] at executes
          cases signal with
          | proceed => exact (inductionHypothesis next).trans executes
          | stop => exact (setting_of_stopFrame.waiting next).trans executes

end Interpreter

end CancunMachine
