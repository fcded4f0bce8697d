import Mathlib.Tactic
import CancunMachine.Proofs.Tracing.Child

/-!
# The entry and the exit of a frame

A frame reports its entry before anything else and its exit when it is closed, its last write right
before. In between only its instructions report, since the transfer, the native contracts, the
deposit of code and a discreet collaborator are quiet. A frame that is not closed, because the
message is aborted or its collaborator fails it once more, does not report its exit.
-/

namespace CancunMachine

open Ending

/-- What the collaborator at the end of frames notes is not meant for the tracer. -/
def Host.Discreet (host : Host) : Prop :=
  ∀ hook, host.overrides.outcome = some hook → ∀ machine outcome event,
    .note event ∈ hook machine outcome → event.isReported = false

namespace Tracing

/-- The report of an entry; from now on the frame is tracked or not. -/
def enter (tracks : Bool) (tracing : Tracing) : Tracing :=
  { tracing with
    reports := .enter tracing.running.invocation :: tracing.reports
    running := { tracing.running with isTracked := tracks } }

/-- The reports of an exit: the last write of the frame, if it has written, and the exit itself. -/
def exit (outcome : Outcome) (tracing : Tracing) : Tracing :=
  { tracing with
    reports := .exit tracing.running.invocation.depth outcome ::
      (tracing.running.lastWrite.map fun write =>
        .updated tracing.running.invocation.recipient write.1 write.2).toList ++ tracing.reports
    running := { tracing.running with lastWrite := none } }

/-- A frame that is not closed reports nothing at its end. -/
def leave : Option Outcome → Tracing → Tracing
  | some outcome, tracing => tracing.exit outcome
  | none, tracing => tracing

end Tracing

/-- The outcome of a computation that gives one. -/
def outcome? : EStateM.Result Failure Machine Outcome → Option Outcome
  | .ok outcome _ => some outcome
  | .error _ _ => none

variable {host : Host}

theorem Machine.tracing_opened (traced : host.isTraced = true) (machine : Machine) :
    (machine.opened host).tracing = machine.tracing.enter host.config.trackStateChanges := by
  refine Tracing.ext ?_ rfl rfl
  unfold opened tracing reports
  rw [if_pos traced]
  rfl

theorem Machine.tracing_reported (traced : host.isTraced = true) (outcome : Outcome)
    (machine : Machine) :
    (machine.reported host outcome).tracing = machine.tracing.exit outcome := by
  refine Tracing.ext ?_ rfl rfl
  unfold reported tracing reports exitEvents
  rw [if_pos traced]
  cases write : machine.frame.lastWrite <;> simp [Tracing.exit, Frame.reporting, write,
    Event.isReported]

namespace Interpreter

theorem quiet_failFrame (cause : Failure) : Quiet (failFrame cause) := by
  intro machine
  cases ends : cause.endsMessage with
  | true => rw [failFrame_of_fatal ends]; rfl
  | false =>
      unfold failFrame
      rw [if_neg (by simp [ends])]
      cases cause.isRevert <;> rfl

theorem quiet_claimAddress (address : Address) : Quiet (claimAddress host address) := by
  have founds : Quiet (do
      Run.onWorld (Access.writeNonce host.refusals address 1)
      Run.modifySubstate (·.addCreated address)) :=
    (quiet_onWorld _).bind fun _ => quiet_modifySubstate _
  refine (quiet_onWorld _).bind fun holder => ?_
  cases holder with
  | none => exact founds
  | some account => exact .branch ((Keeps.halt _).bind fun _ => founds) founds

theorem quiet_runPrecompile : Quiet (runPrecompile host) := by
  refine (Keeps.frame _).bind fun frame => ?_
  simp only
  split
  · exact .pure _
  · exact .throw _
  · exact (quiet_charge _).bind fun _ => fun _ => rfl

theorem quiet_startFrame (transfer : Transfer) : Quiet (startFrame host transfer) := by
  have pays : ∀ invocation : Invocation, Quiet (paying host transfer invocation) :=
    fun invocation => (quiet_onWorld _).bind fun _ => .branch quiet_runPrecompile (.pure _)
  refine (Keeps.frame _).bind fun invocation => .branch ?_ (pays invocation)
  exact (quiet_claimAddress _).bind fun _ => pays invocation

theorem quiet_depositCode : Quiet (depositCode host) := by
  refine (Keeps.frame _).bind fun frame => ?_
  have deposits : Quiet (do
      Run.chargeCost (host.schedule.codeDeposit frame.output.size)
      Run.onWorld (Access.writeCode host.refusals frame.invocation.recipient frame.output)) :=
    (quiet_chargeCost _).bind fun _ => quiet_onWorld _
  have checks : Quiet (do
      if !frame.output.isEmpty && Bytes.get frame.output 0 = reservedCodeByte then
        Run.halt .invalidContractPrefix
      Run.chargeCost (host.schedule.codeDeposit frame.output.size)
      Run.onWorld (Access.writeCode host.refusals frame.invocation.recipient frame.output)) :=
    .branch ((Keeps.halt _).bind fun _ => deposits) deposits
  exact .branch ((Keeps.halt _).bind fun _ => checks) checks

theorem quiet_stopFrame : Quiet (stopFrame host) := by
  have succeeds : Quiet (Run.frame (Outcome.ofFrame · .success)) := .frame _
  refine (Keeps.frame _).bind fun creates => .branch ?_ succeeds
  refine quiet_depositCode.attempt.bind fun answer => ?_
  cases answer with
  | ok nothing => exact succeeds
  | error cause => exact quiet_failFrame cause

/-- A halt that is queued on the parent is not reported by it. -/
theorem quiet_queueOnParent (halt : Halt) : Quiet (queueOnParent halt) := by
  intro machine
  unfold queueOnParent
  rw [bind_of_ok (get_apply machine)]
  cases layers : machine.suspended with
  | nil => rfl
  | cons parent others =>
      simp only [Machine.tracing, layers]
      rfl

theorem quiet_applyActions {actions : List OutcomeAction} (outcome : Outcome)
    (discreet : ∀ event, .note event ∈ actions → event.isReported = false) :
    Quiet (applyActions actions outcome) := by
  induction actions generalizing outcome with
  | nil => exact .pure _
  | cons action rest inductionHypothesis =>
      have later := fun event member => discreet event (List.mem_cons_of_mem _ member)
      cases action with
      | note event =>
          exact (quiet_record (discreet event List.mem_cons_self)).bind fun _ =>
            inductionHypothesis _ later
      | replaceOutput output => exact inductionHypothesis _ later
      | queue halt =>
          exact (quiet_queueOnParent halt).bind fun _ => (quiet_record rfl).bind fun _ =>
            inductionHypothesis _ later
      | fail cause => exact .throw _

theorem quiet_settle (discreet : host.Discreet) (outcome : Outcome) :
    Quiet (settle host outcome) := by
  unfold settle
  cases acts : host.overrides.outcome with
  | none => exact .pure _
  | some hook =>
      have consults : ∀ outcome, Quiet (consult hook outcome) := fun outcome machine =>
        quiet_applyActions outcome (discreet hook acts machine outcome) machine
      have again : ∀ outcome : Outcome, Quiet
          (if !outcome.isSuccess then consult hook outcome >>= Pure.pure
          else Pure.pure outcome) :=
        fun _ => .branch ((consults _).bind .pure) (.pure _)
      refine .branch ((consults _).attempt.bind fun answer => ?_) (again outcome)
      cases answer with
      | ok settled => exact again settled
      | error cause => exact (quiet_failFrame cause).bind again

/-- A frame that is closed reports its exit, and one that is not is left as it was. -/
theorem tracing_of_exitFrame (traced : host.isTraced = true) (outcome : Outcome)
    (machine : Machine) :
    (∃ closed, exitFrame host outcome machine = .ok () closed ∧
      closed.tracing = machine.tracing.exit outcome) ∨
    ∃ cause, exitFrame host outcome machine = .error cause machine := by
  rcases exitFrame_cases host outcome machine with ⟨closed, exits, closes⟩ | ⟨cause, fails, _⟩
  · refine .inl ⟨closed, exits, ?_⟩
    cases closes with
    | kept world _ _ => exact Machine.tracing_reported traced outcome _
    | undone world _ _ => exact Machine.tracing_reported traced outcome _
  · exact .inr ⟨cause, fails⟩

/-- Between its entry and its end a frame reports what its instructions report, if it has any. -/
theorem tracing_of_concluding (body : Run Outcome) (transfer : Transfer) (machine : Machine) :
    (reached (concluding host body transfer machine)).tracing =
      match startFrame host transfer machine with
      | .ok none started => (reached (body started)).tracing
      | _ => machine.tracing := by
  have quiet := @quiet_startFrame host transfer machine
  cases starts : startFrame host transfer machine with
  | error cause started =>
      rw [starts] at quiet
      rw [concluding_of_error starts, quiet_failFrame cause started]
      exact quiet
  | ok answer started =>
      rw [starts] at quiet
      rw [concluding_of_ok starts]
      cases answer with
      | none => rfl
      | some outcome => exact quiet

/-- A frame reports its entry, then what happens in it, and then its exit if it is closed. -/
theorem tracing_of_runFrame (traced : host.isTraced = true) (discreet : host.Discreet)
    (body : Run Outcome) (transfer : Transfer) (machine : Machine) :
    (reached (runFrame host body transfer machine)).tracing =
      (reached (concluding host body transfer (machine.opened host))).tracing.leave
        (outcome? (runFrame host body transfer machine)) := by
  rw [runFrame_apply]
  cases concludes : concluding host body transfer (machine.opened host) with
  | error cause ended =>
      rw [bind_of_error concludes]
      rfl
  | ok outcome ended =>
      rw [bind_of_ok concludes]
      have quiet := quiet_settle discreet outcome ended
      cases settles : settle host outcome ended with
      | error cause failed =>
          rw [bind_of_error settles]
          rw [settles] at quiet
          exact quiet
      | ok settled ready =>
          rw [bind_of_ok settles]
          rw [settles] at quiet
          rcases tracing_of_exitFrame traced settled ready with
            ⟨closed, exits, shown⟩ | ⟨cause, fails⟩
          · rw [bind_of_ok exits]
            exact shown.trans (congrArg (·.exit settled) quiet)
          · rw [bind_of_error fails]
            exact quiet

end Interpreter

end CancunMachine
