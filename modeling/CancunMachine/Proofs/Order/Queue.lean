import Mathlib.Tactic
import CancunMachine.Proofs.Order.Frame

/-!
# Halts in the queue of a parent

A collaborator reaches the frames that wait in one way only: it queues halts on the innermost of
them. So a frame gives all frames behind it back as they were, except that the last halt that was
queued while it was settled stands in its parent.
-/

namespace CancunMachine

open Ending

/-- The halts that actions queue, in this order; what stands behind a failure is not done. -/
def OutcomeAction.queued : List OutcomeAction → List Halt
  | [] => []
  | .note _ :: rest => queued rest
  | .replaceOutput _ :: rest => queued rest
  | .queue halt :: rest => halt :: queued rest
  | .fail _ :: _ => []

/-- A frame in which halts have been queued; the last one counts. -/
def Frame.queueing (halts : List Halt) (frame : Frame) : Frame :=
  { frame with queuedHalt := halts.getLast?.or frame.queuedHalt }

/-- Frames that wait, once halts have been queued on the innermost of them. -/
def queueing (halts : List Halt) : List Frame → List Frame
  | [] => []
  | parent :: others => parent.queueing halts :: others

@[simp]
theorem queueing_nil (waiting : List Frame) : queueing [] waiting = waiting := by
  cases waiting <;> rfl

theorem queueing_append (early late : List Halt) (waiting : List Frame) :
    queueing (early ++ late) waiting = queueing late (queueing early waiting) := by
  cases waiting with
  | nil => rfl
  | cons parent others => simp [queueing, Frame.queueing, Option.or_assoc]

theorem Keeps.suspended {Alpha : Type} {action : Run Alpha}
    (keeps : Keeps Machine.setting action) : Keeps Machine.suspended action :=
  fun machine => congrArg Prod.fst (keeps machine)

namespace Interpreter

variable {host : Host} {hook : OutcomeHook} {machine final : Machine} {outcome settled : Outcome}

/-- The outcome of a successful frame that a collaborator fails, and the machine at which it sees
it again. -/
def failedAgain? (hook : OutcomeHook) (outcome : Outcome) (machine : Machine) :
    Option (Outcome × Machine) :=
  match consult hook outcome machine with
  | .ok _ _ => none
  | .error cause middle =>
      match failFrame cause middle with
      | .ok failed final => some (failed, final)
      | .error _ _ => none

/-- The halts that are queued on the parent of a frame while its outcome is settled, in this
order. -/
def queuedBy (host : Host) (outcome : Outcome) (machine : Machine) : List Halt :=
  match host.overrides.outcome with
  | none => []
  | some hook =>
      OutcomeAction.queued (hook machine outcome) ++
        if outcome.isSuccess then
          (failedAgain? hook outcome machine).elim [] fun again =>
            OutcomeAction.queued (hook again.2 again.1)
        else []

theorem suspended_of_queueOnParent (halt : Halt) (machine : Machine) :
    ∃ accepted, queueOnParent halt machine =
      .ok accepted { machine with suspended := queueing [halt] machine.suspended } := by
  unfold queueOnParent
  rw [bind_of_ok (get_apply machine)]
  obtain ⟨frame, suspended, substate, world, warmth, cache, pool, events⟩ := machine
  cases suspended with
  | nil => exact ⟨false, rfl⟩
  | cons parent others => exact ⟨true, rfl⟩

/-- The last halt that actions queue stands in the parent, however they end. -/
theorem suspended_of_applyActions (actions : List OutcomeAction) (outcome : Outcome)
    (machine : Machine) :
    (reached (applyActions actions outcome machine)).suspended =
      queueing (OutcomeAction.queued actions) machine.suspended := by
  induction actions generalizing outcome machine with
  | nil => exact (queueing_nil _).symm
  | cons action rest inductionHypothesis =>
      cases action with
      | note event => exact inductionHypothesis outcome _
      | replaceOutput output => exact inductionHypothesis _ machine
      | queue halt =>
          obtain ⟨accepted, queues⟩ := suspended_of_queueOnParent halt machine
          unfold applyActions
          rw [bind_of_ok queues, bind_of_ok (Run.record_apply _ _)]
          have later := queueing_append [halt] (OutcomeAction.queued rest) machine.suspended
          exact (inductionHypothesis outcome _).trans later.symm
      | fail cause => exact (queueing_nil _).symm

theorem suspended_of_consult (hook : OutcomeHook) (outcome : Outcome) (machine : Machine) :
    (reached (consult hook outcome machine)).suspended =
      queueing (OutcomeAction.queued (hook machine outcome)) machine.suspended :=
  suspended_of_applyActions (hook machine outcome) outcome machine

theorem frame_of_applyActions (actions : List OutcomeAction) (outcome : Outcome) :
    Keeps Machine.frame (applyActions actions outcome) := by
  have records : ∀ event, Keeps Machine.frame (Run.record event) := fun _ _ => rfl
  induction actions generalizing outcome with
  | nil => exact .pure _
  | cons action rest inductionHypothesis =>
      cases action with
      | note event => exact (records _).bind fun _ => inductionHypothesis _
      | replaceOutput output => exact inductionHypothesis _
      | queue halt =>
          refine Keeps.bind (fun machine => ?_) fun _ => (records _).bind fun _ =>
            inductionHypothesis _
          obtain ⟨accepted, queues⟩ := suspended_of_queueOnParent halt machine
          rw [queues]
          rfl
      | fail cause => exact .throw _

theorem frame_of_consult (hook : OutcomeHook) (outcome : Outcome) :
    Keeps Machine.frame (consult hook outcome) :=
  fun machine => frame_of_applyActions (hook machine outcome) outcome machine

/-- Actions may replace the output of a frame, but neither its verdict nor its gas. -/
theorem verdict_of_applyActions {actions : List OutcomeAction}
    (acts : applyActions actions outcome machine = .ok settled final) :
    settled.verdict = outcome.verdict ∧ settled.gasRemaining = outcome.gasRemaining := by
  induction actions generalizing outcome machine with
  | nil =>
      cases acts
      exact ⟨rfl, rfl⟩
  | cons action rest inductionHypothesis =>
      unfold applyActions at acts
      cases action with
      | note event => exact inductionHypothesis acts
      | replaceOutput output =>
          have kept := inductionHypothesis
            (show applyActions rest { outcome with output } machine = .ok settled final from acts)
          exact kept
      | queue halt =>
          obtain ⟨_, _, _, acts⟩ := bind_eq_ok.mp acts
          exact inductionHypothesis acts
      | fail cause => cases acts

theorem verdict_of_consult (consults : consult hook outcome machine = .ok settled final) :
    settled.verdict = outcome.verdict ∧ settled.gasRemaining = outcome.gasRemaining :=
  verdict_of_applyActions consults

/-- What is done with a failed frame, or with a successful one that has been accepted. -/
theorem settle_of_unwatched (unwatched : host.overrides.outcome = none) :
    settle host outcome machine = .ok outcome machine := by
  unfold settle
  rw [unwatched]
  rfl

theorem settle_of_failure (watched : host.overrides.outcome = some hook)
    (fails : outcome.isSuccess = false) :
    settle host outcome machine = consult hook outcome machine := by
  unfold settle
  simp only [watched, fails, Bool.false_eq_true, if_false, Bool.not_false, if_true]
  cases ended : consult hook outcome machine with
  | error cause failed => rw [bind_of_error ended]
  | ok settled final =>
      rw [bind_of_ok ended]
      rfl

theorem settle_of_accepted (watched : host.overrides.outcome = some hook)
    (succeeds : outcome.isSuccess = true)
    (accepts : consult hook outcome machine = .ok settled final) :
    settle host outcome machine = .ok settled final := by
  have verdict := (verdict_of_consult accepts).1
  have still : settled.isSuccess = true := by
    rw [← succeeds, Outcome.isSuccess, Outcome.isSuccess, verdict]
  unfold settle
  simp only [watched, succeeds, if_true]
  rw [bind_of_ok (Run.attempt_of_ok accepts)]
  simp only [still, Bool.not_true, Bool.false_eq_true, if_false]
  rfl

/-- A frame that has failed has an outcome that says so. -/
theorem verdict_of_failFrame {cause : Failure}
    (fails : failFrame cause machine = .ok outcome final) : outcome.verdict = .failure cause := by
  unfold failFrame at fails
  by_cases fatal : cause.endsMessage = true
  · simp only [if_pos fatal] at fails
    cases fails
  · simp only [if_neg fatal] at fails
    cases reverts : cause.isRevert <;> simp only [reverts] at fails <;> cases fails <;> rfl

theorem isSuccess_of_failFrame {cause : Failure}
    (fails : failFrame cause machine = .ok outcome final) : outcome.isSuccess = false := by
  rw [Outcome.isSuccess, verdict_of_failFrame fails]

/-- A successful frame that its collaborator fails is seen by it once more as a failed one. -/
theorem settle_of_refused {cause : Failure} {middle : Machine}
    (watched : host.overrides.outcome = some hook) (succeeds : outcome.isSuccess = true)
    (refuses : consult hook outcome machine = .error cause middle) :
    settle host outcome machine = (failFrame cause >>= consult hook) middle := by
  have again : settle host outcome machine = (do
      let failed ← failFrame cause
      if !failed.isSuccess then consult hook failed else return failed) middle := by
    unfold settle
    simp only [watched, succeeds, if_true, bind_pure]
    rw [bind_of_ok (Run.attempt_of_error refuses)]
  rw [again]
  cases fails : failFrame cause middle with
  | error reason final => rw [bind_of_error fails, bind_of_error fails]
  | ok failed final =>
      rw [bind_of_ok fails, bind_of_ok fails]
      simp only [isSuccess_of_failFrame fails, Bool.not_false, if_true]

/-- Settling the outcome of a frame changes nothing behind it but the queue of its parent. -/
theorem suspended_of_settle (outcome : Outcome) (machine : Machine) :
    (reached (settle host outcome machine)).suspended =
      queueing (queuedBy host outcome machine) machine.suspended := by
  unfold queuedBy
  cases watched : host.overrides.outcome with
  | none =>
      rw [settle_of_unwatched watched]
      exact (queueing_nil _).symm
  | some hook =>
      have first := suspended_of_consult hook outcome machine
      cases succeeds : outcome.isSuccess with
      | false =>
          rw [settle_of_failure watched succeeds]
          simpa only [Bool.false_eq_true, if_false, List.append_nil] using first
      | true =>
          simp only [if_true, failedAgain?]
          cases consults : consult hook outcome machine with
          | ok settled final =>
              rw [consults] at first
              rw [settle_of_accepted watched succeeds consults]
              simpa only [Option.elim_none, List.append_nil] using first
          | error cause middle =>
              rw [consults] at first
              rw [settle_of_refused watched succeeds consults]
              have waits := (setting_of_failFrame cause).suspended middle
              cases fails : failFrame cause middle with
              | error reason final =>
                  rw [fails] at waits
                  rw [bind_of_error fails]
                  simpa only [fails, Option.elim_none, List.append_nil] using waits.trans first
              | ok failed final =>
                  rw [fails] at waits
                  have second := suspended_of_consult hook failed final
                  have same : final.suspended =
                      queueing (OutcomeAction.queued (hook machine outcome)) machine.suspended :=
                    waits.trans first
                  rw [same, ← queueing_append] at second
                  rw [bind_of_ok fails]
                  simpa only [fails, Option.elim_some] using second

theorem suspended_of_exitFrame (outcome : Outcome) :
    Keeps Machine.suspended (exitFrame host outcome) := by
  intro machine
  rcases exitFrame_cases host outcome machine with ⟨closed, exits, closes⟩ | ⟨cause, fails, _⟩
  · rw [exits]
    exact closes.suspended
  · rw [fails]
    rfl

theorem suspended_of_concluding {body : Run Outcome} (transfer : Transfer)
    (runs : Keeps Machine.suspended body) :
    Keeps Machine.suspended (concluding host body transfer) := by
  refine (setting_of_startFrame transfer).suspended.attempt.bind fun answer => ?_
  rcases answer with cause | _ | outcome
  · exact (setting_of_failFrame cause).suspended
  · exact runs
  · exact .pure outcome

/-- A frame is opened, comes to an outcome, and is closed once the outcome has been settled. -/
theorem runFrame_apply (body : Run Outcome) (transfer : Transfer) (machine : Machine) :
    runFrame host body transfer machine = (do
      let outcome ← concluding host body transfer
      let outcome ← settle host outcome
      exitFrame host outcome
      return outcome) (machine.opened host) := by
  unfold runFrame concluding
  rw [bind_of_ok (openFrame_apply machine), bind_assoc]
  cases attempted : Run.attempt (startFrame host transfer) (machine.opened host) with
  | error cause started => exact absurd attempted Run.attempt_ne_error
  | ok answer started =>
      rw [bind_of_ok attempted, bind_of_ok attempted]
      rcases answer with cause | _ | outcome <;> rfl

/-- The halts that are queued on the parent of a frame that is run from its entry on. -/
def queuedByFrame (host : Host) (body : Run Outcome) (transfer : Transfer) (entered : Machine) :
    List Halt :=
  match concluding host body transfer (entered.opened host) with
  | .ok outcome ended => queuedBy host outcome ended
  | .error _ _ => []

/-- A frame leaves the frames behind it as they were, up to the queue of its parent. -/
theorem suspended_of_runFrame {body : Run Outcome} (transfer : Transfer) (machine : Machine)
    (runs : Keeps Machine.suspended body) :
    (reached (runFrame host body transfer machine)).suspended =
      queueing (queuedByFrame host body transfer machine) machine.suspended := by
  have waits : (reached (concluding host body transfer (machine.opened host))).suspended =
      machine.suspended := suspended_of_concluding transfer runs (machine.opened host)
  rw [runFrame_apply, queuedByFrame]
  cases concludes : concluding host body transfer (machine.opened host) with
  | error cause failed =>
      rw [concludes] at waits
      rw [bind_of_error concludes]
      exact waits.trans (queueing_nil _).symm
  | ok outcome ended =>
      rw [concludes] at waits
      have same : ended.suspended = machine.suspended := waits
      have settles : (reached (settle host outcome ended)).suspended =
          queueing (queuedBy host outcome ended) ended.suspended :=
        suspended_of_settle outcome ended
      rw [same] at settles
      rw [bind_of_ok concludes, ← settles]
      cases settled : settle host outcome ended with
      | error cause failed => rw [bind_of_error settled]
      | ok shown closing =>
          rw [bind_of_ok settled]
          have exits : Keeps Machine.suspended (do
              exitFrame host shown
              return shown) := (suspended_of_exitFrame shown).bind fun _ => .pure _
          exact exits closing

end Interpreter

end CancunMachine
