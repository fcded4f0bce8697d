import Mathlib.Tactic
import CancunMachine.Proofs.Lockstep
import CancunMachine.Proofs.Tracing.Settled

/-!
# The story of a message

What the collaborators do before and after a message is not reported, so the tracer of a message
hears the story of its outermost frame. A machine may execute its message again: after a run that
comes to a report it is as ready as it was when it was booted.
-/

namespace CancunMachine

open Ending

theorem quiet_forM {Alpha : Type} {action : Alpha → Run Unit} (quiet : ∀ value, Quiet (action value))
    (values : List Alpha) : Quiet (values.forM action) := by
  induction values with
  | nil => exact .pure _
  | cons value rest inductionHypothesis => exact (quiet value).bind fun _ => inductionHypothesis

theorem quiet_foldlM {Alpha Beta : Type} {action : Alpha → Beta → Run Alpha}
    (quiet : ∀ value element, Quiet (action value element)) (value : Alpha)
    (elements : List Beta) : Quiet (elements.foldlM action value) := by
  induction elements generalizing value with
  | nil => exact .pure _
  | cons element rest inductionHypothesis =>
      exact (quiet value element).bind fun next => inductionHypothesis next

namespace Interpreter

variable {host : Host}

/-- The story of the instructions of the outermost frame. -/
def wholeStory (host : Host) (started : Machine) : Story :=
  story host (stepBudget started.frame.gas) started

theorem follows_runInstructions (traced : host.isTraced = true) (discreet : host.Discreet) :
    Follows host (wholeStory host) (runInstructions host) := by
  intro machine tracks
  rw [runInstructions_apply]
  exact follows_run traced discreet _ machine tracks

end Interpreter

namespace Transaction

variable {host : Host} {machine ready final : Machine}

theorem tracing_of_prepare {hook : Hook} (done : prepare host hook machine = .ok () ready) :
    ready.tracing = machine.tracing := by
  cases hook with
  | settlement =>
      obtain ⟨warmth, rfl⟩ := (prepareSettlement_eq_ok done).counted
      rfl
  | recorder =>
      cases done
      rfl

theorem tracing_of_prepareAll (done : prepareAll host machine = .ok () ready) :
    ready.tracing = machine.tracing := by
  unfold prepareAll at done
  generalize host.hooks = hooks at done
  induction hooks generalizing machine with
  | nil =>
      cases done
      rfl
  | cons hook hooks inductionHypothesis =>
      obtain ⟨_, middle, first, rest⟩ := bind_eq_ok.mp done
      exact (inductionHypothesis rest).trans (tracing_of_prepare first)

theorem quiet_finalizeSettlement (outcome : Outcome) : Quiet (finalizeSettlement host outcome) := by
  rw [finalizeSettlement_eq]
  have destroys : Quiet (destroyAll host outcome) :=
    .branch (quiet_get.bind fun _ => quiet_forM (fun _ => quiet_onWorld _) _) (.pure _)
  exact destroys.bind fun _ => fun _ => rfl

theorem quiet_finalize (outcome : Outcome) (hook : Hook) : Quiet (finalize host outcome hook) := by
  cases hook with
  | settlement => exact quiet_finalizeSettlement outcome
  | recorder => exact quiet_get.bind fun _ => (quiet_record rfl).bind fun _ => .pure _

/-- A message that gets its report has been prepared, and its outermost frame has been left. -/
theorem closed_of_execute {report : Report} (done : execute host machine = .ok report final) :
    ∃ ready outcome closed, prepareAll host machine = .ok () ready ∧
      Interpreter.runOutermost host (payment host ready) ready = .ok outcome closed ∧
      final.tracing = closed.tracing := by
  obtain ⟨_, ready, prepares, rest⟩ := bind_eq_ok.mp done
  rw [bind_of_ok (Run.frame_apply _ _)] at rest
  obtain ⟨outcome, closed, runs, rest⟩ := bind_eq_ok.mp rest
  obtain ⟨settled, ended, finalizes, reports⟩ := bind_eq_ok.mp rest
  rw [report_apply] at reports
  cases reports
  exact ⟨ready, outcome, closed, prepares, runs,
    (quiet_foldlM quiet_finalize outcome host.hooks).of_ok finalizes⟩

/-- What happens while a message is executed, as a story of one frame. -/
def story (host : Host) (machine : Machine) : Story :=
  match prepareAll host machine with
  | .ok _ ready =>
      .child 0 ready.frame.invocation
        (Interpreter.bodyStory host (Interpreter.wholeStory host) (payment host ready)
          (ready.opened host))
        (outcome? (Interpreter.runOutermost host (payment host ready) ready)) .nothing
  | .error _ _ => .nothing

/-- What is known of a message that gets its report. -/
structure Told (host : Host) (machine final : Machine) (inside : Story) (outcome : Outcome) :
    Prop where
  story : story host machine =
    .child 0 machine.frame.invocation inside (some outcome) .nothing
  tracing : final.tracing =
    (inside.tell (machine.tracing.enter host.config.trackStateChanges)).exit outcome
  history : history host machine =
    inside.happenings [] ++ [⟨[], .left outcome.isSuccess⟩]
  descends : inside.Descends (machine.frame.invocation.depth + 1)
  settled : host.Lenient → inside.Settled
  counted : ∃ bound, inside.Counted bound

/-- The tracer of a message that gets its report has heard the story of its outermost frame. -/
theorem told_of_execute (traced : host.isTraced = true) (discreet : host.Discreet)
    {report : Report} (done : execute host machine = .ok report final) :
    ∃ inside outcome, Told host machine final inside outcome := by
  obtain ⟨ready, outcome, closed, prepares, runs, shown⟩ := closed_of_execute done
  obtain ⟨sameFrame, _⟩ := frame_of_prepareAll prepares
  have heard := Interpreter.tracing_of_frame traced discreet
    (Interpreter.follows_runInstructions traced discreet) (payment host ready) ready
  unfold Interpreter.runOutermost at runs
  rw [runs] at heard
  refine ⟨Interpreter.bodyStory host (Interpreter.wholeStory host) (payment host ready)
    (ready.opened host), outcome, ?_⟩
  constructor
  case story =>
    unfold story Interpreter.runOutermost
    simp only [prepares, runs, sameFrame, outcome?]
  case tracing =>
    rw [shown, ← tracing_of_prepareAll prepares]
    exact heard
  case history =>
    rw [history_of_prepareAll prepares, Interpreter.frameHistory, runs]
    exact congrArg (· ++ _) (Interpreter.happenings_of_body
      (fun started => Interpreter.happenings_of_story _ _ started) _).symm
  case descends =>
    rw [← sameFrame]
    exact Interpreter.descends_of_body
      (fun started tracks => Interpreter.descends_of_run traced discreet _ started tracks)
      (payment host ready) (ready.opened host) rfl
  case settled =>
    intro lenient
    refine Interpreter.settled_of_frame (fun started shown ended ran => ?_) runs
    rw [Interpreter.runInstructions_apply] at ran
    exact Interpreter.settled_of_run lenient _ _ _ _ ran
  case counted =>
    unfold Interpreter.bodyStory
    split
    · exact ⟨_, Interpreter.counted_of_story _ _⟩
    · exact ⟨0, .nothing⟩

/-- A machine that is ready to execute its message: it has been booted, or it has executed the
message before and has come to a report. -/
inductive Ready (host : Host) : Machine → Prop
  | booted {world : World} {cache : Cache} {machine : Machine} :
      boot host world cache = .ok machine → Ready host machine
  | again {machine final : Machine} {report : Report} :
      Ready host machine → execute host machine = .ok report final → Ready host final

/-- A machine that is ready runs the outermost frame, which has no write in store. -/
theorem Ready.unwritten (traced : host.isTraced = true) (discreet : host.Discreet)
    (isReady : Ready host machine) :
    machine.frame.invocation.depth = 0 ∧ machine.frame.lastWrite = none := by
  induction isReady with
  | booted booted =>
      refine ⟨depth_of_boot booted, ?_⟩
      rw [(boot_eq_ok booted).fresh]
      rfl
  | again _ done inductionHypothesis =>
      obtain ⟨inside, outcome, told⟩ := told_of_execute traced discreet done
      have running := congrArg (·.running) told.tracing
      exact ⟨(congrArg (·.invocation.depth) running).trans inductionHypothesis.1,
        congrArg (·.lastWrite) running⟩

end Transaction

end CancunMachine
