import Mathlib.Tactic
import CancunMachine.Proofs.Tracing.Story

/-!
# Stories that are told to the end

A frame that is entered is also left, unless the message is aborted or the collaborator at the end
of frames fails a failed frame once more. If it never does the latter, then the story of a run that
comes to an outcome has an end for every frame. Children are one level below their parents and
numbered downwards, and the deeds of a story are those of the history of the run.
-/

namespace CancunMachine

open Ending

namespace Story

/-- Every frame below the one that is told of was left. -/
inductive Settled : Story → Prop
  | nothing : Settled .nothing
  | deed {done : Deed} {rest : Story} : rest.Settled → Settled (.deed done rest)
  | child {label : Nat} {invocation : Invocation} {inside rest : Story} {outcome : Outcome} :
      inside.Settled → rest.Settled →
      Settled (.child label invocation inside (some outcome) rest)

/-- The children of a frame are at a depth, and those below them level after level further down. -/
inductive Descends : Nat → Story → Prop
  | nothing {depth : Nat} : Descends depth .nothing
  | deed {depth : Nat} {done : Deed} {rest : Story} :
      Descends depth rest → Descends depth (.deed done rest)
  | child {label : Nat} {invocation : Invocation} {inside rest : Story}
      {outcome? : Option Outcome} :
      Descends (invocation.depth + 1) inside → Descends invocation.depth rest →
      Descends invocation.depth (.child label invocation inside outcome? rest)

/-- The labels of children go down, so that no two children of a frame share theirs. -/
inductive Counted : Nat → Story → Prop
  | nothing {bound : Nat} : Counted bound .nothing
  | deed {bound : Nat} {done : Deed} {rest : Story} :
      Counted bound rest → Counted bound (.deed done rest)
  | child {bound label : Nat} {invocation : Invocation} {inside rest : Story}
      {outcome? : Option Outcome} :
      label < bound → Counted label inside → Counted label rest →
      Counted bound (.child label invocation inside outcome? rest)

theorem Counted.mono {bound larger : Nat} {story : Story} (counted : story.Counted bound)
    (le : bound ≤ larger) : story.Counted larger := by
  induction counted with
  | nothing => exact .nothing
  | deed _ inductionHypothesis => exact .deed (inductionHypothesis le)
  | child below inside rest => exact .child (below.trans_le le) inside rest

end Story

/-- The collaborator at the end of frames does not fail a frame that has failed, unless it ends the
message. -/
def Host.Lenient (host : Host) : Prop :=
  ∀ hook, host.overrides.outcome = some hook → ∀ machine outcome cause,
    outcome.isSuccess = false → .fail cause ∈ hook machine outcome → cause.endsMessage = true

/-- An action that fails only with what ends the message. -/
def FailsFatally {Alpha : Type} (action : Run Alpha) : Prop :=
  ∀ machine cause final, action machine = .error cause final → cause.endsMessage = true

theorem FailsFatally.bind {Alpha Beta : Type} {first : Run Alpha} {next : Alpha → Run Beta}
    (early : FailsFatally first) (late : ∀ value, FailsFatally (next value)) :
    FailsFatally (first >>= next) := by
  intro machine cause final failed
  rcases bind_eq_error.mp failed with stuck | ⟨value, middle, _, rest⟩
  · exact early _ _ _ stuck
  · exact late value _ _ _ rest

theorem failsFatally_attempt {Alpha : Type} (action : Run Alpha) :
    FailsFatally (Run.attempt action) :=
  fun _ _ _ failed => absurd failed Run.attempt_ne_error

theorem failsFatally_pure {Alpha : Type} (value : Alpha) :
    FailsFatally (pure value : Run Alpha) := fun _ _ _ failed => by cases failed

theorem failsFatally_frame {Alpha : Type} (question : Frame → Alpha) :
    FailsFatally (Run.frame question) := fun _ _ _ failed => by cases failed

namespace Interpreter

variable {host : Host} {body : Run Outcome} {transfer : Transfer}

theorem failsFatally_failFrame (cause : Failure) : FailsFatally (failFrame cause) := by
  intro machine shown final failed
  cases ends : cause.endsMessage with
  | true =>
      rw [failFrame_of_fatal ends] at failed
      cases failed
      exact ends
  | false =>
      have returns : ∃ outcome closed, failFrame cause machine = .ok outcome closed := by
        unfold failFrame
        rw [if_neg (by simp [ends])]
        cases cause.isRevert <;> exact ⟨_, _, rfl⟩
      obtain ⟨outcome, closed, ended⟩ := returns
      rw [ended] at failed
      cases failed

theorem failsFatally_stopFrame : FailsFatally (stopFrame host) := by
  refine (failsFatally_frame _).bind fun creates => ?_
  have succeeds : FailsFatally (Run.frame (Outcome.ofFrame · .success)) := failsFatally_frame _
  split
  · refine (failsFatally_attempt _).bind fun answer => ?_
    cases answer with
    | ok nothing => exact succeeds
    | error cause => exact failsFatally_failFrame cause
  · exact succeeds

/-- The instructions of a frame end the message or bring the frame to an outcome. -/
theorem failsFatally_run (budget : Nat) : FailsFatally (run host budget) := by
  induction budget with
  | zero =>
      intro machine cause final failed
      cases failed
      rfl
  | succ budget inductionHypothesis =>
      intro machine cause final failed
      rw [run_succ] at failed
      split at failed
      · exact inductionHypothesis _ _ _ failed
      · exact failsFatally_stopFrame _ _ _ failed
      · exact failsFatally_failFrame _ _ _ _ failed

theorem failsFatally_concluding (fatal : FailsFatally body) :
    FailsFatally (concluding host body transfer) := by
  refine (failsFatally_attempt _).bind fun answer => ?_
  rcases answer with cause | _ | outcome
  · exact failsFatally_failFrame cause
  · exact fatal
  · exact failsFatally_pure outcome

/-- What a collaborator fails with is among the things that it asked for. -/
theorem fail_mem_of_applyActions {actions : List OutcomeAction} {outcome : Outcome}
    {machine final : Machine} {cause : Failure}
    (failed : applyActions actions outcome machine = .error cause final) :
    .fail cause ∈ actions := by
  induction actions generalizing outcome machine with
  | nil => cases failed
  | cons action rest inductionHypothesis =>
      cases action with
      | note event =>
          rcases bind_eq_error.mp failed with stuck | ⟨_, _, _, later⟩
          · cases stuck
          · exact List.mem_cons_of_mem _ (inductionHypothesis later)
      | replaceOutput output => exact List.mem_cons_of_mem _ (inductionHypothesis failed)
      | queue halt =>
          rcases bind_eq_error.mp failed with stuck | ⟨_, _, _, later⟩
          · unfold queueOnParent at stuck
            rw [bind_of_ok (get_apply machine)] at stuck
            cases layers : machine.suspended <;> simp only [layers] at stuck <;> cases stuck
          rcases bind_eq_error.mp later with stuck | ⟨_, _, _, rest⟩
          · cases stuck
          · exact List.mem_cons_of_mem _ (inductionHypothesis rest)
      | fail other =>
          cases failed
          exact List.mem_cons_self

theorem failsFatally_settle (lenient : host.Lenient) (outcome : Outcome) :
    FailsFatally (settle host outcome) := by
  unfold settle
  cases acts : host.overrides.outcome with
  | none => exact failsFatally_pure _
  | some hook =>
      have again : ∀ outcome : Outcome, FailsFatally
          (if !outcome.isSuccess then consult hook outcome >>= Pure.pure
          else Pure.pure outcome) := by
        intro outcome
        cases succeeds : outcome.isSuccess with
        | true => exact failsFatally_pure outcome
        | false =>
            refine FailsFatally.bind ?_ failsFatally_pure
            intro machine cause final failed
            exact lenient hook acts machine outcome cause succeeds
              (fail_mem_of_applyActions failed)
      simp only
      split
      · refine (failsFatally_attempt _).bind fun answer => ?_
        cases answer with
        | ok settled => exact again settled
        | error cause => exact (failsFatally_failFrame cause).bind again
      · exact again outcome

theorem failsFatally_exitFrame (outcome : Outcome) : FailsFatally (exitFrame host outcome) := by
  intro machine cause final failed
  rcases exitFrame_cases host outcome machine with ⟨closed, exits, _⟩ | ⟨shown, fails, fatal⟩
  · rw [exits] at failed
    cases failed
  · rw [fails] at failed
    cases failed
    exact fatal

/-- With a lenient collaborator a frame is left or the message ends. -/
theorem failsFatally_runFrame (lenient : host.Lenient) (fatal : FailsFatally body) :
    FailsFatally (runFrame host body transfer) := by
  intro machine cause final failed
  rw [runFrame_apply] at failed
  refine FailsFatally.bind (failsFatally_concluding fatal) (fun outcome => ?_) _ _ _ failed
  exact (failsFatally_settle lenient outcome).bind fun settled =>
    (failsFatally_exitFrame settled).bind fun _ => failsFatally_pure _

end Interpreter

namespace Instruction

variable {host : Host} {enter : Transfer → Run Outcome} {opcode : Opcode}
  {machine ready : Machine} {entry : Entry}

theorem failsFatally_resume : FailsFatally (resume host) := by
  intro machine cause final failed
  cases layers : machine.suspended with
  | nil =>
      unfold resume at failed
      rw [bind_of_ok (get_apply machine)] at failed
      simp only [layers] at failed
      cases failed
      rfl
  | cons parent others =>
      rw [resume_of_suspended layers] at failed
      cases failed

/-- If a child is not left, then the instruction that has started it ends the message. -/
theorem endsMessage_of_unsettled (fatal : ∀ transfer, FailsFatally (enter transfer))
    (starts : opcode.startsChild = true)
    (prepares : preparation host opcode machine = .ok (some entry) ready) {cause : Failure}
    {closed : Machine}
    (fails : enter entry.transfer (ready.entering entry.child) = .error cause closed) :
    ∃ shown final, execute host enter opcode machine = .error shown final ∧
      shown.endsMessage = true := by
  obtain ⟨finish, _, executes⟩ := execute_of_entry starts prepares
  have stuck : ∃ shown final, runChild host enter entry.child entry.transfer ready =
      .error shown final ∧ shown.endsMessage = true := by
    unfold runChild
    rw [bind_of_ok (suspend_apply _ _), bind_of_ok (Run.attempt_of_error fails)]
    cases resumes : resume host closed with
    | error other final =>
        exact ⟨other, final, bind_of_error resumes, failsFatally_resume _ _ _ resumes⟩
    | ok _ returned =>
        rw [bind_of_ok resumes]
        exact ⟨cause, returned, rfl, fatal _ _ _ _ fails⟩
  obtain ⟨shown, final, stuck, ends⟩ := stuck
  rw [executes]
  exact ⟨shown, final, bind_of_error stuck, ends⟩

end Instruction

namespace Interpreter

variable {host : Host} {below : Machine → Story} {body : Run Outcome} {transfer : Transfer}
  {machine : Machine}

/-- The story of a frame that is left is told to the end if those of its instructions are. -/
theorem settled_of_frame
    (inside : ∀ machine outcome final, body machine = .ok outcome final → (below machine).Settled)
    {outcome : Outcome} {final : Machine}
    (done : runFrame host body transfer machine = .ok outcome final) :
    (bodyStory host below transfer (machine.opened host)).Settled := by
  rw [runFrame_apply] at done
  obtain ⟨shown, ended, concludes, _⟩ := bind_eq_ok.mp done
  unfold bodyStory
  cases starts : startFrame host transfer (machine.opened host) with
  | error cause started => exact .nothing
  | ok answer started =>
      rw [concluding_of_ok starts] at concludes
      cases answer with
      | some other => exact .nothing
      | none => exact inside started shown ended concludes

theorem settled_of_own (opcode : Opcode) (before : Machine)
    (executed : EStateM.Result Failure Machine Signal) {rest : Story} (later : rest.Settled) :
    (ownStory opcode before executed rest).Settled := by
  cases executed with
  | error cause after => exact later
  | ok signal after =>
      simp only [ownStory]
      cases opcode.deed? before.frame after.frame with
      | none => exact later
      | some deed => exact .deed later

/-- An instruction that does not end the message has seen its child to the end. -/
theorem settled_of_child (lenient : host.Lenient) (fatal : FailsFatally body)
    (inside : ∀ machine outcome final, body machine = .ok outcome final → (below machine).Settled)
    {opcode : Opcode}
    (goesOn : ∀ cause final, Instruction.execute host (runFrame host body) opcode machine =
      .error cause final → cause.endsMessage = false)
    (label : Nat) {rest : Story} (later : rest.Settled) :
    (childStory host label below body (Instruction.preparation host opcode machine)
      rest).Settled := by
  cases prepares : Instruction.preparation host opcode machine with
  | error cause ready => exact later
  | ok answer ready =>
      cases answer with
      | none => exact later
      | some entry =>
          have starts : opcode.startsChild = true := by
            by_contra alone
            rw [Instruction.preparation_of_alone (by simpa using alone)] at prepares
            cases prepares
          cases runs : runFrame host body entry.transfer (ready.entering entry.child) with
          | ok outcome closed =>
              simp only [childStory, runs]
              exact .child (settled_of_frame inside runs) later
          | error cause closed =>
              have leaves : ∀ transfer, FailsFatally (runFrame host body transfer) :=
                fun _ => failsFatally_runFrame lenient fatal
              obtain ⟨shown, final, executes, ends⟩ :=
                Instruction.endsMessage_of_unsettled leaves starts prepares runs
              rw [goesOn shown final executes] at ends
              cases ends

/-- The story of a frame that comes to an outcome is told to the end. -/
theorem settled_of_run (lenient : host.Lenient) (budget : Nat) :
    ∀ machine outcome final, run host budget machine = .ok outcome final →
      (story host budget machine).Settled := by
  induction budget with
  | zero => exact fun _ _ _ _ => .nothing
  | succ budget inductionHypothesis =>
      intro machine outcome final done
      rw [run_succ] at done
      have goesOn : ∀ cause next, Instruction.execute host (runFrame host (run host budget))
          machine.nextOpcode machine.fetched = .error cause next →
            cause.endsMessage = false := by
        intro cause next executes
        rw [executes] at done
        by_contra ends
        have fatal : failFrame cause next = .error cause next :=
          failFrame_of_fatal (by simpa using ends) next
        cases fatal.symm.trans done
      have later : (laterStory (story host budget) (Instruction.execute host
          (runFrame host (run host budget)) machine.nextOpcode machine.fetched)).Settled := by
        cases executes : Instruction.execute host (runFrame host (run host budget))
            machine.nextOpcode machine.fetched with
        | error cause next => exact .nothing
        | ok signal next =>
            cases signal with
            | stop => exact .nothing
            | proceed =>
                rw [executes] at done
                exact inductionHypothesis next outcome final done
      rw [story]
      exact settled_of_child lenient (failsFatally_run budget) inductionHypothesis goesOn budget
        (settled_of_own _ _ _ later)

theorem descends_of_own (opcode : Opcode) (before : Machine)
    (executed : EStateM.Result Failure Machine Signal) {depth : Nat} {rest : Story}
    (later : rest.Descends depth) : (ownStory opcode before executed rest).Descends depth := by
  cases executed with
  | error cause after => exact later
  | ok signal after =>
      simp only [ownStory]
      cases opcode.deed? before.frame after.frame with
      | none => exact later
      | some deed => exact .deed later

theorem descends_of_body
    (inside : ∀ machine, machine.frame.isTracked = host.config.trackStateChanges →
      (below machine).Descends (machine.frame.invocation.depth + 1))
    (transfer : Transfer) (opened : Machine)
    (tracks : opened.frame.isTracked = host.config.trackStateChanges) :
    (bodyStory host below transfer opened).Descends (opened.frame.invocation.depth + 1) := by
  unfold bodyStory
  cases starts : startFrame host transfer opened with
  | error cause started => exact .nothing
  | ok answer started =>
      cases answer with
      | some outcome => exact .nothing
      | none =>
          have same := frame_of_startFrame starts
          have lower := inside started ((congrArg Frame.isTracked same).trans tracks)
          rwa [congrArg Frame.invocation same] at lower

/-- A child that an instruction has prepared is one level below its parent. -/
theorem descends_of_child
    (inside : ∀ machine, machine.frame.isTracked = host.config.trackStateChanges →
      (below machine).Descends (machine.frame.invocation.depth + 1))
    (label : Nat) (opcode : Opcode) {rest : Story}
    (later : rest.Descends (machine.frame.invocation.depth + 1)) :
    (childStory host label below body (Instruction.preparation host opcode machine)
      rest).Descends (machine.frame.invocation.depth + 1) := by
  cases prepares : Instruction.preparation host opcode machine with
  | error cause ready => exact later
  | ok answer ready =>
      cases answer with
      | none => exact later
      | some entry =>
          have kept := congrArg (·.running.invocation.depth)
            ((Instruction.quiet_preparation opcode).of_ok prepares)
          have deeper : entry.child.invocation.depth = machine.frame.invocation.depth + 1 :=
            (Instruction.preparation_eq_some prepares).2.legal.depth.trans (congrArg (· + 1) kept)
          rw [← deeper] at later ⊢
          exact .child (descends_of_body inside entry.transfer
            ((ready.entering entry.child).opened host) rfl) later

/-- The frames below a frame lie level after level beneath it. -/
theorem descends_of_run (traced : host.isTraced = true) (discreet : host.Discreet) (budget : Nat) :
    ∀ machine, machine.frame.isTracked = host.config.trackStateChanges →
      (story host budget machine).Descends (machine.frame.invocation.depth + 1) := by
  induction budget with
  | zero => exact fun _ _ => .nothing
  | succ budget inductionHypothesis =>
      intro machine tracks
      have fetches : machine.fetched.frame.isTracked = host.config.trackStateChanges := tracks
      obtain ⟨sameInvocation, stillTracks⟩ := context_of_execute traced discreet
        (follows_run traced discreet budget) fetches machine.nextOpcode
      have later : (laterStory (story host budget) (Instruction.execute host
          (runFrame host (run host budget)) machine.nextOpcode machine.fetched)).Descends
            (machine.fetched.frame.invocation.depth + 1) := by
        cases executes : Instruction.execute host (runFrame host (run host budget))
            machine.nextOpcode machine.fetched with
        | error cause next => exact .nothing
        | ok signal next =>
            cases signal with
            | stop => exact .nothing
            | proceed =>
                rw [executes] at sameInvocation stillTracks
                rw [← sameInvocation]
                exact inductionHypothesis next stillTracks
      have unmoved : machine.frame.invocation = machine.fetched.frame.invocation := rfl
      rw [unmoved, story]
      exact descends_of_child inductionHypothesis budget _ (descends_of_own _ _ _ later)

theorem counted_of_own (opcode : Opcode) (before : Machine)
    (executed : EStateM.Result Failure Machine Signal) {bound : Nat} {rest : Story}
    (later : rest.Counted bound) : (ownStory opcode before executed rest).Counted bound := by
  cases executed with
  | error cause after => exact later
  | ok signal after =>
      simp only [ownStory]
      cases opcode.deed? before.frame after.frame with
      | none => exact later
      | some deed => exact .deed later

theorem counted_of_body {bound : Nat} (inside : ∀ machine, (below machine).Counted bound)
    (transfer : Transfer) (opened : Machine) :
    (bodyStory host below transfer opened).Counted bound := by
  unfold bodyStory
  split
  · exact inside _
  · exact .nothing

/-- A child is labelled with what is left of the budget. -/
theorem counted_of_story (budget : Nat) (machine : Machine) :
    (story host budget machine).Counted budget := by
  induction budget generalizing machine with
  | zero => exact .nothing
  | succ budget inductionHypothesis =>
      have later : (laterStory (story host budget) (Instruction.execute host
          (runFrame host (run host budget)) machine.nextOpcode machine.fetched)).Counted
            budget := by
        unfold laterStory
        split
        · exact inductionHypothesis _
        · exact .nothing
      have rest := counted_of_own machine.nextOpcode machine.fetched (Instruction.execute host
        (runFrame host (run host budget)) machine.nextOpcode machine.fetched) later
      rw [story]
      unfold childStory
      split
      · exact .child (Nat.lt_succ_self budget) (counted_of_body inductionHypothesis _ _) rest
      · exact rest.mono (Nat.le_succ budget)

theorem happenings_of_own (name : FrameName) (opcode : Opcode) (before : Machine)
    (executed : EStateM.Result Failure Machine Signal) (rest : Story) :
    (ownStory opcode before executed rest).happenings name =
      ownHistory name opcode before executed ++ rest.happenings name := by
  cases executed with
  | error cause after => rfl
  | ok signal after =>
      simp only [ownStory, ownHistory]
      cases opcode.deed? before.frame after.frame <;> rfl

theorem happenings_of_body {name : FrameName} {told : Machine → List Happening}
    (inside : ∀ machine, (below machine).happenings name = told machine) (opened : Machine) :
    (bodyStory host below transfer opened).happenings name =
      bodyHistory host told transfer opened := by
  unfold bodyStory bodyHistory
  cases startFrame host transfer opened with
  | error cause started => rfl
  | ok answer started =>
      cases answer with
      | none => exact inside started
      | some outcome => rfl

theorem happenings_of_child {told : FrameName → Machine → List Happening}
    (inside : ∀ name machine, (below machine).happenings name = told name machine)
    (name : FrameName) (label : Nat)
    (prepared : EStateM.Result Failure Machine (Option Entry)) (rest : Story) :
    (childStory host label below body prepared rest).happenings name =
      childHistory host (label :: name) (told (label :: name)) body prepared ++
        rest.happenings name := by
  cases prepared with
  | error cause ready => rfl
  | ok answer ready =>
      cases answer with
      | none => rfl
      | some entry =>
          simp only [childStory, childHistory, frameHistory, Story.happenings,
            happenings_of_body (inside (label :: name))]
          cases runFrame host body entry.transfer (ready.entering entry.child) <;> rfl

theorem happenings_of_later {name : FrameName} {told : Machine → List Happening}
    (goesOn : ∀ machine, (below machine).happenings name = told machine)
    (executed : EStateM.Result Failure Machine Signal) :
    (laterStory below executed).happenings name = laterHistory told executed := by
  cases executed with
  | error cause next => rfl
  | ok signal next =>
      cases signal with
      | stop => rfl
      | proceed => exact goesOn next

/-- The deeds of a story are those of the history of the run. -/
theorem happenings_of_story (budget : Nat) (name : FrameName) (machine : Machine) :
    (story host budget machine).happenings name = history host budget name machine := by
  induction budget generalizing name machine with
  | zero => rfl
  | succ budget inductionHypothesis =>
      rw [story, history, happenings_of_child inductionHypothesis, happenings_of_own,
        happenings_of_later (inductionHypothesis name), List.append_assoc]

end Interpreter

end CancunMachine
