import Mathlib.Tactic
import CancunMachine.Proofs.History.Record
import CancunMachine.Proofs.Tracing.Access
import CancunMachine.Proofs.Tracing.Frame

/-!
# The story of a frame

A story has the shape of the run that it tells: the deeds of a frame in their order and between them
the children with stories of their own. From a story alone it can be told what the tracer is to
hear. It hears just that, whether the frame succeeds, fails or aborts the message.
-/

namespace CancunMachine

open Ending

/-- What a frame does between its entry and its end. A child has the outcome it was left with, if it
was left at all. -/
inductive Story
  | nothing
  | deed (done : Deed) (rest : Story)
  | child (label : Nat) (invocation : Invocation) (inside : Story) (outcome? : Option Outcome)
      (rest : Story)

namespace Story

/-- The last write of the frame itself. -/
def lastWrite? : Story → Option (Word × Word)
  | nothing => none
  | deed done rest => rest.lastWrite?.or done.write?
  | child _ _ _ _ rest => rest.lastWrite?

/-- The reports at the end of a frame with this story. -/
def ending (invocation : Invocation) (inside : Story) : Option Outcome → List Event
  | some outcome =>
      (inside.lastWrite?.map fun write =>
        .updated invocation.recipient write.1 write.2).toList ++ [.exit invocation.depth outcome]
  | none => []

/-- What the tracer is to hear, earliest first; `tracks` tells whether it hears of reads and writes
as they happen. -/
def reports (tracks : Bool) : Story → List Event
  | nothing => []
  | deed done rest => (if tracks then done.report?.toList else []) ++ rest.reports tracks
  | child _ invocation inside outcome? rest =>
      .enter invocation ::
        (inside.reports tracks ++ inside.ending invocation outcome? ++ rest.reports tracks)

/-- The deeds of a frame and of those below it, with the name of the frame of each. -/
def happenings (name : FrameName) : Story → List Happening
  | nothing => []
  | deed done rest => ⟨name, done⟩ :: rest.happenings name
  | child label _ inside outcome? rest =>
      inside.happenings (label :: name) ++
        (outcome?.map fun outcome => ⟨label :: name, .left outcome.isSuccess⟩).toList ++
        rest.happenings name

/-- What has been reported and is going to be reported after all that a story tells. -/
def tell (story : Story) (tracing : Tracing) : Tracing :=
  { tracing with
    reports := (story.reports tracing.running.isTracked).reverse ++ tracing.reports
    running := { tracing.running with
      lastWrite := story.lastWrite?.or tracing.running.lastWrite } }

variable {label : Nat} {invocation : Invocation} {inside rest : Story}

@[simp]
theorem tell_nothing (tracing : Tracing) : nothing.tell tracing = tracing := rfl

theorem tell_deed (done : Deed) (tracing : Tracing) :
    (deed done rest).tell tracing = rest.tell (tracing.after done) := by
  unfold tell Tracing.after
  cases tracks : tracing.running.isTracked <;> cases told : done.report? <;>
    simp [reports, lastWrite?, Option.or_assoc, tracks, told]

/-- A child is told as a frame of its own, which has written nothing when it is entered. -/
theorem tell_child (outcome? : Option Outcome) (tracing : Tracing)
    (waiting : List Frame.Reporting) :
    (child label invocation inside outcome? rest).tell tracing =
      rest.tell { tracing with
        reports := ((inside.tell ⟨.enter invocation :: tracing.reports,
          ⟨invocation, tracing.running.isTracked, none⟩, waiting⟩).leave outcome?).reports } := by
  refine Tracing.ext ?_ rfl rfl
  cases outcome? with
  | none => simp [tell, reports, ending, Tracing.leave]
  | some outcome =>
      cases written : inside.lastWrite? <;>
        simp [tell, reports, ending, Tracing.leave, Tracing.exit, written]

end Story

namespace Interpreter

variable (host : Host)

/-- The story of a frame that has just been opened; `below` tells that of its instructions. -/
def bodyStory (below : Machine → Story) (transfer : Transfer) (opened : Machine) : Story :=
  match startFrame host transfer opened with
  | .ok none started => below started
  | _ => .nothing

/-- The story goes on with the child that an instruction has prepared, if it has. -/
def childStory (label : Nat) (below : Machine → Story) (body : Run Outcome)
    (prepared : EStateM.Result Failure Machine (Option Entry)) (rest : Story) : Story :=
  match prepared with
  | .ok (some entry) ready =>
      .child label entry.child.invocation
        (bodyStory host below entry.transfer ((ready.entering entry.child).opened host))
        (outcome? (runFrame host body entry.transfer (ready.entering entry.child))) rest
  | _ => rest

/-- The story goes on with the deed of an instruction, if it comes to its end and has one. -/
def ownStory (opcode : Opcode) (before : Machine)
    (executed : EStateM.Result Failure Machine Signal) (rest : Story) : Story :=
  match executed with
  | .ok _ after => (opcode.deed? before.frame after.frame).elim rest (Story.deed · rest)
  | .error _ _ => rest

/-- The story goes on after an instruction that lets its frame go on. -/
def laterStory (below : Machine → Story) (executed : EStateM.Result Failure Machine Signal) :
    Story :=
  match executed with
  | .ok .proceed next => below next
  | _ => .nothing

/-- The story of a frame that runs its instructions. -/
def story : Nat → Machine → Story
  | 0, _ => .nothing
  | budget + 1, machine =>
      let executed := Instruction.execute host (runFrame host (run host budget))
        machine.nextOpcode machine.fetched
      childStory host budget (story budget) (run host budget)
        (Instruction.preparation host machine.nextOpcode machine.fetched)
        (ownStory machine.nextOpcode machine.fetched executed (laterStory (story budget) executed))

/-- Whatever becomes of a frame that runs `body`, the tracer hears the story of it. -/
def Follows (below : Machine → Story) (body : Run Outcome) : Prop :=
  ∀ machine, machine.frame.isTracked = host.config.trackStateChanges →
    (reached (body machine)).tracing = (below machine).tell machine.tracing

variable {host} {below : Machine → Story} {body : Run Outcome} {transfer : Transfer}
  {machine : Machine}

theorem tracing_of_body (follows : Follows host below body)
    (tracks : machine.frame.isTracked = host.config.trackStateChanges) :
    (reached (concluding host body transfer machine)).tracing =
      (bodyStory host below transfer machine).tell machine.tracing := by
  have quiet := @quiet_startFrame host transfer machine
  rw [tracing_of_concluding]
  unfold bodyStory
  cases starts : startFrame host transfer machine with
  | error cause started => rfl
  | ok answer started =>
      rw [starts] at quiet
      cases answer with
      | some outcome => rfl
      | none =>
          have running := congrArg (·.running.isTracked) quiet
          exact (follows started (running.trans tracks)).trans (congrArg _ quiet)

/-- Of a frame the tracer hears its entry, its story and its exit, if it is left. -/
theorem tracing_of_frame (traced : host.isTraced = true) (discreet : host.Discreet)
    (follows : Follows host below body) (transfer : Transfer) (machine : Machine) :
    (reached (runFrame host body transfer machine)).tracing =
      ((bodyStory host below transfer (machine.opened host)).tell
        (machine.tracing.enter host.config.trackStateChanges)).leave
          (outcome? (runFrame host body transfer machine)) := by
  rw [tracing_of_runFrame traced discreet, tracing_of_body follows rfl,
    Machine.tracing_opened traced]

/-- The story that goes on with the deed of an instruction is the one that the tracer hears. -/
theorem tell_ownStory {opcode : Opcode} {executed : EStateM.Result Failure Machine Signal}
    (tells : Instruction.TellsDeed opcode machine executed) (rest : Story) :
    (ownStory opcode machine executed rest).tell machine.tracing =
      rest.tell (reached executed).tracing := by
  cases executed with
  | error cause final => exact congrArg rest.tell tells.symm
  | ok signal final =>
      simp only [Instruction.TellsDeed] at tells
      rw [tells]
      unfold ownStory
      cases done : opcode.deed? machine.frame final.frame with
      | none => simp only [done, Option.elim_none]
      | some deed => simp only [done, Option.elim_some, Story.tell_deed]

theorem ownStory_of_startsChild {opcode : Opcode} (starts : opcode.startsChild = true)
    (executed : EStateM.Result Failure Machine Signal) (rest : Story) :
    ownStory opcode machine executed rest = rest := by
  cases executed with
  | error cause final => rfl
  | ok signal final => simp only [ownStory, Instruction.deed?_of_startsChild starts,
      Option.elim_none]

/-- The child of an instruction is told with all that the tracer hears of it. -/
theorem tell_entry (traced : host.isTraced = true) (discreet : host.Discreet)
    (follows : Follows host below body)
    (tracks : machine.frame.isTracked = host.config.trackStateChanges) {opcode : Opcode}
    {ready : Machine} {entry : Entry} (starts : opcode.startsChild = true)
    (prepares : Instruction.preparation host opcode machine = .ok (some entry) ready)
    (label : Nat) (rest : Story) :
    (childStory host label below body (.ok (some entry) ready) rest).tell machine.tracing =
      rest.tell (reached (Instruction.execute host (runFrame host body) opcode machine)).tracing := by
  have shown := tracing_of_frame traced discreet follows entry.transfer
    (ready.entering entry.child)
  have waits := congrArg (·.waiting) shown
  have kept := (Instruction.quiet_preparation opcode).of_ok prepares
  have fresh : entry.child.reporting = ⟨entry.child.invocation, false, none⟩ := by
    rw [(Instruction.preparation_eq_some prepares).2.legal.fresh.start]
    rfl
  have entered : (ready.entering entry.child).tracing.enter host.config.trackStateChanges =
      ⟨.enter entry.child.invocation :: machine.tracing.reports,
        ⟨entry.child.invocation, machine.tracing.running.isTracked, none⟩,
        (ready.entering entry.child).tracing.waiting⟩ := by
    refine Tracing.ext ?_ ?_ rfl
    · rw [← kept]
      rfl
    · rw [show machine.tracing.running.isTracked = _ from tracks]
      simp [Tracing.enter, Machine.tracing, Machine.entering, fresh]
  rw [Instruction.tracing_of_entry starts prepares ?_]
  · rw [childStory, Story.tell_child, ← entered, ← shown]
    rfl
  · refine waits.trans ?_
    cases outcome? (runFrame host body entry.transfer (ready.entering entry.child)) <;> rfl

/-- The tracer hears of an instruction the story of its child and its deed. -/
theorem tell_instruction (traced : host.isTraced = true) (discreet : host.Discreet)
    (follows : Follows host below body)
    (tracks : machine.frame.isTracked = host.config.trackStateChanges) (label : Nat)
    (opcode : Opcode) (rest : Story) :
    (childStory host label below body (Instruction.preparation host opcode machine)
        (ownStory opcode machine
          (Instruction.execute host (runFrame host body) opcode machine) rest)).tell
        machine.tracing =
      rest.tell (reached (Instruction.execute host (runFrame host body) opcode machine)).tracing := by
  cases starts : opcode.startsChild with
  | false =>
      rw [Instruction.preparation_of_alone starts]
      exact tell_ownStory (Instruction.tellsDeed_of_alone traced starts machine) rest
  | true =>
      rw [ownStory_of_startsChild starts]
      have quiet := @Instruction.quiet_preparation host opcode machine
      cases prepares : Instruction.preparation host opcode machine with
      | error cause ready =>
          rw [prepares] at quiet
          rw [Instruction.execute_of_unprepared starts prepares]
          exact congrArg rest.tell quiet.symm
      | ok answer ready =>
          rw [prepares] at quiet
          cases answer with
          | none =>
              rw [Instruction.execute_of_no_child starts prepares]
              exact congrArg rest.tell quiet.symm
          | some entry => exact tell_entry traced discreet follows tracks starts prepares label rest

/-- An instruction leaves its frame in its place, and tracked if it was. -/
theorem context_of_execute (traced : host.isTraced = true) (discreet : host.Discreet)
    (follows : Follows host below body)
    (tracks : machine.frame.isTracked = host.config.trackStateChanges) (opcode : Opcode) :
    let next := reached (Instruction.execute host (runFrame host body) opcode machine)
    next.frame.invocation = machine.frame.invocation ∧
      next.frame.isTracked = host.config.trackStateChanges := by
  have tells := tell_instruction traced discreet follows tracks 0 opcode .nothing
  rw [Story.tell_nothing] at tells
  exact ⟨(congrArg (·.running.invocation) tells).symm,
    (congrArg (·.running.isTracked) tells).symm.trans tracks⟩

/-- The tracer follows a frame through all its instructions and through its children. -/
theorem follows_run (traced : host.isTraced = true) (discreet : host.Discreet) (budget : Nat) :
    Follows host (story host budget) (run host budget) := by
  induction budget with
  | zero => exact fun _ _ => rfl
  | succ budget inductionHypothesis =>
      intro machine tracks
      have fetches : machine.fetched.frame.isTracked = host.config.trackStateChanges := tracks
      have unmoved : machine.tracing = machine.fetched.tracing := rfl
      obtain ⟨_, stillTracks⟩ := context_of_execute traced discreet inductionHypothesis fetches
        machine.nextOpcode
      rw [run_succ, story, unmoved,
        tell_instruction traced discreet inductionHypothesis fetches budget machine.nextOpcode]
      cases executes : Instruction.execute host (runFrame host (run host budget))
          machine.nextOpcode machine.fetched with
      | error cause next => exact quiet_failFrame cause next
      | ok signal next =>
          cases signal with
          | stop => exact quiet_stopFrame next
          | proceed =>
              rw [executes] at stillTracks
              exact inductionHypothesis next stillTracks

end Interpreter

end CancunMachine
