import Mathlib.Tactic
import CancunMachine.Proofs.Order.Frame

/-!
# What a tracer sees of a machine

A tracer is told that a frame is entered or left and, on request, that a slot is read or written.
What it has been told, and what the end of a frame is going to tell it, is not touched by anything
that only computes, pays, or works on the world. So all instructions but two are quiet.
-/

namespace CancunMachine

open Ending

/-- Whether an event is told to the tracer; all others are notes of collaborators. -/
def Event.isReported : Event → Bool
  | .enter _ | .exit _ _ | .updated _ _ _ | .read _ _ _ | .written _ _ _ => true
  | _ => false

/-- The parts of a frame that its reports are made from. -/
structure Frame.Reporting where
  invocation : Invocation
  isTracked : Bool
  lastWrite : Option (Word × Word)

def Frame.reporting (frame : Frame) : Frame.Reporting :=
  ⟨frame.invocation, frame.isTracked, frame.lastWrite⟩

/-- What the tracer of a machine has been told, latest first, and what its frames have in store for
it, innermost first behind the running one. -/
@[ext]
structure Tracing where
  reports : List Event
  running : Frame.Reporting
  waiting : List Frame.Reporting

namespace Machine

def reports (machine : Machine) : List Event := machine.events.filter (·.isReported)

def tracing (machine : Machine) : Tracing :=
  ⟨machine.reports, machine.frame.reporting, machine.suspended.map Frame.reporting⟩

end Machine

/-- An action that reports nothing and has no part in what is going to be reported. -/
abbrev Quiet {Alpha : Type} (action : Run Alpha) : Prop := Keeps Machine.tracing action

variable {Alpha : Type} {host : Host}

theorem quiet_get : Quiet (get : Run Machine) := fun _ => rfl

theorem quiet_ofHalting (answer : Except Halt Alpha) : Quiet (Run.ofHalting answer) := by
  cases answer <;> exact fun _ => rfl

theorem quiet_ofExcept (answer : Except Failure Alpha) : Quiet (Run.ofExcept answer) := by
  cases answer <;> exact fun _ => rfl

theorem quiet_modifyFrame (change : Frame → Frame)
    (same : ∀ frame, (change frame).reporting = frame.reporting) :
    Quiet (Run.modifyFrame change) :=
  fun machine => Tracing.ext rfl (same machine.frame) rfl

theorem quiet_updateFrame (change : Frame → Except Halt Frame)
    (same : ∀ {frame next}, change frame = .ok next → next.reporting = frame.reporting) :
    Quiet (Run.updateFrame change) := by
  intro machine
  cases ended : Run.updateFrame change machine with
  | ok _ final =>
      obtain ⟨next, changed, rfl⟩ := Run.updateFrame_eq_ok.mp ended
      exact Tracing.ext rfl (same changed) rfl
  | error cause final =>
      obtain ⟨_, _, _, rfl⟩ := Run.updateFrame_eq_error.mp ended
      rfl

theorem quiet_updateStack (change : Stack → Except Halt Stack) :
    Quiet (Run.updateStack change) :=
  quiet_get.bind fun _ => (quiet_ofHalting _).bind fun _ => quiet_modifyFrame _ fun _ => rfl

theorem quiet_onMemory (action : Memory.Action Alpha) : Quiet (Run.onMemory action) := by
  intro machine
  unfold Run.onMemory
  cases action machine.frame.memory <;> rfl

theorem quiet_charge (cost : UInt64) : Quiet (Run.charge cost) := by
  refine quiet_updateFrame _ fun {frame next} charged => ?_
  unfold Frame.charge at charged
  split at charged
  · cases charged
    rfl
  · cases charged

theorem quiet_chargeCost (cost : Except Halt UInt64) : Quiet (Run.chargeCost cost) :=
  (quiet_ofHalting _).bind fun _ => quiet_charge _

theorem quiet_jump (destination : Word) : Quiet (Run.updateFrame (·.jump destination)) := by
  refine quiet_updateFrame _ fun {frame next} jumped => ?_
  unfold Frame.jump at jumped
  split at jumped
  · cases jumped
    rfl
  · cases jumped

theorem quiet_peek (count : Nat) : Quiet (Run.peek count) :=
  quiet_get.bind fun _ => quiet_ofHalting _

theorem quiet_peekOne : Quiet Run.peekOne := (quiet_peek 1).bind fun _ => .pure _

theorem quiet_peekTwo : Quiet Run.peekTwo := (quiet_peek 2).bind fun _ => .pure _

theorem quiet_peekThree : Quiet Run.peekThree := (quiet_peek 3).bind fun _ => .pure _

theorem quiet_peekFour : Quiet Run.peekFour := (quiet_peek 4).bind fun _ => .pure _

theorem quiet_push (word : Word) : Quiet (Run.push word) := quiet_updateStack _

theorem quiet_drop (count : Nat) : Quiet (Run.drop count) := quiet_updateStack _

theorem quiet_pop (count : Nat) : Quiet (Run.pop count) :=
  (quiet_peek count).bind fun _ => (quiet_drop count).bind fun _ => .pure _

theorem quiet_popOne : Quiet Run.popOne :=
  quiet_peekOne.bind fun _ => (quiet_drop 1).bind fun _ => .pure _

theorem quiet_popTwo : Quiet Run.popTwo :=
  quiet_peekTwo.bind fun _ => (quiet_drop 2).bind fun _ => .pure _

theorem quiet_popThree : Quiet Run.popThree :=
  quiet_peekThree.bind fun _ => (quiet_drop 3).bind fun _ => .pure _

theorem quiet_isColdAddress (address : Address) : Quiet (Run.isColdAddress address) :=
  fun _ => rfl

theorem quiet_isColdSlot (address : Address) (key : Word) : Quiet (Run.isColdSlot address key) :=
  fun _ => rfl

theorem quiet_onWorld (access : Access Alpha) : Quiet (Run.onWorld access) := by
  intro machine
  cases ended : Run.onWorld access machine with
  | ok _ final =>
      obtain ⟨_, _, rfl⟩ := Run.onWorld_eq_ok.mp ended
      rfl
  | error cause final =>
      obtain ⟨_, _, _, _, rfl⟩ := Run.onWorld_eq_error.mp ended
      rfl

theorem quiet_modifyWarmth (change : Warmth → Warmth) : Quiet (Run.modifyWarmth change) :=
  fun _ => rfl

theorem quiet_modifySubstate (change : Substate → Substate) :
    Quiet (Run.modifySubstate change) := fun _ => rfl

/-- A note is none of the tracer's business. -/
theorem quiet_record {event : Event} (aside : event.isReported = false) :
    Quiet (Run.record event) :=
  fun _ => Tracing.ext (List.filter_cons_of_neg (by simp [aside])) rfl rfl

theorem quiet_forbidStatic : Quiet Run.forbidStatic :=
  (Keeps.frame _).bind fun _ => .branch (.halt _) (.pure _)

theorem quiet_makeProgram (code : ByteArray) : Quiet (Run.makeProgram code) := fun _ => rfl

theorem quiet_takeBuffers : Quiet (Run.takeBuffers host) := by
  intro machine
  unfold Run.takeBuffers
  split <;> rfl

end CancunMachine
