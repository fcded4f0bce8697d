import Mathlib.Tactic
import CancunMachine.Machine.Basic

/-!
# How computations of the machine end

A computation of the machine ends with a value or with a failure, and with a machine in either
case. A sequence is taken apart into its steps by `Ending.bind_eq_ok` and
`Ending.bind_eq_error`; every elementary step has a lemma that says how it can end.
-/

namespace CancunMachine

namespace Ending

variable {Error State Alpha Beta : Type}

theorem bind_eq_ok {first : EStateM Error State Alpha} {next : Alpha → EStateM Error State Beta}
    {state final : State} {result : Beta} :
    (first >>= next) state = .ok result final ↔
      ∃ value middle, first state = .ok value middle ∧ next value middle = .ok result final := by
  simp only [bind, EStateM.bind]
  cases first state <;> simp

theorem bind_eq_error {first : EStateM Error State Alpha}
    {next : Alpha → EStateM Error State Beta} {state final : State} {cause : Error} :
    (first >>= next) state = .error cause final ↔
      first state = .error cause final ∨
      ∃ value middle, first state = .ok value middle ∧ next value middle = .error cause final := by
  simp only [bind, EStateM.bind]
  cases first state <;> simp

/-- A first step that succeeds hands its value and its state to the rest. -/
theorem bind_of_ok {first : EStateM Error State Alpha} {next : Alpha → EStateM Error State Beta}
    {state middle : State} {value : Alpha} (done : first state = .ok value middle) :
    (first >>= next) state = next value middle := by
  simp only [bind, EStateM.bind, done]

theorem bind_of_error {first : EStateM Error State Alpha}
    {next : Alpha → EStateM Error State Beta} {state middle : State} {cause : Error}
    (failed : first state = .error cause middle) :
    (first >>= next) state = .error cause middle := by
  simp only [bind, EStateM.bind, failed]

/-- The state in which a computation ends, whether it succeeds or fails. -/
def reached : EStateM.Result Error State Alpha → State
  | .ok _ state => state
  | .error _ state => state

@[simp]
theorem pure_apply (value : Alpha) (state : State) :
    (pure value : EStateM Error State Alpha) state = .ok value state := rfl

@[simp]
theorem throw_apply (cause : Error) (state : State) :
    (throw cause : EStateM Error State Alpha) state = .error cause state := rfl

@[simp]
theorem get_apply (state : State) :
    (get : EStateM Error State State) state = .ok state state := rfl

@[simp]
theorem set_apply (next state : State) :
    (set next : EStateM Error State PUnit) state = .ok ⟨⟩ next := rfl

@[simp]
theorem modify_apply (change : State → State) (state : State) :
    (modify change : EStateM Error State PUnit) state = .ok ⟨⟩ (change state) := rfl

end Ending

open Ending

namespace Run

variable {Alpha Beta : Type}

@[simp]
theorem halt_apply (reason : Halt) (machine : Machine) :
    (halt reason : Run Alpha) machine = .error (.halt reason) machine := rfl

@[simp]
theorem frame_apply (question : Frame → Alpha) (machine : Machine) :
    frame question machine = .ok (question machine.frame) machine := rfl

@[simp]
theorem modifyFrame_apply (change : Frame → Frame) (machine : Machine) :
    modifyFrame change machine = .ok () { machine with frame := change machine.frame } := rfl

@[simp]
theorem modifyWarmth_apply (change : Warmth → Warmth) (machine : Machine) :
    modifyWarmth change machine = .ok () { machine with warmth := change machine.warmth } := rfl

@[simp]
theorem modifySubstate_apply (change : Substate → Substate) (machine : Machine) :
    modifySubstate change machine =
      .ok () { machine with substate := change machine.substate } := rfl

@[simp]
theorem record_apply (event : Event) (machine : Machine) :
    record event machine = .ok () { machine with events := event :: machine.events } := rfl

theorem ofHalting_eq_ok {answer : Except Halt Alpha} {value : Alpha} {machine final : Machine} :
    ofHalting answer machine = .ok value final ↔ answer = .ok value ∧ final = machine := by
  cases answer <;> simp [ofHalting, eq_comm]

theorem ofHalting_eq_error {answer : Except Halt Alpha} {cause : Failure}
    {machine final : Machine} :
    ofHalting answer machine = .error cause final ↔
      ∃ reason, answer = .error reason ∧ cause = .halt reason ∧ final = machine := by
  cases answer <;> simp [ofHalting, eq_comm]

theorem attempt_of_ok {action : Run Alpha} {value : Alpha} {machine final : Machine}
    (done : action machine = .ok value final) :
    attempt action machine = .ok (.ok value) final := by
  simp only [attempt, done]

theorem attempt_of_error {action : Run Alpha} {cause : Failure} {machine final : Machine}
    (failed : action machine = .error cause final) :
    attempt action machine = .ok (.error cause) final := by
  simp only [attempt, failed]

theorem attempt_ne_error {action : Run Alpha} {cause : Failure} {machine final : Machine} :
    attempt action machine ≠ .error cause final := by
  cases ended : action machine <;> simp [attempt, ended]

theorem onWorld_eq_ok {access : Access Alpha} {value : Alpha} {machine final : Machine} :
    onWorld access machine = .ok value final ↔
      ∃ world, access machine.world = .ok value world ∧ final = { machine with world } := by
  cases ended : access machine.world <;> simp [onWorld, ended, eq_comm]

theorem onWorld_eq_error {access : Access Alpha} {cause : Failure} {machine final : Machine} :
    onWorld access machine = .error cause final ↔
      ∃ error world, access machine.world = .error error world ∧ cause = .store error ∧
        final = { machine with world } := by
  cases ended : access machine.world <;> simp [onWorld, ended, eq_comm]

theorem updateFrame_eq_ok {change : Frame → Except Halt Frame} {machine final : Machine} :
    updateFrame change machine = .ok () final ↔
      ∃ next, change machine.frame = .ok next ∧ final = { machine with frame := next } := by
  simp only [updateFrame, bind_eq_ok, get_apply, ofHalting_eq_ok, modifyFrame_apply]
  constructor
  · rintro ⟨_, _, equal, next, _, ⟨changed, rfl⟩, final_eq⟩
    cases equal
    cases final_eq
    exact ⟨next, changed, rfl⟩
  · rintro ⟨next, changed, rfl⟩
    exact ⟨_, _, rfl, next, _, ⟨changed, rfl⟩, rfl⟩

theorem updateFrame_eq_error {change : Frame → Except Halt Frame} {machine final : Machine}
    {cause : Failure} :
    updateFrame change machine = .error cause final ↔
      ∃ reason, change machine.frame = .error reason ∧ cause = .halt reason ∧ final = machine := by
  cases changed : change machine.frame <;>
    simp [updateFrame, bind, EStateM.bind, changed, ofHalting, eq_comm]

theorem charge_eq_ok {cost : UInt64} {machine final : Machine} :
    charge cost machine = .ok () final ↔
      cost ≤ machine.frame.gas ∧
        final = { machine with frame.gas := machine.frame.gas - cost } := by
  simp only [charge, updateFrame_eq_ok, Frame.charge]
  split <;> simp_all [eq_comm]

theorem updateStack_eq_ok {change : Stack → Except Halt Stack} {machine final : Machine} :
    updateStack change machine = .ok () final ↔
      ∃ stack, change machine.frame.stack = .ok stack ∧
        final = { machine with frame.stack := stack } := by
  cases changed : change machine.frame.stack <;>
    simp [updateStack, bind, EStateM.bind, changed, ofHalting, eq_comm]

theorem updateStack_eq_error {change : Stack → Except Halt Stack} {machine final : Machine}
    {cause : Failure} :
    updateStack change machine = .error cause final ↔
      ∃ reason, change machine.frame.stack = .error reason ∧ cause = .halt reason ∧
        final = machine := by
  cases changed : change machine.frame.stack <;>
    simp [updateStack, bind, EStateM.bind, changed, ofHalting, eq_comm]

theorem onMemory_eq_ok {action : Memory.Action Alpha} {value : Alpha} {machine final : Machine} :
    onMemory action machine = .ok value final ↔
      ∃ memory, action machine.frame.memory = .ok value memory ∧
        final = { machine with frame.memory := memory } := by
  cases ended : action machine.frame.memory <;> simp [onMemory, ended, eq_comm]

theorem onMemory_eq_error {action : Memory.Action Alpha} {cause : Failure}
    {machine final : Machine} :
    onMemory action machine = .error cause final ↔
      ∃ memory, action machine.frame.memory = .error cause memory ∧
        final = { machine with frame.memory := memory } := by
  cases ended : action machine.frame.memory <;> simp [onMemory, ended, eq_comm]

end Run

end CancunMachine
