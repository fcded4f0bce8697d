import Mathlib.Tactic
import CancunMachine.Proofs.Evolution.Run
import CancunMachine.Proofs.Settlement

/-!
# The moments of a run

A run passes through the machines at which it fetches an instruction, those of the frame itself and
those of the frames below it. What holds at the first of them and is kept by instructions and by
the entry of children holds at all of them.
-/

namespace CancunMachine

namespace Interpreter

variable {host : Host} {budget : Nat} {machine visited : Machine}

/-- The run of a frame fetches an instruction at `visited`, in the frame itself or below it. -/
inductive Visits (host : Host) : Nat → Machine → Machine → Prop
  | here {budget : Nat} (machine : Machine) : Visits host (budget + 1) machine machine
  | next {budget : Nat} {machine next visited : Machine} :
      Instruction.execute host (runFrame host (run host budget)) machine.nextOpcode
        machine.fetched = .ok .proceed next →
      Visits host budget next visited →
      Visits host (budget + 1) machine visited
  | child {budget : Nat} {machine ready started visited : Machine} {entry : Entry} :
      Instruction.preparation host machine.nextOpcode machine.fetched =
        .ok (some entry) ready →
      startFrame host entry.transfer ((ready.entering entry.child).opened host) =
        .ok none started →
      Visits host budget started visited →
      Visits host (budget + 1) machine visited

/-- What instructions and the entry of children keep holds at every moment of a run. -/
theorem Visits.preserves {holds : Machine → Prop} (visits : Visits host budget machine visited)
    (goesOn : ∀ {budget machine next}, holds machine →
      Instruction.execute host (runFrame host (run host budget)) machine.nextOpcode
        machine.fetched = .ok .proceed next → holds next)
    (enters : ∀ {machine ready started entry}, holds machine →
      Instruction.preparation host machine.nextOpcode machine.fetched = .ok (some entry) ready →
      startFrame host entry.transfer ((ready.entering entry.child).opened host) =
        .ok none started → holds started)
    (first : holds machine) : holds visited := by
  induction visits with
  | here => exact first
  | next done _ inductionHypothesis => exact inductionHypothesis (goesOn first done)
  | child prepares starts _ inductionHypothesis =>
      exact inductionHypothesis (enters first prepares starts)

/-- In the run of a frame, a frame below it is left as `closed`. -/
inductive Exits (host : Host) : Nat → Machine → Machine → Prop
  | here {budget : Nat} {machine ready closed : Machine} {entry : Entry} {outcome : Outcome} :
      Instruction.preparation host machine.nextOpcode machine.fetched =
        .ok (some entry) ready →
      runFrame host (run host budget) entry.transfer (ready.entering entry.child) =
        .ok outcome closed →
      Exits host (budget + 1) machine closed
  | next {budget : Nat} {machine next closed : Machine} :
      Instruction.execute host (runFrame host (run host budget)) machine.nextOpcode
        machine.fetched = .ok .proceed next →
      Exits host budget next closed →
      Exits host (budget + 1) machine closed
  | child {budget : Nat} {machine ready started closed : Machine} {entry : Entry} :
      Instruction.preparation host machine.nextOpcode machine.fetched =
        .ok (some entry) ready →
      startFrame host entry.transfer ((ready.entering entry.child).opened host) =
        .ok none started →
      Exits host budget started closed →
      Exits host (budget + 1) machine closed

/-- The invocations of the frames entered through a child, `below` being those entered by a run. -/
def enteredThrough (host : Host) (below : Machine → List Invocation) (ready : Machine)
    (entry : Entry) : List Invocation :=
  entry.child.invocation ::
    match startFrame host entry.transfer ((ready.entering entry.child).opened host) with
    | .ok none started => below started
    | _ => []

/-- The invocations of the frames that an instruction enters once it has been prepared. -/
def enteredBy (host : Host) (below : Machine → List Invocation)
    (prepared : EStateM.Result Failure Machine (Option Entry)) : List Invocation :=
  match prepared with
  | .ok entry? ready => entry?.elim [] (enteredThrough host below ready)
  | .error _ _ => []

/-- The invocations of the frames entered once the next instruction has been executed. -/
def enteredAfter (below : Machine → List Invocation)
    (executed : EStateM.Result Failure Machine Signal) : List Invocation :=
  match executed with
  | .ok .proceed next => below next
  | _ => []

/-- The invocations of the frames that the run of a frame enters below it, in this order. -/
def enteredBelow (host : Host) : Nat → Machine → List Invocation
  | 0, _ => []
  | budget + 1, machine =>
      enteredBy host (enteredBelow host budget)
          (Instruction.preparation host machine.nextOpcode machine.fetched) ++
        enteredAfter (enteredBelow host budget)
          (Instruction.execute host (runFrame host (run host budget)) machine.nextOpcode
            machine.fetched)

theorem mem_enteredBelow_succ {invocation : Invocation} :
    invocation ∈ enteredBelow host (budget + 1) machine ↔
      invocation ∈ enteredBy host (enteredBelow host budget)
          (Instruction.preparation host machine.nextOpcode machine.fetched) ∨
        invocation ∈ enteredAfter (enteredBelow host budget)
          (Instruction.execute host (runFrame host (run host budget)) machine.nextOpcode
            machine.fetched) :=
  List.mem_append

theorem mem_enteredBelow_of_entry {ready : Machine} {entry : Entry} {invocation : Invocation}
    (prepares : Instruction.preparation host machine.nextOpcode machine.fetched =
      .ok (some entry) ready)
    (member : invocation ∈ enteredThrough host (enteredBelow host budget) ready entry) :
    invocation ∈ enteredBelow host (budget + 1) machine := by
  refine mem_enteredBelow_succ.mpr (.inl ?_)
  rw [prepares]
  exact member

theorem mem_enteredBelow_of_next {next : Machine} {invocation : Invocation}
    (goesOn : Instruction.execute host (runFrame host (run host budget)) machine.nextOpcode
      machine.fetched = .ok .proceed next)
    (member : invocation ∈ enteredBelow host budget next) :
    invocation ∈ enteredBelow host (budget + 1) machine := by
  refine mem_enteredBelow_succ.mpr (.inr ?_)
  rw [goesOn]
  exact member

theorem mem_enteredThrough_of_start {below : Machine → List Invocation} {ready started : Machine}
    {entry : Entry} {invocation : Invocation}
    (starts : startFrame host entry.transfer ((ready.entering entry.child).opened host) =
      .ok none started)
    (member : invocation ∈ below started) :
    invocation ∈ enteredThrough host below ready entry := by
  refine List.mem_cons_of_mem _ ?_
  simpa only [starts] using member

end Interpreter

namespace Transaction

variable {host : Host}

/-- The machine at the first instruction of a message, if it is accepted and has instructions. -/
def firstFetch? (host : Host) (machine : Machine) : Option Machine :=
  match prepareAll host machine with
  | .error _ _ => none
  | .ok _ ready =>
      match Interpreter.startFrame host (payment host ready) (ready.opened host) with
      | .ok none started => some started
      | _ => none

theorem firstFetch?_of_start {machine ready started : Machine}
    (prepares : prepareAll host machine = .ok () ready)
    (starts : Interpreter.startFrame host (payment host ready) (ready.opened host) =
      .ok none started) : firstFetch? host machine = some started := by
  simp only [firstFetch?, prepares, starts]

theorem firstFetch?_eq_some {machine started : Machine}
    (first : firstFetch? host machine = some started) :
    ∃ ready, prepareAll host machine = .ok () ready ∧
      Interpreter.startFrame host (payment host ready) (ready.opened host) =
        .ok none started := by
  unfold firstFetch? at first
  split at first
  · cases first
  · rename_i ready prepares
    split at first
    · rename_i shown starts
      cases first
      exact ⟨ready, prepares, starts⟩
    · cases first

/-- The execution of a message fetches an instruction at `visited`. -/
def Visits (host : Host) (machine visited : Machine) : Prop :=
  ∃ started, firstFetch? host machine = some started ∧
    Interpreter.Visits host (Interpreter.stepBudget started.frame.gas) started visited

/-- In the execution of a message, a frame is left as `closed`: the outermost one, or one below
it. -/
def Exits (host : Host) (machine closed : Machine) : Prop :=
  (∃ ready outcome, prepareAll host machine = .ok () ready ∧
    Interpreter.runOutermost host (payment host ready) ready = .ok outcome closed) ∨
  ∃ started, firstFetch? host machine = some started ∧
    Interpreter.Exits host (Interpreter.stepBudget started.frame.gas) started closed

/-- The invocations of the frames that the execution of a message enters, in this order. -/
def enteredFrames (host : Host) (machine : Machine) : List Invocation :=
  machine.frame.invocation :: (firstFetch? host machine).elim []
    fun started => Interpreter.enteredBelow host (Interpreter.stepBudget started.frame.gas) started

theorem mem_enteredFrames_of_start {machine ready started : Machine} {invocation : Invocation}
    (prepares : prepareAll host machine = .ok () ready)
    (starts : Interpreter.startFrame host (payment host ready) (ready.opened host) =
      .ok none started)
    (member : invocation ∈
      Interpreter.enteredBelow host (Interpreter.stepBudget started.frame.gas) started) :
    invocation ∈ enteredFrames host machine := by
  unfold enteredFrames
  rw [firstFetch?_of_start prepares starts, Option.elim_some]
  exact List.mem_cons_of_mem _ member

end Transaction

end CancunMachine
