import Mathlib.Tactic
import CancunMachine.Proofs.Likeness.Memory
import CancunMachine.Proofs.Machine.Ending
import CancunMachine.Proofs.Program.Cache

/-!
# Machines that look alike

Two machines look alike if they differ only in what stands behind a run: the instances of their
programs, the words left behind in their stacks, the capacities of their memories, their caches
and pools, and what was reported to a tracer. A computation mirrors another one if from machines
that look alike both end in the same way, on machines that look alike.
-/

namespace CancunMachine

open Ending

/-- What may differ between two runs of a message. -/
structure Tuning where
  isTraced : Bool
  reusesBuffers : Bool
  trackStateChanges : Bool
  codeCacheCapacity : Nat

/-- The host with other tuning. -/
def Host.tuned (host : Host) (tuning : Tuning) : Host :=
  { host with
    isTraced := tuning.isTraced
    reusesBuffers := tuning.reusesBuffers
    config := { host.config with
      trackStateChanges := tuning.trackStateChanges
      codeCacheCapacity := tuning.codeCacheCapacity } }

/-- Whether an event is reported by the machine itself, for a tracer only. -/
def Event.isTraced : Event → Bool
  | .enter _ | .exit _ _ | .updated _ _ _ | .read _ _ _ | .written _ _ _ => true
  | .destruction _ _ | .settled _ _ | .queued _ | .prepared _ | .finalized _ _ _ => false

/-- The events that do not depend on a tracer. -/
def Machine.notes (machine : Machine) : List Event := machine.events.filter (!·.isTraced)

/-- Every memory that waits for its next use is tidy. -/
def Pool.Tidy (pool : Pool) : Prop := ∀ memory ∈ pool.spareMemories, memory.Tidy

/-- Two frames that cannot be told apart by running them. -/
structure Frame.Alike (frame other : Frame) : Prop where
  invocation : frame.invocation = other.invocation
  program : frame.program.program = other.program.program
  operands : frame.stack.items = other.stack.items
  memory : frame.memory.Alike other.memory
  pc : frame.pc = other.pc
  gas : frame.gas = other.gas
  output : frame.output = other.output
  returnData : frame.returnData = other.returnData
  warmMark : frame.warmMark = other.warmMark
  lastWrite : frame.lastWrite = other.lastWrite
  queuedHalt : frame.queuedHalt = other.queuedHalt

/-- Two machines that cannot be told apart by running them. -/
structure Machine.Alike (machine other : Machine) : Prop where
  frame : machine.frame.Alike other.frame
  suspended : List.Forall₂ Frame.Alike machine.suspended other.suspended
  substate : machine.substate = other.substate
  world : machine.world = other.world
  warmth : machine.warmth = other.warmth
  notes : machine.notes = other.notes
  tidy : machine.pool.Tidy
  otherTidy : other.pool.Tidy

/-- Two ends of computations that correspond. -/
inductive EndsAlike {Alpha Beta : Type} (values : Alpha → Beta → Prop) :
    EStateM.Result Failure Machine Alpha → EStateM.Result Failure Machine Beta → Prop
  | ok {value : Alpha} {same : Beta} {machine other : Machine} :
      values value same → machine.Alike other →
        EndsAlike values (.ok value machine) (.ok same other)
  | error {cause : Failure} {machine other : Machine} :
      machine.Alike other → EndsAlike values (.error cause machine) (.error cause other)

/-- Two computations that cannot be told apart on machines that look alike. -/
def Mirrors {Alpha Beta : Type} (values : Alpha → Beta → Prop) (left : Run Alpha)
    (right : Run Beta) : Prop :=
  ∀ machine other : Machine, machine.Alike other → EndsAlike values (left machine) (right other)

variable {Alpha Beta Gamma Delta : Type} {values : Alpha → Beta → Prop}
  {results : Gamma → Delta → Prop}

namespace Mirrors

theorem bind {first : Run Alpha} {other : Run Beta} {next : Alpha → Run Gamma}
    {otherNext : Beta → Run Delta} (early : Mirrors values first other)
    (late : ∀ value same, values value same → Mirrors results (next value) (otherNext same)) :
    Mirrors results (first >>= next) (other >>= otherNext) := by
  intro machine twin alike
  have started := early machine twin alike
  cases ended : first machine <;> cases otherEnded : other twin <;>
    rw [ended, otherEnded] at started
  case ok.ok =>
    rw [bind_of_ok ended, bind_of_ok otherEnded]
    cases started with
    | ok agree alike => exact late _ _ agree _ _ alike
  case error.error =>
    rw [bind_of_error ended, bind_of_error otherEnded]
    cases started with
    | error alike => exact .error alike
  all_goals cases started

/-- Most steps hand on the same value. -/
theorem step {first other : Run Alpha} {next : Alpha → Run Gamma} {otherNext : Alpha → Run Delta}
    (early : Mirrors Eq first other)
    (late : ∀ value, Mirrors results (next value) (otherNext value)) :
    Mirrors results (first >>= next) (other >>= otherNext) :=
  early.bind fun value _ same => same ▸ late value

theorem branch {condition : Prop} [Decidable condition] {left right : Run Alpha}
    {otherLeft otherRight : Run Beta} (yes : Mirrors values left otherLeft)
    (no : Mirrors values right otherRight) :
    Mirrors values (if condition then left else right)
      (if condition then otherLeft else otherRight) := by
  split
  · exact yes
  · exact no

/-- Something that is done only on a condition, before the rest. -/
theorem guard {condition : Prop} [Decidable condition] {first other : Run Unit}
    {rest : Unit → Run Alpha} {otherRest : Unit → Run Beta} (early : Mirrors Eq first other)
    (late : Mirrors values (rest ()) (otherRest ())) :
    Mirrors values (if condition then first >>= rest else rest ())
      (if condition then other >>= otherRest else otherRest ()) :=
  .branch (early.step fun _ => late) late

theorem attempt {action other : Run Alpha} (mirrors : Mirrors Eq action other) :
    Mirrors Eq (Run.attempt action) (Run.attempt other) := by
  intro machine twin alike
  have ends := mirrors machine twin alike
  cases ended : action machine <;> cases otherEnded : other twin <;> rw [ended, otherEnded] at ends
  case ok.ok =>
    rw [Run.attempt_of_ok ended, Run.attempt_of_ok otherEnded]
    cases ends with
    | ok same alike => exact .ok (congrArg Except.ok same) alike
  case error.error =>
    rw [Run.attempt_of_error ended, Run.attempt_of_error otherEnded]
    cases ends with
    | error alike => exact .ok rfl alike
  all_goals cases ends

end Mirrors

theorem mirrors_pure {value : Alpha} {same : Beta} (agree : values value same) :
    Mirrors values (pure value) (pure same) := fun _ _ alike => .ok agree alike

theorem mirrors_same (value : Alpha) : Mirrors Eq (pure value : Run Alpha) (pure value) :=
  mirrors_pure rfl

theorem mirrors_throw (cause : Failure) :
    Mirrors values (throw cause : Run Alpha) (throw cause) := fun _ _ alike => .error alike

theorem mirrors_halt (reason : Halt) :
    Mirrors values (Run.halt reason : Run Alpha) (Run.halt reason) := mirrors_throw _

theorem mirrors_get : Mirrors Machine.Alike (get : Run Machine) get :=
  fun _ _ alike => .ok alike alike

theorem mirrors_ofExcept (answer : Except Failure Alpha) :
    Mirrors Eq (Run.ofExcept answer) (Run.ofExcept answer) := by
  cases answer with
  | ok value => exact mirrors_same value
  | error cause => exact mirrors_throw cause

theorem mirrors_ofHalting (answer : Except Halt Alpha) :
    Mirrors Eq (Run.ofHalting answer) (Run.ofHalting answer) := by
  cases answer with
  | ok value => exact mirrors_same value
  | error reason => exact mirrors_halt reason

/-- Answers that correspond are taken over alike. -/
theorem Answers.mirrors_halting {answer : Except Halt Alpha} {same : Except Halt Beta}
    (agree : Answers values answer same) :
    Mirrors values (Run.ofHalting answer) (Run.ofHalting same) := by
  cases agree with
  | ok agree => exact mirrors_pure agree
  | error reason => exact mirrors_halt reason

theorem mirrors_frame {question : Frame → Alpha} {same : Frame → Beta}
    (agree : ∀ {frame other : Frame}, frame.Alike other → values (question frame) (same other)) :
    Mirrors values (Run.frame question) (Run.frame same) :=
  fun _ _ alike => .ok (agree alike.frame) alike

theorem mirrors_gas : Mirrors Eq (Run.frame (·.gas)) (Run.frame (·.gas)) :=
  mirrors_frame fun alike => alike.gas

theorem mirrors_invocation : Mirrors Eq (Run.frame (·.invocation)) (Run.frame (·.invocation)) :=
  mirrors_frame fun alike => alike.invocation

theorem mirrors_recipient :
    Mirrors Eq (Run.frame (·.invocation.recipient)) (Run.frame (·.invocation.recipient)) :=
  mirrors_frame fun alike => congrArg Invocation.recipient alike.invocation

theorem mirrors_depth :
    Mirrors Eq (Run.frame (·.invocation.depth)) (Run.frame (·.invocation.depth)) :=
  mirrors_frame fun alike => congrArg Invocation.depth alike.invocation

theorem mirrors_memorySize : Mirrors Eq Run.memorySize Run.memorySize :=
  mirrors_frame fun alike => alike.memory.size

theorem mirrors_forbidStatic : Mirrors Eq Run.forbidStatic Run.forbidStatic :=
  (mirrors_frame fun alike => congrArg Invocation.isStatic alike.invocation).step fun _ =>
    .branch (mirrors_halt _) (mirrors_same _)

theorem mirrors_modifyFrame {change other : Frame → Frame}
    (keeps : ∀ {frame twin : Frame}, frame.Alike twin → (change frame).Alike (other twin)) :
    Mirrors Eq (Run.modifyFrame change) (Run.modifyFrame other) :=
  fun _ _ alike => .ok rfl { alike with frame := keeps alike.frame }

theorem mirrors_advance (count : Nat) :
    Mirrors Eq (Run.modifyFrame (·.advance count)) (Run.modifyFrame (·.advance count)) :=
  mirrors_modifyFrame fun alike =>
    { alike with pc := congrArg (fun pc => min (pc + count) (positionLimit - 1)) alike.pc }

theorem mirrors_setReturnData (data : ByteArray) :
    Mirrors Eq (Run.modifyFrame fun frame => { frame with returnData := data })
      (Run.modifyFrame fun frame => { frame with returnData := data }) :=
  mirrors_modifyFrame fun alike => { alike with returnData := rfl }

theorem mirrors_setOutput (output : ByteArray) :
    Mirrors Eq (Run.modifyFrame fun frame => { frame with output })
      (Run.modifyFrame fun frame => { frame with output }) :=
  mirrors_modifyFrame fun alike => { alike with output := rfl }

theorem mirrors_updateFrame {change : Frame → Except Halt Frame}
    (keeps : ∀ {frame twin : Frame}, frame.Alike twin →
      Answers Frame.Alike (change frame) (change twin)) :
    Mirrors Eq (Run.updateFrame change) (Run.updateFrame change) :=
  mirrors_get.bind fun _ _ alike => (keeps alike.frame).mirrors_halting.bind fun _ _ changed =>
    mirrors_modifyFrame fun _ => changed

theorem mirrors_charge (cost : UInt64) : Mirrors Eq (Run.charge cost) (Run.charge cost) := by
  refine mirrors_updateFrame fun {frame twin} alike => ?_
  unfold Frame.charge
  rw [alike.gas]
  split
  · exact .ok { alike with gas := rfl }
  · exact .error _

theorem mirrors_chargeCost (cost : Except Halt UInt64) :
    Mirrors Eq (Run.chargeCost cost) (Run.chargeCost cost) :=
  (mirrors_ofHalting cost).step mirrors_charge

theorem mirrors_jump (destination : Word) :
    Mirrors Eq (Run.updateFrame (·.jump destination)) (Run.updateFrame (·.jump destination)) := by
  refine mirrors_updateFrame fun {frame twin} alike => ?_
  unfold Frame.jump
  rw [alike.program]
  split
  · exact .ok { alike with pc := rfl }
  · exact .error _

section Stack

variable {stack other : Stack}

/-- An operation on stacks with the same operands gives stacks with the same operands. -/
def Stack.Visible (change : Stack → Except Halt Stack) : Prop :=
  ∀ {stack other : Stack}, stack.items = other.items →
    Answers (fun changed same => changed.items = same.items) (change stack) (change other)

theorem Stack.visible_push (word : Word) : Stack.Visible (·.push word) := by
  rintro ⟨items, stale, bounded⟩ ⟨_, otherStale, _⟩ ⟨⟩
  by_cases room : items.size < stackLimit
  · simp only [push, dif_pos room]
    exact .ok rfl
  · simp only [push, dif_neg room]
    exact .error _

theorem Stack.visible_drop (count : Nat) : Stack.Visible (·.drop count) := by
  rintro ⟨items, stale, bounded⟩ ⟨_, otherStale, _⟩ ⟨⟩
  by_cases enough : count ≤ items.size
  · simp only [drop, if_pos enough]
    exact .ok rfl
  · simp only [drop, if_neg enough]
    exact .error _

theorem Stack.visible_dup (index : Nat) : Stack.Visible (·.dup index) := by
  rintro ⟨items, stale, bounded⟩ ⟨_, otherStale, _⟩ ⟨⟩
  by_cases within : index < items.size
  · simp only [dup, dif_pos within]
    exact visible_push _ rfl
  · simp only [dup, dif_neg within]
    exact .error _

theorem Stack.visible_swap (index : Nat) : Stack.Visible (·.swap index) := by
  rintro ⟨items, stale, bounded⟩ ⟨_, otherStale, _⟩ ⟨⟩
  by_cases within : index < items.size
  · simp only [swap, dif_pos within]
    exact .ok rfl
  · simp only [swap, dif_neg within]
    exact .error _

theorem Stack.peek_eq (same : stack.items = other.items) (count : Nat) :
    stack.peek count = other.peek count := by
  obtain ⟨items, stale, bounded⟩ := stack
  obtain ⟨_, otherStale, _⟩ := other
  cases same
  rfl

end Stack

theorem mirrors_updateStack {change : Stack → Except Halt Stack} (visible : Stack.Visible change) :
    Mirrors Eq (Run.updateStack change) (Run.updateStack change) :=
  mirrors_get.bind fun _ _ alike => (visible alike.frame.operands).mirrors_halting.bind
    fun _ _ changed => mirrors_modifyFrame fun alike => { alike with operands := changed }

theorem mirrors_push (word : Word) : Mirrors Eq (Run.push word) (Run.push word) :=
  mirrors_updateStack (Stack.visible_push word)

theorem mirrors_drop (count : Nat) : Mirrors Eq (Run.drop count) (Run.drop count) :=
  mirrors_updateStack (Stack.visible_drop count)

theorem mirrors_peek (count : Nat) : Mirrors Eq (Run.peek count) (Run.peek count) :=
  mirrors_get.bind fun _ _ alike => by
    rw [Stack.peek_eq alike.frame.operands]
    exact mirrors_ofHalting _

theorem mirrors_peekOne : Mirrors Eq Run.peekOne Run.peekOne :=
  (mirrors_peek 1).step fun _ => mirrors_same _

theorem mirrors_peekTwo : Mirrors Eq Run.peekTwo Run.peekTwo :=
  (mirrors_peek 2).step fun _ => mirrors_same _

theorem mirrors_peekThree : Mirrors Eq Run.peekThree Run.peekThree :=
  (mirrors_peek 3).step fun _ => mirrors_same _

theorem mirrors_peekFour : Mirrors Eq Run.peekFour Run.peekFour :=
  (mirrors_peek 4).step fun _ => mirrors_same _

theorem mirrors_pop (count : Nat) : Mirrors Eq (Run.pop count) (Run.pop count) :=
  (mirrors_peek count).step fun _ => (mirrors_drop count).step fun _ => mirrors_same _

theorem mirrors_popOne : Mirrors Eq Run.popOne Run.popOne :=
  mirrors_peekOne.step fun _ => (mirrors_drop 1).step fun _ => mirrors_same _

theorem mirrors_popTwo : Mirrors Eq Run.popTwo Run.popTwo :=
  mirrors_peekTwo.step fun _ => (mirrors_drop 2).step fun _ => mirrors_same _

theorem mirrors_popThree : Mirrors Eq Run.popThree Run.popThree :=
  mirrors_peekThree.step fun _ => (mirrors_drop 3).step fun _ => mirrors_same _

theorem mirrors_onMemory {action : Memory.Action Alpha}
    (keeps : ∀ {memory other : Memory}, memory.Alike other →
      Memory.EndAlike (action memory) (action other)) :
    Mirrors Eq (Run.onMemory action) (Run.onMemory action) := by
  intro machine other alike
  have ends := keeps alike.frame.memory
  unfold Run.onMemory
  generalize action machine.frame.memory = ending at ends ⊢
  generalize action other.frame.memory = otherEnding at ends ⊢
  cases ends with
  | ok value still => exact .ok rfl { alike with frame := { alike.frame with memory := still } }
  | error cause still => exact .error { alike with frame := { alike.frame with memory := still } }

theorem mirrors_grow (needed : Nat) :
    Mirrors Eq (Run.onMemory (Memory.grow needed)) (Run.onMemory (Memory.grow needed)) :=
  mirrors_onMemory fun alike => alike.grow needed

theorem mirrors_load (offset size : Nat) :
    Mirrors Eq (Run.onMemory (Memory.load offset size))
      (Run.onMemory (Memory.load offset size)) :=
  mirrors_onMemory fun alike => alike.load offset size

theorem mirrors_onWorld (access : Access Alpha) :
    Mirrors Eq (Run.onWorld access) (Run.onWorld access) := by
  intro machine other alike
  unfold Run.onWorld
  rw [alike.world]
  cases access other.world with
  | ok value world => exact .ok rfl { alike with world := rfl }
  | error error world => exact .error { alike with world := rfl }

theorem mirrors_modifyWarmth (change : Warmth → Warmth) :
    Mirrors Eq (Run.modifyWarmth change) (Run.modifyWarmth change) :=
  fun _ _ alike => .ok rfl { alike with warmth := congrArg change alike.warmth }

theorem mirrors_isColdAddress (address : Address) :
    Mirrors Eq (Run.isColdAddress address) (Run.isColdAddress address) :=
  mirrors_get.bind fun _ _ alike => mirrors_pure (by rw [alike.warmth])

theorem mirrors_isColdSlot (address : Address) (slot : Word) :
    Mirrors Eq (Run.isColdSlot address slot) (Run.isColdSlot address slot) :=
  mirrors_get.bind fun _ _ alike => mirrors_pure (by rw [alike.warmth])

theorem mirrors_modifySubstate (change : Substate → Substate) :
    Mirrors Eq (Run.modifySubstate change) (Run.modifySubstate change) :=
  fun _ _ alike => .ok rfl { alike with substate := congrArg change alike.substate }

theorem mirrors_record (event : Event) : Mirrors Eq (Run.record event) (Run.record event) := by
  intro machine other alike
  refine .ok rfl { alike with notes := ?_ }
  have same : machine.events.filter (!·.isTraced) = other.events.filter (!·.isTraced) := alike.notes
  simp only [Machine.notes, List.filter_cons, same]

/-- A computation that does nothing but report to a tracer, if at all, and gives `value`. -/
def Reports (value : Alpha) (action : Run Alpha) : Prop :=
  ∀ machine : Machine, ∃ events, action machine = .ok value { machine with events } ∧
    events.filter (!·.isTraced) = machine.notes

theorem reports_pure (value : Alpha) : Reports value (pure value) :=
  fun machine => ⟨machine.events, rfl, rfl⟩

theorem reports_trace (host : Host) {event : Event} (traced : event.isTraced = true) :
    Reports () (Run.trace host event) := by
  intro machine
  unfold Run.trace
  split
  · refine ⟨event :: machine.events, rfl, ?_⟩
    simp only [Machine.notes, List.filter_cons, traced, Bool.not_true, Bool.false_eq_true, if_false]
  · exact reports_pure () machine

namespace Reports

theorem seq {value : Alpha} {first : Run Unit} {second : Run Alpha} (early : Reports () first)
    (late : Reports value second) : Reports value (do first; second) := by
  intro machine
  obtain ⟨events, started, same⟩ := early machine
  obtain ⟨later, finished, sameLater⟩ := late { machine with events }
  exact ⟨later, (bind_of_ok started).trans finished, sameLater.trans same⟩

/-- What is reported may depend on the frame. -/
theorem ask {value : Alpha} {question : Frame → Beta} {next : Beta → Run Alpha}
    (late : ∀ answer, Reports value (next answer)) :
    Reports value (Run.frame question >>= next) :=
  fun machine => late (question machine.frame) machine

theorem mirrors {value : Alpha} {action other : Run Alpha} (reports : Reports value action)
    (otherReports : Reports value other) : Mirrors Eq action other := by
  intro machine twin alike
  obtain ⟨events, ended, same⟩ := reports machine
  obtain ⟨otherEvents, otherEnded, otherSame⟩ := otherReports twin
  rw [ended, otherEnded]
  exact .ok rfl { alike with notes := same.trans (alike.notes.trans otherSame.symm) }

end Reports

theorem mirrors_makeProgram (code : ByteArray) :
    Mirrors (fun program same => program.program = same.program) (Run.makeProgram code)
      (Run.makeProgram code) :=
  fun machine other alike => .ok
    ((machine.cache.program_make machine.holds code).trans
      (other.cache.program_make other.holds code).symm)
    { alike with }

/-- Buffers of a new frame that cannot be told apart. -/
structure SameBuffers (buffers other : Stack × Memory) : Prop where
  operands : buffers.1.items = other.1.items
  memory : buffers.2.Alike other.2

namespace Pool

theorem items_take (pool : Pool) : pool.take.1.1.items = #[] := by
  obtain ⟨spareStacks, spareMemories, stacksCleared, memoriesCleared⟩ := pool
  cases spareStacks with
  | nil => rfl
  | cons stack rest => exact Array.eq_empty_of_size_eq_zero (stacksCleared _ List.mem_cons_self)

theorem Tidy.taken {pool : Pool} (tidy : pool.Tidy) :
    pool.take.1.2.Tidy ∧ pool.take.1.2.size = 0 := by
  obtain ⟨spareStacks, spareMemories, stacksCleared, memoriesCleared⟩ := pool
  cases spareMemories with
  | nil => exact ⟨Memory.tidy_empty, rfl⟩
  | cons memory rest =>
      exact ⟨tidy memory List.mem_cons_self, memoriesCleared memory List.mem_cons_self⟩

theorem Tidy.rest {pool : Pool} (tidy : pool.Tidy) : pool.take.2.Tidy :=
  fun memory waiting => tidy memory (List.mem_of_mem_tail waiting)

theorem Tidy.give {pool : Pool} {frame : Frame} (tidy : pool.Tidy) (memory : frame.memory.Tidy) :
    (pool.give frame).Tidy :=
  List.forall_mem_cons.mpr ⟨Memory.tidy_reset memory, tidy⟩

end Pool

theorem takeBuffers_apply (host : Host) {machine : Machine} (tidy : machine.pool.Tidy) :
    ∃ stack memory pool, Run.takeBuffers host machine = .ok (stack, memory) { machine with pool } ∧
      stack.items = #[] ∧ memory.Tidy ∧ memory.size = 0 ∧ pool.Tidy := by
  unfold Run.takeBuffers
  split
  · obtain ⟨tidyMemory, cleared⟩ := tidy.taken
    exact ⟨_, _, _, rfl, machine.pool.items_take, tidyMemory, cleared, tidy.rest⟩
  · exact ⟨_, _, machine.pool, rfl, rfl, Memory.tidy_empty, rfl, tidy⟩

/-- Buffers that were used before are as good as new ones. -/
theorem mirrors_takeBuffers (host other : Host) :
    Mirrors SameBuffers (Run.takeBuffers host) (Run.takeBuffers other) := by
  intro machine twin alike
  obtain ⟨stack, memory, pool, taken, operands, tidyMemory, cleared, tidy⟩ :=
    takeBuffers_apply host alike.tidy
  obtain ⟨otherStack, otherMemory, otherPool, otherTaken, otherOperands, otherTidyMemory,
    otherCleared, otherTidy⟩ := takeBuffers_apply other alike.otherTidy
  rw [taken, otherTaken]
  exact .ok ⟨operands.trans otherOperands.symm,
    Memory.alike_of_cleared tidyMemory otherTidyMemory cleared otherCleared⟩
    { alike with tidy, otherTidy }

end CancunMachine
