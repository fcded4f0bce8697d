import Mathlib.Tactic
import CancunMachine.Interpreter
import CancunMachine.Proofs.World.Access

/-!
# Everything that can happen while a frame runs

`Act` lists the changes that a frame can make to the machine by itself, each with what is known of
the frame when it makes it. `Evolves` is the course of a frame: acts, and children that are
entered, run their own course and are closed with their outcome. A property of all runs is proved
once per act and once for a child; no instruction has to be looked at again.
-/

namespace CancunMachine

/-- The parts of a frame that stay as they are while it runs. -/
structure Frame.SameContext (frame next : Frame) : Prop where
  invocation : next.invocation = frame.invocation
  program : next.program = frame.program
  warmMark : next.warmMark = frame.warmMark

theorem Frame.SameContext.refl (frame : Frame) : frame.SameContext frame := ⟨rfl, rfl, rfl⟩

/-- The changes a running frame makes by itself. Storage, logs and balances change only in a frame
that is not static, and code is deposited only by a creation. -/
inductive Act (host : Host) (machine : Machine) : Machine → Prop
  /-- The frame computes on its stack, its memory, its gas and its position. -/
  | compute (next : Frame) :
      machine.frame.SameContext next → Act host machine { machine with frame := next }
  | warm (key : WarmKey) : Act host machine { machine with warmth := machine.warmth.touch key }
  | report (event : Event) :
      Act host machine { machine with events := event :: machine.events }
  | cache (cache : Cache) : Act host machine { machine with cache }
  | pool (pool : Pool) : Act host machine { machine with pool }
  | writeSlot (key value : Word) :
      machine.frame.invocation.isStatic = false →
      Act host machine { machine with
        world := machine.world.setSlot machine.frame.invocation.recipient key value }
  | writeTransient (key value : Word) :
      machine.frame.invocation.isStatic = false →
      Act host machine { machine with
        substate := machine.substate.setTransient machine.frame.invocation.recipient key value }
  | refund (change : Int) :
      machine.frame.invocation.isStatic = false →
      Act host machine { machine with substate := machine.substate.addRefund change }
  | log (log : Log) :
      machine.frame.invocation.isStatic = false →
      log.address = machine.frame.invocation.recipient →
      Act host machine { machine with substate := machine.substate.addLog log }
  /-- A creator counts its creation. -/
  | raiseNonce :
      machine.frame.invocation.isStatic = false →
      machine.world.nonce machine.frame.invocation.recipient ≠ maxUInt64 →
      Act host machine { machine with
        world := machine.world.setNonce machine.frame.invocation.recipient
          (machine.world.nonce machine.frame.invocation.recipient + 1) }
  /-- A frame that destroys its account gives its whole balance away. -/
  | bequeath (beneficiary : Address) (world : World) :
      machine.frame.invocation.isStatic = false →
      World.Moves machine.frame.invocation.recipient beneficiary
        (machine.world.balance machine.frame.invocation.recipient) machine.world world →
      Act host machine { machine with world }
  | destroy :
      machine.frame.invocation.isStatic = false →
      machine.substate.isCreated machine.frame.invocation.recipient = true →
      Act host machine { machine with
        world := machine.world.setBalance machine.frame.invocation.recipient .zero
        substate := machine.substate.addDestroyed machine.frame.invocation.recipient }
  | deposit (code : ByteArray) :
      machine.frame.invocation.kind.isCreation = true →
      code.size ≤ host.config.maxCodeSize →
      (code.isEmpty = true ∨ Bytes.get code 0 ≠ Interpreter.reservedCodeByte) →
      Act host machine { machine with
        world := machine.world.setCode machine.frame.invocation.recipient code }

/-- What a frame does by itself, act after act. -/
abbrev Acts (host : Host) : Machine → Machine → Prop := Relation.ReflTransGen (Act host)

namespace Machine

/-- The machine at the entry of `child`, with the running frame suspended. -/
def entering (machine : Machine) (child : Frame) : Machine :=
  { machine with frame := child, suspended := machine.frame :: machine.suspended }

/-- The machine with everything opened that is needed to take its frame back. -/
def opened (host : Host) (machine : Machine) : Machine :=
  { machine with
    frame := { machine.frame with
      warmMark := machine.warmth.size, isTracked := host.config.trackStateChanges }
    world := machine.world.checkpoint
    substate := machine.substate.pushBackup
    events := if host.isTraced then .enter machine.frame.invocation :: machine.events
      else machine.events }

/-- What the end of a frame reports, latest first. -/
def exitEvents (host : Host) (frame : Frame) (outcome : Outcome) : List Event :=
  if host.isTraced then
    .exit frame.invocation.depth outcome ::
      (frame.lastWrite.map fun write =>
        .updated frame.invocation.recipient write.1 write.2).toList
  else []

/-- The machine after the end of its frame was reported. -/
def reported (host : Host) (outcome : Outcome) (machine : Machine) : Machine :=
  { machine with
    frame := { machine.frame with lastWrite := none }
    events := exitEvents host machine.frame outcome ++ machine.events }

/-- The machine with `parent` running again in place of its child. -/
def resumed (host : Host) (machine : Machine) (parent : Frame) (suspended : List Frame) :
    Machine :=
  { machine with
    frame := parent
    suspended
    pool := if host.reusesBuffers then machine.pool.give machine.frame else machine.pool }

end Machine

/-- A frame that has not run yet, with nothing left of an earlier one. -/
structure Frame.Fresh (frame : Frame) : Prop where
  start : frame = .start frame.invocation frame.program frame.stack frame.memory
  stack : frame.stack.size = 0
  memory : frame.memory.size = 0

/-- What is known of a child that a frame is about to enter. -/
structure Entry.Legal (host : Host) (machine : Machine) (entry : Entry) : Prop where
  fresh : entry.child.Fresh
  depth : entry.child.invocation.depth = machine.frame.invocation.depth + 1
  depthAllowed : machine.frame.invocation.depth < host.config.maxCallDepth
  /-- The value comes from the account of the parent. -/
  source : entry.transfer.source = machine.frame.invocation.recipient ∨
    entry.transfer.value.isZero = true
  target : entry.transfer.target = entry.child.invocation.recipient
  affordable : entry.transfer.value.isZero = true ∨
    (machine.world.balance entry.transfer.source).lt entry.transfer.value = false
  /-- Only a frame that may write creates contracts, and the initcode may write, too. -/
  creation : entry.child.invocation.kind.isCreation = true →
    machine.frame.invocation.isStatic = false ∧ entry.child.invocation.isStatic = false
  inherits : machine.frame.invocation.isStatic = true → entry.child.invocation.isStatic = true
  /-- A static child receives nothing that its account did not have before. -/
  neutral : entry.child.invocation.isStatic = true →
    entry.transfer.value.isZero = true ∨ entry.transfer.source = entry.transfer.target

/-- What happens between the opening of a frame and its first instruction. -/
inductive Starts (host : Host) (transfer : Transfer) (machine : Machine) : Machine → Prop
  /-- The address of a new contract was in use. -/
  | refused : Starts host transfer machine machine
  | called (world : World) :
      machine.frame.invocation.kind.isCreation = false →
      World.Moves transfer.source transfer.target transfer.value machine.world world →
      Starts host transfer machine { machine with world }
  | created (world : World) :
      machine.frame.invocation.kind.isCreation = true →
      (∀ account, machine.world.account? machine.frame.invocation.recipient = some account →
        account.hasCode = false ∧ account.nonce = 0) →
      World.Moves transfer.source transfer.target transfer.value
        (machine.world.setNonce machine.frame.invocation.recipient 1) world →
      Starts host transfer machine { machine with
        world
        substate := machine.substate.addCreated machine.frame.invocation.recipient }

/-- An outcome that tells the truth about a frame: it shows the frame as it is, and a frame that
halted has lost its gas and its output. -/
structure Outcome.Tells (outcome : Outcome) (frame : Frame) : Prop where
  shows : outcome = .ofFrame frame outcome.verdict
  settled : ∀ cause, outcome.verdict = .failure cause → cause.endsMessage = false
  forfeits : ∀ reason, outcome.verdict = .failure (.halt reason) →
    frame.gas = 0 ∧ frame.output = ByteArray.empty

theorem Outcome.Tells.gasRemaining {outcome : Outcome} {frame : Frame}
    (tells : outcome.Tells frame) : outcome.gasRemaining = frame.gas := by
  rw [tells.shows]
  rfl

/-- The end of a frame: what it did is kept after a success and taken back after a failure. -/
inductive Closes (host : Host) (outcome : Outcome) (machine : Machine) : Machine → Prop
  | kept (world : World) :
      outcome.isSuccess = true →
      machine.world.commit = .ok world →
      Closes host outcome machine
        (.reported host outcome { machine with
          world, substate := machine.substate.commitBackup })
  | undone (world : World) :
      outcome.isSuccess = false →
      machine.world.revert = .ok world →
      Closes host outcome machine
        (.reported host outcome { machine with
          world
          substate := machine.substate.revertBackup
          warmth := machine.warmth.unwind machine.frame.warmMark })

/-- The course of a frame, between two of its instructions or within one of them. -/
inductive Evolves (host : Host) : Machine → Machine → Prop
  | refl (machine : Machine) : Evolves host machine machine
  | act {start middle final : Machine} :
      Evolves host start middle → Act host middle final → Evolves host start final
  | child {start middle started ended closed : Machine} {entry : Entry} {outcome : Outcome} :
      Evolves host start middle →
      entry.Legal host middle →
      Starts host entry.transfer ((middle.entering entry.child).opened host) started →
      Evolves host started ended →
      outcome.Tells ended.frame →
      Closes host outcome ended closed →
      Evolves host start (closed.resumed host middle.frame middle.suspended)

/-- A frame from its entry to its exit. -/
inductive FrameRuns (host : Host) (transfer : Transfer) (machine : Machine) (outcome : Outcome) :
    Machine → Prop
  | intro {started ended closed : Machine} :
      Starts host transfer (machine.opened host) started →
      Evolves host started ended →
      outcome.Tells ended.frame →
      Closes host outcome ended closed →
      FrameRuns host transfer machine outcome closed

theorem Act.evolves {host : Host} {machine final : Machine} (act : Act host machine final) :
    Evolves host machine final :=
  .act (.refl machine) act

theorem Acts.evolves {host : Host} {machine final : Machine} (acts : Acts host machine final) :
    Evolves host machine final := by
  induction acts with
  | refl => exact .refl machine
  | tail _ acted inductionHypothesis => exact .act inductionHypothesis acted

theorem Evolves.trans {host : Host} {start middle final : Machine}
    (first : Evolves host start middle) (second : Evolves host middle final) :
    Evolves host start final := by
  induction second with
  | refl => exact first
  | act _ acted inductionHypothesis => exact .act (inductionHypothesis first) acted
  | child _ legal starts runs tells closes inductionHypothesis _ =>
      exact .child (inductionHypothesis first) legal starts runs tells closes

theorem Evolves.enter {host : Host} {machine closed : Machine} {entry : Entry}
    {outcome : Outcome} (legal : entry.Legal host machine)
    (runs : FrameRuns host entry.transfer (machine.entering entry.child) outcome closed) :
    Evolves host machine (closed.resumed host machine.frame machine.suspended) := by
  cases runs with
  | intro starts course tells closes =>
      exact .child (.refl machine) legal starts course tells closes

/-- What stays the same for as long as a frame runs. -/
structure Machine.SamePlace (machine final : Machine) : Prop where
  suspended : final.suspended = machine.suspended
  context : machine.frame.SameContext final.frame

theorem Machine.SamePlace.trans {start middle final : Machine} (first : start.SamePlace middle)
    (second : middle.SamePlace final) : start.SamePlace final where
  suspended := second.suspended.trans first.suspended
  context :=
    { invocation := second.context.invocation.trans first.context.invocation
      program := second.context.program.trans first.context.program
      warmMark := second.context.warmMark.trans first.context.warmMark }

theorem Act.samePlace {host : Host} {machine final : Machine} (act : Act host machine final) :
    machine.SamePlace final := by
  cases act with
  | compute next same => exact ⟨rfl, same⟩
  | _ => exact ⟨rfl, .refl _⟩

theorem Starts.samePlace {host : Host} {transfer : Transfer} {machine final : Machine}
    (starts : Starts host transfer machine final) : machine.SamePlace final := by
  cases starts <;> exact ⟨rfl, .refl _⟩

theorem Closes.suspended {host : Host} {outcome : Outcome} {machine final : Machine}
    (closes : Closes host outcome machine final) : final.suspended = machine.suspended := by
  cases closes <;> rfl

/-- Whatever a frame and its children do, the frame remains in its place. -/
theorem Evolves.samePlace {host : Host} {machine final : Machine}
    (evolves : Evolves host machine final) : machine.SamePlace final := by
  induction evolves with
  | refl => exact ⟨rfl, .refl _⟩
  | act _ acted inductionHypothesis => exact inductionHypothesis.trans acted.samePlace
  | child _ _ _ _ _ _ inductionHypothesis _ =>
      exact inductionHypothesis.trans ⟨rfl, .refl _⟩

/-- A child leaves the frames that wait for it as they were. -/
theorem FrameRuns.suspended {host : Host} {transfer : Transfer} {machine final : Machine}
    {outcome : Outcome} (runs : FrameRuns host transfer machine outcome final) :
    final.suspended = machine.suspended := by
  cases runs with
  | intro starts course _ closes =>
      rw [closes.suspended, course.samePlace.suspended, starts.samePlace.suspended]
      rfl

end CancunMachine
