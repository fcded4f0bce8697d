import CancunMachine.Host

/-!
# Steps of a running message

The steps all instructions are made of. A step that fails leaves the machine as far as it had
come.
-/

namespace CancunMachine

abbrev Run := EStateM Failure Machine

namespace Run

def halt {α : Type} (reason : Halt) : Run α := throw (.halt reason)

/-- The value, or the failure as a failure of the machine. -/
def ofExcept {α : Type} : Except Failure α → Run α
  | .ok value => pure value
  | .error failure => throw failure

/-- The value, or the halt as a halt of the frame. -/
def ofHalting {α : Type} : Except Halt α → Run α
  | .ok value => pure value
  | .error reason => halt reason

/-- Runs a computation and hands its failure back as a value. -/
def attempt {α : Type} (action : Run α) : Run (Except Failure α) := fun machine =>
  match action machine with
  | .ok value machine => .ok (.ok value) machine
  | .error failure machine => .ok (.error failure) machine

def frame {α : Type} (question : Frame → α) : Run α := do return question (← get).frame

def modifyFrame (change : Frame → Frame) : Run Unit :=
  modify fun machine => { machine with frame := change machine.frame }

/-- Changes the frame, or halts it as it is. -/
def updateFrame (change : Frame → Except Halt Frame) : Run Unit := do
  let changed ← ofHalting (change (← get).frame)
  modifyFrame fun _ => changed

def charge (cost : UInt64) : Run Unit := updateFrame (·.charge cost)

def chargeCost (cost : Except Halt UInt64) : Run Unit := do charge (← ofHalting cost)

/-- The top operands, top first. -/
def peek (count : Nat) : Run (Vector Word count) := do
  ofHalting ((← get).frame.stack.peek count)

/-- Changes the stack, or halts the frame with the old one. -/
def updateStack (change : Stack → Except Halt Stack) : Run Unit := do
  let stack ← ofHalting (change (← get).frame.stack)
  modifyFrame ({ · with stack })

def peekOne : Run Word := do
  let words ← peek 1
  return words[0]

def peekTwo : Run (Word × Word) := do
  let words ← peek 2
  return (words[0], words[1])

def peekThree : Run (Word × Word × Word) := do
  let words ← peek 3
  return (words[0], words[1], words[2])

def peekFour : Run (Word × Word × Word × Word) := do
  let words ← peek 4
  return (words[0], words[1], words[2], words[3])

def drop (count : Nat) : Run Unit := updateStack (·.drop count)

/-- Takes the top operands off, top first. -/
def pop (count : Nat) : Run (Vector Word count) := do
  let words ← peek count
  drop count
  return words

def popOne : Run Word := do
  let word ← peekOne
  drop 1
  return word

def popTwo : Run (Word × Word) := do
  let words ← peekTwo
  drop 2
  return words

def popThree : Run (Word × Word × Word) := do
  let words ← peekThree
  drop 3
  return words

def push (word : Word) : Run Unit := updateStack (·.push word)

/-- Works on the memory of the frame. -/
def onMemory {α : Type} (action : Memory.Action α) : Run α := fun machine =>
  match action machine.frame.memory with
  | .ok value memory => .ok value { machine with frame.memory := memory }
  | .error failure memory => .error failure { machine with frame.memory := memory }

def memorySize : Run Nat := frame (·.memory.size)

def position (word : Word) : Run Nat := ofHalting word.position

def range (size offset : Word) : Run (Nat × Nat) := ofHalting (size.range offset)

def reach (offset size : Nat) : Run Nat := ofHalting (Memory.sizeToReach offset size)

/-- Works on the world. -/
def onWorld {α : Type} (access : Access α) : Run α := fun machine =>
  match access machine.world with
  | .ok value world => .ok value { machine with world }
  | .error error world => .error (.store error) { machine with world }

def modifyWarmth (change : Warmth → Warmth) : Run Unit :=
  modify fun machine => { machine with warmth := change machine.warmth }

def warmAddress (address : Address) : Run Unit := modifyWarmth (·.touchAddress address)

def warmSlot (address : Address) (slot : Word) : Run Unit := modifyWarmth (·.touchSlot address slot)

def isColdAddress (address : Address) : Run Bool := do
  return !(← get).warmth.isWarmAddress address

def isColdSlot (address : Address) (slot : Word) : Run Bool := do
  return !(← get).warmth.isWarm ⟨address, some slot⟩

def modifySubstate (change : Substate → Substate) : Run Unit :=
  modify fun machine => { machine with substate := change machine.substate }

def record (event : Event) : Run Unit :=
  modify fun machine => { machine with events := event :: machine.events }

/-- Reports an event to the tracer, if there is one. -/
def trace (host : Host) (event : Event) : Run Unit :=
  if host.isTraced then record event else pure ()

/-- Fails in a static frame. -/
def forbidStatic : Run Unit := do
  if ← frame (·.invocation.isStatic) then halt .notAllowedInStaticContext

def makeProgram (code : ByteArray) : Run Interned := fun machine =>
  let (program, cache) := machine.cache.make machine.holds code
  .ok program { machine with cache }

def takeBuffers (host : Host) : Run (Stack × Memory) := fun machine =>
  if host.reusesBuffers then
    let (buffers, pool) := machine.pool.take
    .ok buffers { machine with pool }
  else .ok (.empty, .empty) machine

end Run

end CancunMachine
