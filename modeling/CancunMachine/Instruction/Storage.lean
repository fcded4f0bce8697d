import CancunMachine.Instruction.Arithmetic

/-!
# Instructions on memory and storage

Instructions on memory, persistent and transient storage, logs and the program counter.
-/

namespace CancunMachine

namespace Instruction

variable (host : Host)

def keccak256 : Run Signal := do
  let (offset, size) ← Run.peekTwo
  let (size, offset) ← Run.range size offset
  let needed ← Run.reach offset size
  Run.chargeCost (host.schedule.keccak256 needed (← Run.memorySize) size)
  Run.drop 2
  let data ← Run.onMemory (Memory.load offset size)
  Run.push (keccak data).toWord
  return .proceed

/-- Takes the price of an access of `size` bytes at the position on top of the stack and gives
that position. -/
def chargeMemoryAccess (offset : Word) (size : Nat) : Run Nat := do
  let position ← Run.position offset
  let needed ← Run.reach position size
  Run.chargeCost (host.schedule.memoryAccess needed (← Run.memorySize))
  return position

def mload : Run Signal := do
  let position ← chargeMemoryAccess host (← Run.peekOne) 32
  Run.drop 1
  let word ← Run.onMemory (Memory.loadWord position)
  Run.push word
  return .proceed

def mstore : Run Signal := do
  let (offset, value) ← Run.peekTwo
  let position ← chargeMemoryAccess host offset 32
  Run.drop 2
  Run.onMemory (Memory.storeWord position value)
  return .proceed

def mstore8 : Run Signal := do
  let (offset, value) ← Run.peekTwo
  let position ← chargeMemoryAccess host offset 1
  Run.drop 2
  Run.onMemory (Memory.storeByte position value.limb0.toUInt8)
  return .proceed

def mcopy : Run Signal := do
  let (target, source, size) ← Run.peekThree
  let (size, target) ← Run.range size target
  let source ← if size = 0 then pure 0 else Run.position source
  let neededSource ← Run.reach source size
  let neededTarget ← Run.reach target size
  Run.chargeCost (host.schedule.copy (max neededSource neededTarget) (← Run.memorySize) size)
  Run.drop 3
  Run.onMemory (Memory.copyWithin source target size)
  return .proceed

def sload : Run Signal := do
  let key ← Run.peekOne
  let address ← Run.frame (·.invocation.recipient)
  let cold ← Run.isColdSlot address key
  Run.charge (host.schedule.sload cold)
  Run.warmSlot address key
  Run.drop 1
  let value ← Run.onWorld (Access.readSlot host.refusals address key)
  Run.push value
  if ← Run.frame (·.isTracked) then Run.trace host (.read address key value)
  return .proceed

def sstorePrice (initial current new : Word) (cold : Bool) : Except Halt UInt64 :=
  let cost := host.schedule.sstoreCost initial current new
  if cold then Gas.plus cost host.schedule.coldSload else .ok cost

def sstore : Run Signal := do
  Run.forbidStatic
  if (← Run.frame (·.gas)) ≤ host.schedule.sstoreSentry then Run.halt .outOfGas
  let (key, new) ← Run.peekTwo
  let address ← Run.frame (·.invocation.recipient)
  let current ← Run.onWorld (Access.readSlot host.refusals address key)
  let initial ← Run.onWorld (Access.readInitial host.refusals address key)
  let cold ← Run.isColdSlot address key
  Run.chargeCost (sstorePrice host initial current new cold)
  Run.warmSlot address key
  Run.drop 2
  Run.modifySubstate (·.addRefund (host.schedule.sstoreRefund initial current new))
  Run.onWorld (Access.writeSlot host.refusals address key new)
  Run.modifyFrame fun frame => { frame with lastWrite := some (key, new) }
  if ← Run.frame (·.isTracked) then Run.trace host (.written address key new)
  return .proceed

def tload : Run Signal := do
  Run.charge host.schedule.transientStorage
  let key ← Run.popOne
  let address ← Run.frame (·.invocation.recipient)
  Run.push ((← get).substate.transient address key)
  return .proceed

def tstore : Run Signal := do
  Run.forbidStatic
  Run.charge host.schedule.transientStorage
  let (key, value) ← Run.popTwo
  let address ← Run.frame (·.invocation.recipient)
  Run.modifySubstate (·.setTransient address key value)
  return .proceed

def log (topicCount : Nat) : Run Signal := do
  Run.forbidStatic
  let _ ← Run.peek (topicCount + 2)
  let (offset, size) ← Run.peekTwo
  let (size, offset) ← Run.range size offset
  let needed ← Run.reach offset size
  Run.chargeCost (host.schedule.log needed (← Run.memorySize) size topicCount)
  Run.drop 2
  let topics ← Run.pop topicCount
  let address ← Run.frame (·.invocation.recipient)
  let data ← Run.onMemory (Memory.load offset size)
  Run.modifySubstate (·.addLog ⟨address, topics.toList.map Word.toHash, data⟩)
  return .proceed

def jump : Run Signal := do
  Run.charge (host.schedule.tier .mid)
  let destination ← Run.popOne
  Run.updateFrame (·.jump destination)
  return .proceed

def jumpi : Run Signal := do
  Run.charge (host.schedule.tier .high)
  let (destination, condition) ← Run.popTwo
  if !condition.isZero then Run.updateFrame (·.jump destination)
  return .proceed

def jumpdest : Run Signal := do
  Run.charge host.schedule.jumpdest
  return .proceed

/-- The position of this instruction; the program counter is already past it. -/
def pc : Run Signal :=
  pushing host .base (Run.frame fun frame => .ofLimb (UInt64.ofNat (frame.pc - 1)))

/-- The gas left after this instruction was paid for. -/
def gas : Run Signal := pushing host .base (Run.frame fun frame => .ofLimb frame.gas)

end Instruction

end CancunMachine
