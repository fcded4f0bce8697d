import CancunMachine.Instruction.Arithmetic

/-!
# Instructions on the surroundings

Instructions that look at the invocation, at other accounts and at the block. Looking at another
account costs more the first time, and the account is warmed only once its price is paid.
-/

namespace CancunMachine

namespace Instruction

variable (host : Host)

def pushFrame (value : Frame → Word) : Run Signal := pushing host .base (Run.frame value)

def pushSize (size : Frame → Nat) : Run Signal :=
  pushFrame host fun frame => .ofLimb (UInt64.ofNat (size frame))

/-- Pushes a value that is fixed for the whole run. -/
def pushFixed (value : Word) : Run Signal := pushing host .base (pure value)

/-- Host-owned accounts show no balance and are never warmed. -/
def balance : Run Signal := do
  let address := (← Run.peekOne).toAddress
  if host.policy.isSystemAccount address then
    Run.charge host.schedule.coldAccountAccess
    Run.drop 1
    Run.push .zero
    return .proceed
  let cold ← Run.isColdAddress address
  Run.charge (host.schedule.accountAccess cold)
  Run.warmAddress address
  let balance ← Run.onWorld (Access.readBalance host.refusals address)
  Run.drop 1
  Run.push balance
  return .proceed

/-- The 32 bytes of call data from the operand on; beyond the end stand zeros. -/
def calldataload : Run Signal := do
  Run.charge (host.schedule.tier .veryLow)
  let offset := (← Run.popOne).toNatSaturating
  let calldata ← Run.frame (·.invocation.calldata)
  Run.push (.ofBytes (Bytes.resized (Bytes.dropFirst calldata offset) 32))
  return .proceed

/-- Copies from a byte string of the frame into memory; the string reads as zero beyond its
end. -/
def copyFrom (source : Frame → ByteArray) : Run Signal := do
  let (target, offset, size) ← Run.peekThree
  let (size, target) ← Run.range size target
  let offset := offset.toNatSaturating
  let needed ← Run.reach target size
  Run.chargeCost (host.schedule.copy needed (← Run.memorySize) size)
  Run.drop 3
  let bytes ← Run.frame source
  Run.onMemory (Memory.copyFrom target bytes offset size)
  return .proceed

/-- Takes the price of looking at the code of an account, plus `extra`, and warms the account.
Whoever looks at a host-owned account must be able to afford a cold access even if it is warm. -/
def chargeCodeAccess (address : Address) (extra : UInt64) : Run Unit := do
  if host.policy.isHostAccount address then
    let estimate ← Run.ofHalting (Gas.plus host.schedule.coldAccountAccess extra)
    if (← Run.frame (·.gas)) < estimate then Run.halt .outOfGas
  let cold ← Run.isColdAddress address
  Run.chargeCost (Gas.plus (host.schedule.accountAccess cold) extra)
  Run.warmAddress address

/-- Looks at the code of the account on top of the stack; host-owned accounts show zero. -/
def inspectCode (view : Address → Access Word) : Run Signal := do
  let address := (← Run.peekOne).toAddress
  chargeCodeAccess host address 0
  Run.drop 1
  if host.policy.isHostAccount address then
    Run.push .zero
    return .proceed
  Run.push (← Run.onWorld (view address))
  return .proceed

def extcodesize : Run Signal :=
  inspectCode host fun address => do
    return .ofLimb (UInt64.ofNat (← Access.readCode host.refusals address).size)

/-- The digest of the code of an account; zero for an account that is empty or missing. -/
def extcodehash : Run Signal :=
  inspectCode host fun address => do
    match ← Access.readAccount host.refusals address with
    | some account => return if account.isEmpty then .zero else account.codeHash.toWord
    | none => return .zero

/-- Copies the code of another account into memory; host-owned accounts give nothing. -/
def extcodecopy : Run Signal := do
  let (address, target, offset, size) ← Run.peekFour
  let address := address.toAddress
  let (size, target) ← Run.range size target
  let offset := offset.toNatSaturating
  let needed ← Run.reach target size
  let whole ← Run.ofHalting
    (host.schedule.extcodecopy size needed (← Run.memorySize) false)
  chargeCodeAccess host address (subSaturating whole (host.schedule.accountAccess false))
  Run.drop 4
  if size = 0 || host.policy.isHostAccount address then return .proceed
  let code ← Run.onWorld (Access.readCode host.refusals address)
  Run.onMemory (Memory.copyFrom target code offset size)
  return .proceed

/-- Copies from the return data into memory; reading beyond its end halts the frame. -/
def returndatacopy : Run Signal := do
  let (target, offset, size) ← Run.peekThree
  let (size, target) ← Run.range size target
  let some offset := offset.toPosition? | Run.halt .outOfBounds
  let needed ← Run.reach target size
  Run.chargeCost (host.schedule.copy needed (← Run.memorySize) size)
  Run.drop 3
  let returnData ← Run.frame (·.returnData)
  let some bytes := Bytes.window? returnData offset size | Run.halt .outOfBounds
  Run.onMemory (Memory.store target bytes)
  return .proceed

/-- The number of past blocks whose hashes are visible. -/
def blockHistory : Word := .ofNat 256

/-- The oldest block whose hash is visible. -/
def oldestVisibleBlock (current : Word) : Word :=
  if current.lt blockHistory then .zero else current.sub blockHistory

/-- The hash of a recent block; zero for all others. The number is cut to 64 bits only after
its distance from the current block was checked. -/
def blockhash : Run Signal := do
  Run.charge host.schedule.blockhash
  let number ← Run.popOne
  let current := host.environment.blockNumber
  if !number.lt current || number.lt (oldestVisibleBlock current) then
    Run.push .zero
    return .proceed
  match ← Run.onWorld (Access.readBlockHash host.refusals number.limb0) with
  | some hash => Run.push hash.toWord
  | none => Run.push .zero
  return .proceed

def prevrandao : Run Signal :=
  pushFixed host ((host.environment.prevRandao.map Hash.toWord).getD .zero)

def chainid : Run Signal :=
  pushFixed host (host.overrides.chainId.getD (.ofLimb host.config.chainId))

def selfbalance : Run Signal :=
  pushing host .low do
    let address ← Run.frame (·.invocation.recipient)
    Run.onWorld (Access.readBalance host.refusals address)

/-- The hash of a blob of the transaction; zero beyond the last one. -/
def blobhash : Run Signal := do
  Run.charge host.schedule.blobhash
  let index ← Run.popOne
  let hash := index.toPosition?.bind (host.environment.blobHashes[·]?)
  Run.push ((hash.map Hash.toWord).getD .zero)
  return .proceed

end Instruction

end CancunMachine
