import CancunMachine.Deployment
import CancunMachine.Instruction.Arithmetic

/-!
# Calls, creations and ends of frames

Instructions that start and end frames. A call keeps its operands on the stack until it is paid
for. The child runs through a function given from outside; when it ends, its parent takes back
the unused gas and sees the outcome.
-/

namespace CancunMachine

/-- Value that moves when a frame starts. -/
structure Transfer where
  source : Address
  target : Address
  value : Word

/-- A child that is ready to be entered. -/
structure Entry where
  child : Frame
  transfer : Transfer

namespace Instruction

structure CallOperands where
  gas : Word
  argumentsOffset : Nat
  argumentsSize : Nat
  returnOffset : Nat
  returnSize : Nat

namespace CallOperands

def read (gas argumentsOffset argumentsSize returnOffset returnSize : Word) :
    Run CallOperands := do
  let (argumentsSize, argumentsOffset) ← Run.range argumentsSize argumentsOffset
  let (returnSize, returnOffset) ← Run.range returnSize returnOffset
  return { gas, argumentsOffset, argumentsSize, returnOffset, returnSize }

/-- The memory size that covers both ranges. -/
def reach (operands : CallOperands) : Run Nat := do
  let arguments ← Run.reach operands.argumentsOffset operands.argumentsSize
  let returned ← Run.reach operands.returnOffset operands.returnSize
  return max arguments returned

end CallOperands

/-- Who a call is from, in whose name it runs and whose code it runs. -/
structure CallTarget where
  kind : CallKind
  sender : Address
  recipient : Address
  codeAddress : Address
  value : Word
  /-- Whether the value moves from the current account to the recipient. -/
  transfersValue : Bool
  isStatic : Bool

def CallTarget.movesValue (target : CallTarget) : Bool :=
  target.transfersValue && !target.value.isZero

/-- A call as its operands ask for it; the operands are still on the stack. -/
structure CallRequest where
  target : CallTarget
  operands : CallOperands
  operandCount : Nat

variable (host : Host) (enter : Transfer → Run Outcome)

/-- Suspends the running frame and starts `child`. -/
def suspend (child : Frame) : Run Unit :=
  modify fun machine =>
    { machine with frame := child, suspended := machine.frame :: machine.suspended }

/-- Resumes the frame that waits for the running one and keeps the buffers of the latter. -/
def resume : Run Unit := do
  let machine ← get
  match machine.suspended with
  | [] => throw (.internal .noSuspendedFrame)
  | parent :: suspended =>
      set { machine with
        frame := parent
        suspended
        pool := if host.reusesBuffers then machine.pool.give machine.frame else machine.pool }

/-- Runs `child` to its end; the parent is resumed even if the child cannot be settled. -/
def runChild (child : Frame) (transfer : Transfer) : Run Outcome := do
  suspend child
  let outcome ← Run.attempt (enter transfer)
  resume host
  Run.ofExcept outcome

/-- Raises a halt of the child in the resumed parent if it must not pass unnoticed: a queued halt
once, a sticky one always. -/
def raiseChildHalt (outcome : Outcome) : Run Unit := do
  let queued ← Run.frame (·.queuedHalt)
  Run.modifyFrame fun frame => { frame with queuedHalt := none }
  match outcome.haltReason?, queued with
  | none, _ => return
  | some _, some reason => Run.halt reason
  | some reason, none => if reason.isSticky then Run.halt reason

def returnGas (outcome : Outcome) : Run Unit := do
  match addWithin? (← Run.frame (·.gas)) outcome.gasRemaining with
  | some gas => Run.modifyFrame fun frame => { frame with gas }
  | none => throw (.internal .overflow)

def finishCall (outcome : Outcome) (operands : CallOperands) : Run Signal := do
  raiseChildHalt outcome
  returnGas outcome
  Run.modifyFrame fun frame => { frame with returnData := outcome.output }
  Run.onMemory (Memory.storePadded operands.returnOffset outcome.output operands.returnSize)
  Run.push (.ofBool outcome.isSuccess)
  return .proceed

/-- Halts unless the policy lets the target be called. -/
def checkTarget (target : CallTarget) : Run Unit := do
  if (target.kind = .callCode || target.kind = .delegateCall)
      && host.policy.forbidsDelegation target.codeAddress then
    Run.halt .invalidOpcode
  if host.policy.mustBePresent target.codeAddress then
    if !(← Run.onWorld (Access.accountExists host.refusals target.codeAddress)) then
      Run.halt .invalidAddress

def callCreatesAccount (target : CallTarget) : Run Bool :=
  if target.movesValue && target.kind = .call then
    Run.onWorld (Access.accountIsEmpty host.refusals target.recipient)
  else pure false

/-- Halts unless the call can be afforded before anything is warmed. Static calls are measured
at the warm price. -/
def requireCallGas (target : CallTarget) (baseCost : UInt64) : Run Unit := do
  let access := if target.isStatic then host.schedule.warmAccess
    else host.schedule.coldAccountAccess
  let estimate ← Run.ofHalting (Gas.plus baseCost access)
  if (← Run.frame (·.gas)) < estimate then Run.halt .outOfGas

/-- Whether a call fails before its callee is entered: the value is not there, or the nesting is
too deep. -/
def callFailsEarly (target : CallTarget) : Run Bool := do
  let current ← Run.frame (·.invocation.recipient)
  let poor ←
    if target.movesValue then
      pure ((← Run.onWorld (Access.readBalance host.refusals current)).lt target.value)
    else pure false
  let depth ← Run.frame (·.invocation.depth)
  return poor || host.config.maxCallDepth ≤ depth

/-- Takes the gas handed to a callee from the caller; a callee that receives value gets a stipend
on top. -/
def chargeChildGas (target : CallTarget) (requested : Word) : Run UInt64 := do
  let gas := Gas.forChild (← Run.frame (·.gas)) requested.toLimbSaturating
  Run.charge gas
  if target.movesValue then
    match addWithin? gas host.schedule.callStipend with
    | some gas => return gas
    | none => throw (.internal .overflow)
  else return gas

def calleeFrame (target : CallTarget) (operands : CallOperands) (gas : UInt64) : Run Frame := do
  let calldata ← Run.onMemory (Memory.load operands.argumentsOffset operands.argumentsSize)
  let depth ← Run.frame (·.invocation.depth)
  let code ← Run.onWorld (Access.readCode host.refusals target.codeAddress)
  let program ← Run.makeProgram code
  let (stack, memory) ← Run.takeBuffers host
  let invocation : Invocation :=
    { kind := target.kind
      sender := target.sender
      recipient := target.recipient
      codeAddress := target.codeAddress
      value := target.value
      calldata
      isStatic := target.isStatic
      gasLimit := gas
      depth := depth + 1
      returnOffset := operands.returnOffset
      returnSize := operands.returnSize }
  return .start invocation program stack memory

def callTransfer (target : CallTarget) (current : Address) : Transfer :=
  if target.transfersValue then ⟨current, target.recipient, target.value⟩
  else ⟨target.recipient, target.recipient, .zero⟩

/-- Checks a call before anything is charged for it; gives the memory size it needs and its base
cost. -/
def quoteCall (request : CallRequest) : Run (Nat × UInt64) := do
  let target := request.target
  checkTarget host target
  let createsAccount ← callCreatesAccount host target
  let needed ← request.operands.reach
  let baseCost ← Run.ofHalting
    (host.schedule.call needed (← Run.memorySize) target.movesValue createsAccount)
  requireCallGas host target baseCost
  Run.modifyFrame fun frame => { frame with returnData := ByteArray.empty }
  return (needed, baseCost)

/-- Takes the price of a call and its operands, and grows the memory over its ranges. -/
def payCall (request : CallRequest) (needed : Nat) (baseCost : UInt64) : Run Unit := do
  let cold ← Run.isColdAddress request.target.codeAddress
  Run.chargeCost (Gas.plus baseCost (host.schedule.accountAccess cold))
  Run.warmAddress request.target.codeAddress
  Run.drop request.operandCount
  Run.onMemory (Memory.grow needed)

/-- Pays for a call that is going to happen and makes its callee. -/
def calleeEntry (request : CallRequest) (needed : Nat) (baseCost : UInt64) : Run Entry := do
  payCall host request needed baseCost
  let gas ← chargeChildGas host request.target request.operands.gas
  let current ← Run.frame (·.invocation.recipient)
  let child ← calleeFrame host request.target request.operands gas
  return ⟨child, callTransfer request.target current⟩

/-- What all calls do before their callee is entered; a call that fails early enters none. -/
def prepareCall (request : CallRequest) : Run (Option Entry) := do
  let (needed, baseCost) ← quoteCall host request
  if ← callFailsEarly host request.target then
    Run.drop request.operandCount
    Run.push .zero
    return none
  return some (← calleeEntry host request needed baseCost)

/-- The common course of all calls. -/
def performCall (request : CallRequest) : Run Signal := do
  match ← prepareCall host request with
  | none => return .proceed
  | some entry =>
      let outcome ← runChild host enter entry.child entry.transfer
      finishCall outcome request.operands

/-- A call of another account; a static frame may not send value with it. -/
def readCall : Run CallRequest := do
  let words ← Run.peek 7
  let operands ← CallOperands.read words[0] words[3] words[4] words[5] words[6]
  let invocation ← Run.frame (·.invocation)
  if invocation.isStatic && !words[2].isZero then Run.halt .notAllowedInStaticContext
  let callee := words[1].toAddress
  let target : CallTarget :=
    { kind := .call
      sender := host.policy.senderFor invocation.recipient callee
      recipient := callee
      codeAddress := callee
      value := words[2]
      transfersValue := true
      isStatic := invocation.isStatic }
  return ⟨target, operands, 7⟩

/-- A call that runs the code of another account in the name of the current one. -/
def readCallcode : Run CallRequest := do
  let words ← Run.peek 7
  let operands ← CallOperands.read words[0] words[3] words[4] words[5] words[6]
  let invocation ← Run.frame (·.invocation)
  let target : CallTarget :=
    { kind := .callCode
      sender := host.policy.senderFor invocation.recipient invocation.recipient
      recipient := invocation.recipient
      codeAddress := words[1].toAddress
      value := words[2]
      transfersValue := true
      isStatic := invocation.isStatic }
  return ⟨target, operands, 7⟩

/-- A call that runs the code of another account as if it were the code of the current frame. -/
def readDelegatecall : Run CallRequest := do
  let words ← Run.peek 6
  let operands ← CallOperands.read words[0] words[2] words[3] words[4] words[5]
  let invocation ← Run.frame (·.invocation)
  let target : CallTarget :=
    { kind := .delegateCall
      sender := invocation.sender
      recipient := invocation.recipient
      codeAddress := words[1].toAddress
      value := invocation.value
      transfersValue := false
      isStatic := invocation.isStatic }
  return ⟨target, operands, 6⟩

/-- A call whose frames may not change anything. -/
def readStaticcall : Run CallRequest := do
  let words ← Run.peek 6
  let operands ← CallOperands.read words[0] words[2] words[3] words[4] words[5]
  let invocation ← Run.frame (·.invocation)
  let callee := words[1].toAddress
  let target : CallTarget :=
    { kind := .staticCall
      sender := host.policy.senderFor invocation.recipient callee
      recipient := callee
      codeAddress := callee
      value := .zero
      transfersValue := false
      isStatic := true }
  return ⟨target, operands, 6⟩

def call : Run Signal := do performCall host enter (← readCall host)

def callcode : Run Signal := do performCall host enter (← readCallcode host)

def delegatecall : Run Signal := do performCall host enter (← readDelegatecall)

def staticcall : Run Signal := do performCall host enter (← readStaticcall host)

/-- Hands the outcome of a creation to its parent; only a failed one leaves return data. -/
def finishCreation (outcome : Outcome) (address : Address) : Run Signal := do
  raiseChildHalt outcome
  returnGas outcome
  if outcome.isSuccess then
    Run.push address.toWord
  else
    Run.modifyFrame fun frame => { frame with returnData := outcome.output }
    Run.push .zero
  return .proceed

def creationFailsEarly (deployer : Address) (value : Word) : Run Bool := do
  let balance ← Run.onWorld (Access.readBalance host.refusals deployer)
  let nonce ← Run.onWorld (Access.readNonce host.refusals deployer)
  let depth ← Run.frame (·.invocation.depth)
  return balance.lt value || nonce = maxUInt64 || host.config.maxCallDepth ≤ depth

def initcodeFrame (kind : CallKind) (deployer address : Address) (value : Word) (gas : UInt64)
    (code : ByteArray) : Run Frame := do
  let program ← Run.makeProgram code
  let (stack, memory) ← Run.takeBuffers host
  let depth ← Run.frame (·.invocation.depth)
  let invocation : Invocation :=
    { kind
      sender := host.policy.senderFor deployer address
      recipient := address
      codeAddress := address
      value
      calldata := ByteArray.empty
      isStatic := false
      gasLimit := gas
      depth := depth + 1
      returnOffset := 0
      returnSize := 0 }
  return .start invocation program stack memory

/-- A creation as its operands ask for it; the operands are still on the stack. -/
structure CreationRequest where
  value : Word
  codeOffset : Word
  codeSize : Word
  salt : Option Word

def CreationRequest.operandCount (request : CreationRequest) : Nat :=
  if request.salt.isSome then 4 else 3

def CreationRequest.address (request : CreationRequest) (deployer : Address) (nonce : UInt64)
    (code : ByteArray) : Address :=
  match request.salt with
  | some salt => Deployment.saltedAddress deployer salt code
  | none => Deployment.plainAddress deployer nonce

/-- Counts a creation that is going to happen and makes the frame of its initcode. The nonce is
raised before the address is derived and stays raised if the creation fails. -/
def initcodeEntry (request : CreationRequest) (deployer : Address) (offset size : Nat) :
    Run Entry := do
  let code ← Run.onMemory (Memory.load offset size)
  let nonce ← Run.onWorld (Access.incrementNonce host.refusals deployer)
  let address := request.address deployer nonce code
  Run.warmAddress address
  let available ← Run.frame (·.gas)
  let gas := Gas.forChild available available
  Run.charge gas
  let kind := if request.salt.isSome then .create2 else .create
  let child ← initcodeFrame host kind deployer address request.value gas code
  return ⟨child, ⟨deployer, address, request.value⟩⟩

/-- Takes the price of a creation and its operands; gives the memory range of the initcode. -/
def payCreation (request : CreationRequest) : Run (Nat × Nat) := do
  Run.forbidStatic
  let (size, offset) ← Run.range request.codeSize request.codeOffset
  if host.config.maxInitcodeSize < size then Run.halt .outOfGas
  let needed ← Run.reach offset size
  Run.chargeCost (host.schedule.create needed (← Run.memorySize) size request.salt.isSome)
  Run.drop request.operandCount
  Run.onMemory (Memory.grow needed)
  Run.modifyFrame fun frame => { frame with returnData := ByteArray.empty }
  return (offset, size)

/-- What both creations do before their initcode is entered; one that fails early enters none. -/
def prepareCreation (request : CreationRequest) : Run (Option Entry) := do
  let (offset, size) ← payCreation host request
  let deployer ← Run.frame (·.invocation.recipient)
  if ← creationFailsEarly host deployer request.value then
    Run.push .zero
    return none
  return some (← initcodeEntry host request deployer offset size)

/-- The common course of both creations. -/
def performCreation (request : CreationRequest) : Run Signal := do
  match ← prepareCreation host request with
  | none => return .proceed
  | some entry =>
      let outcome ← runChild host enter entry.child entry.transfer
      finishCreation outcome entry.child.invocation.recipient

def readCreate : Run CreationRequest := do
  let (value, offset, size) ← Run.peekThree
  return ⟨value, offset, size, none⟩

/-- A creation whose address depends on a salt instead of a nonce. -/
def readCreate2 : Run CreationRequest := do
  let (value, offset, size, salt) ← Run.peekFour
  return ⟨value, offset, size, some salt⟩

def create : Run Signal := do performCreation host enter (← readCreate)

def create2 : Run Signal := do performCreation host enter (← readCreate2)

def setOutput : Run Unit := do
  let (offset, size) ← Run.peekTwo
  let (size, offset) ← Run.range size offset
  let needed ← Run.reach offset size
  Run.chargeCost (host.schedule.exit needed (← Run.memorySize))
  Run.drop 2
  let output ← Run.onMemory (Memory.load offset size)
  Run.modifyFrame fun frame => { frame with output }

def returns : Run Signal := do
  setOutput host
  return .stop

def revert : Run Signal := do
  setOutput host
  throw .revert

/-- The replacement of a destruction: reports it, takes its price and gives its answer. -/
def overriddenDestruction (override : DestructionOverride) (beneficiary : Address) :
    Run Signal := do
  Run.drop 1
  let machine ← get
  let invocation := machine.frame.invocation
  Run.record (.destruction invocation.recipient beneficiary)
  Run.charge (override.gas machine.world invocation beneficiary)
  Run.ofExcept (override.answer machine.world invocation beneficiary)

/-- Takes the price of giving `balance` to the beneficiary. -/
def chargeDestruction (beneficiary : Address) (balance : Word) : Run Unit := do
  let cold ← Run.isColdAddress beneficiary
  let createsAccount ←
    if balance.isZero then pure false
    else Run.onWorld (Access.accountIsEmpty host.refusals beneficiary)
  Run.charge (host.schedule.selfdestructCost cold createsAccount)
  Run.warmAddress beneficiary
  Run.drop 1

/-- Gives the balance of an account away; the account disappears only if it was created by the
same transaction. -/
def bequeath (address beneficiary : Address) (balance : Word) : Run Unit := do
  Run.onWorld (Access.transfer host.refusals address beneficiary balance)
  if (← get).substate.isCreated address then
    Run.onWorld (Access.writeBalance host.refusals address .zero)
    Run.modifySubstate (·.addDestroyed address)

/-- Moves the whole balance to the beneficiary and ends the frame. -/
def selfdestruct : Run Signal := do
  Run.forbidStatic
  let beneficiary := (← Run.peekOne).toAddress
  if let some override := host.overrides.destruction then
    return ← overriddenDestruction override beneficiary
  let address ← Run.frame (·.invocation.recipient)
  let balance ← Run.onWorld (Access.readBalance host.refusals address)
  chargeDestruction host beneficiary balance
  bequeath host address beneficiary balance
  return .stop

end Instruction

end CancunMachine
