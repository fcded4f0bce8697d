import CancunMachine.Instruction.Dispatch

/-!
# Running frames

A frame opens a checkpoint of the world and a backup of the substate, starts with its transfer,
runs instruction after instruction and closes what it opened with its outcome. The number of
instructions on any path through nested frames is bounded by a step budget; a budget that grows
with the gas is never spent as long as instructions cost gas.
-/

namespace CancunMachine

namespace Interpreter

variable (host : Host)

/-- The outcome of a frame that failed with `cause`. Anything but a revert takes all gas and
output; failures that end the message are passed on. -/
def failFrame (cause : Failure) : Run Outcome := do
  if cause.endsMessage then throw cause
  if !cause.isRevert then
    Run.modifyFrame fun frame => { frame with gas := 0, output := ByteArray.empty }
  Run.frame (Outcome.ofFrame · (.failure cause))

/-- The first byte that the code of a new contract may not have. -/
def reservedCodeByte : UInt8 := 0xef

/-- Stores the output of an initcode as the code of the new contract. -/
def depositCode : Run Unit := do
  let frame ← Run.frame id
  let code := frame.output
  if host.config.maxCodeSize < code.size then Run.halt .contractOutputTooBig
  if !code.isEmpty && Bytes.get code 0 = reservedCodeByte then Run.halt .invalidContractPrefix
  Run.chargeCost (host.schedule.codeDeposit code.size)
  Run.onWorld (Access.writeCode host.refusals frame.invocation.recipient code)

def stopFrame : Run Outcome := do
  if ← Run.frame (·.invocation.kind.isCreation) then
    if let .error cause ← Run.attempt (depositCode host) then
      return ← failFrame cause
  Run.frame (Outcome.ofFrame · .success)

def fetch : Run Opcode := do
  let byte ← Run.frame (·.nextByte)
  Run.modifyFrame (·.advance 1)
  return .ofByte byte

/-- Marks a new contract; its address must not be in use. -/
def claimAddress (address : Address) : Run Unit := do
  if let some account ← Run.onWorld (Access.readAccount host.refusals address) then
    if account.hasCode || account.nonce ≠ 0 then Run.halt .addressCollision
  Run.onWorld (Access.writeNonce host.refusals address 1)
  Run.modifySubstate (·.addCreated address)

/-- Runs a native contract, if the frame is for one. -/
def runPrecompile : Run (Option Outcome) := do
  let frame ← Run.frame id
  let address := frame.invocation.codeAddress
  match host.overrides.precompiles address frame.invocation.calldata frame.gas with
  | none => return none
  | some (.error failure) => throw failure
  | some (.ok result) =>
      Run.charge result.gasUsed
      Run.modifyFrame fun frame => { frame with output := result.output }
      return some (← Run.frame (Outcome.ofFrame · .success))

/-- What happens before the first instruction; gives an outcome if there is none to run. -/
def startFrame (transfer : Transfer) : Run (Option Outcome) := do
  let invocation ← Run.frame (·.invocation)
  if invocation.kind.isCreation then claimAddress host invocation.recipient
  Run.onWorld (Access.transfer host.refusals transfer.source transfer.target transfer.value)
  if !invocation.kind.isCreation && host.policy.isPrecompile invocation.codeAddress then
    runPrecompile host
  else return none

/-- Queues a halt on the parent of the running frame and tells whether it has one. -/
def queueOnParent (halt : Halt) : Run Bool := do
  let machine ← get
  match machine.suspended with
  | [] => return false
  | parent :: others =>
      set { machine with suspended := { parent with queuedHalt := some halt } :: others }
      return true

/-- Does what a collaborator asks for at the end of a frame. -/
def applyActions : List OutcomeAction → Outcome → Run Outcome
  | [], outcome => return outcome
  | .note event :: rest, outcome => do
      Run.record event
      applyActions rest outcome
  | .replaceOutput output :: rest, outcome => applyActions rest { outcome with output }
  | .queue halt :: rest, outcome => do
      Run.record (.queued (← queueOnParent halt))
      applyActions rest outcome
  | .fail cause :: _, _ => throw cause

/-- Lets a collaborator act on the end of the frame. -/
def consult (hook : OutcomeHook) (outcome : Outcome) : Run Outcome := do
  applyActions (hook (← get) outcome) outcome

/-- Gives the collaborator its say before the changes of the frame are settled: it may fail a
successful frame, and then sees it again as a failed one. -/
def settle (outcome : Outcome) : Run Outcome := do
  let some hook := host.overrides.outcome | return outcome
  let mut outcome := outcome
  if outcome.isSuccess then
    match ← Run.attempt (consult hook outcome) with
    | .ok settled => outcome := settled
    | .error cause => outcome ← failFrame cause
  if !outcome.isSuccess then
    outcome ← consult hook outcome
  return outcome

/-- Keeps or takes back the changes of the frame and reports its end. -/
def exitFrame (outcome : Outcome) : Run Unit := do
  if outcome.isSuccess then
    Run.onWorld Access.commit
    Run.modifySubstate (·.commitBackup)
  else
    Run.onWorld Access.revert
    Run.modifySubstate (·.revertBackup)
    let mark ← Run.frame (·.warmMark)
    Run.modifyWarmth (·.unwind mark)
  let frame ← Run.frame id
  Run.modifyFrame fun frame => { frame with lastWrite := none }
  if let some (key, value) := frame.lastWrite then
    Run.trace host (.updated frame.invocation.recipient key value)
  Run.trace host (.exit frame.invocation.depth outcome)

/-- Opens what a frame needs to be taken back. -/
def openFrame : Run Unit := do
  let mark := (← get).warmth.size
  Run.modifyFrame fun frame =>
    { frame with warmMark := mark, isTracked := host.config.trackStateChanges }
  Run.onWorld Access.checkpoint
  Run.modifySubstate (·.pushBackup)
  let invocation ← Run.frame (·.invocation)
  Run.trace host (.enter invocation)

/-- Runs the frame from its entry to its exit; `body` runs its instructions. -/
def runFrame (body : Run Outcome) (transfer : Transfer) : Run Outcome := do
  openFrame host
  let outcome ← match ← Run.attempt (startFrame host transfer) with
    | .ok (some outcome) => pure outcome
    | .ok none => body
    | .error cause => failFrame cause
  let outcome ← settle host outcome
  exitFrame host outcome
  return outcome

/-- Runs the instructions of the frame. Children get what is left of the budget, as does the rest
of the frame after them. -/
def run : Nat → Run Outcome
  | 0 => throw (.internal .stepBudgetSpent)
  | budget + 1 => do
      let opcode ← fetch
      match ← Run.attempt (Instruction.execute host (runFrame host (run budget)) opcode) with
      | .ok .proceed => run budget
      | .ok .stop => stopFrame host
      | .error cause => failFrame cause

/-- Enough steps for any run in which instructions cost gas, and for long runs in which they do
not. -/
def stepBudget (gas : UInt64) : Nat := 2 * gas.toNat + 0x10000000000

/-- Executes one instruction on its own, with any frames it starts. -/
def perform (opcode : Opcode) : Run Signal := do
  let budget := stepBudget (← Run.frame (·.gas))
  Instruction.execute host (runFrame host (run host budget)) opcode

def runInstructions : Run Outcome := do
  run host (stepBudget (← Run.frame (·.gas)))

def runOutermost (transfer : Transfer) : Run Outcome :=
  runFrame host (runInstructions host) transfer

end Interpreter

end CancunMachine
