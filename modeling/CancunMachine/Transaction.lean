import CancunMachine.Interpreter

/-!
# Executing a message

The collaborators prepare a message, its frame runs, the collaborators finalize it, and a report
is made. A message that is refused or aborted has no report.
-/

namespace CancunMachine

structure Report where
  verdict : Verdict
  gasUsed : UInt64
  gasRefunded : Nat
  output : ByteArray
  logs : List Log
  createdAddress : Option Address

namespace Transaction

variable (host : Host)

/-- Refuses a message whose sender cannot pay or has no nonce left, or whose initcode is too
large. -/
def validate : Run Unit := do
  let message := host.message
  if (← Run.onWorld (Access.readBalance host.refusals message.caller)).lt message.value then
    throw (.invalidMessage (.insufficientBalance message.caller))
  if message.isCreation && host.config.maxInitcodeSize < message.data.size then
    throw (.invalidMessage (.initcodeSizeExceeded message.data.size))
  if (← Run.onWorld (Access.readNonce host.refusals message.caller)) = maxUInt64 then
    throw (.invalidMessage (.nonceOverflow message.caller))

/-- Warms an address of the access list with its slots. -/
def warmEntry (entry : Address × List Word) : Run Unit := do
  Run.warmAddress entry.1
  entry.2.forM fun key => Run.warmSlot entry.1 key

/-- Validates the message, raises the nonce of its sender and warms its addresses. -/
def prepareSettlement : Run Unit := do
  match (← get).warmth.begin with
  | .ok _ => pure ()
  | .error error => throw (.internal error)
  Run.modifyWarmth (·.setAlways host.policy.alwaysWarm)
  validate host
  let _ ← Run.onWorld (Access.incrementNonce host.refusals host.message.caller)
  Run.warmAddress host.environment.origin
  Run.warmAddress host.message.caller
  Run.warmAddress (← Run.frame (·.invocation.recipient))
  Run.warmAddress host.environment.coinbase
  host.message.accessList.forM warmEntry

/-- At most this part of the used gas is refunded. -/
def refundQuotient : UInt64 := 5

/-- The refund a message gets: what its frames earned, at most a fifth of the used gas. -/
def cappedRefund (earned : Int) (gasUsed : UInt64) : Nat :=
  min earned.toNat (gasUsed / refundQuotient).toNat

/-- Destroys the accounts that ask for it, pays the refund and ends the transaction. -/
def finalizeSettlement (outcome : Outcome) : Run Outcome := do
  if outcome.isSuccess then
    (← get).substate.destroyedAddresses.forM fun address =>
      Run.onWorld (Access.destroy host.refusals address)
  let refund := cappedRefund (← get).substate.refund outcome.gasUsed
  Run.modifySubstate (·.setRefund refund)
  Run.modifyWarmth (·.finish)
  Run.onWorld Access.finalize
  return { outcome with gasUsed := subSaturating outcome.gasUsed (UInt64.ofNat refund) }

/-- What a collaborator does before the message. -/
def prepare : Hook → Run Unit
  | .settlement => prepareSettlement host
  | .recorder => do Run.record (.prepared (← get).warmth.size)

/-- What a collaborator does after the message. -/
def finalize (outcome : Outcome) : Hook → Run Outcome
  | .settlement => finalizeSettlement host outcome
  | .recorder => do
      let machine ← get
      Run.record (.finalized machine.warmth.size machine.substate.refund outcome)
      return outcome

def report (outcome : Outcome) : Run Report := do
  let machine ← get
  return {
    verdict := outcome.verdict
    gasUsed := outcome.gasUsed
    gasRefunded := machine.substate.refund.toNat
    output := outcome.output
    logs := if outcome.isSuccess then machine.substate.logs else []
    createdAddress :=
      if outcome.isSuccess && host.message.isCreation then
        some machine.frame.invocation.recipient
      else none }

def execute : Run Report := do
  host.hooks.forM (prepare host)
  let recipient ← Run.frame (·.invocation.recipient)
  let outcome ← Interpreter.runOutermost host ⟨host.message.caller, recipient, host.message.value⟩
  let outcome ← host.hooks.foldlM (finalize host) outcome
  report host outcome

/-- The invocation of a message and the code it runs. -/
def outermost : Access (Invocation × ByteArray) := do
  let message := host.message
  let (kind, recipient, code, calldata) ←
    match message.destination with
    | .account address =>
        let code ← Access.readCode host.refusals address
        pure (CallKind.transaction, address, code, message.data)
    | .creation =>
        let nonce ← Access.readNonce host.refusals message.caller
        pure (CallKind.create, Deployment.plainAddress message.caller nonce, message.data,
          ByteArray.empty)
  let invocation : Invocation :=
    { kind
      sender := message.caller
      recipient
      codeAddress := recipient
      value := message.value
      calldata
      isStatic := false
      gasLimit := message.gasLimit
      depth := 0
      returnOffset := 0
      returnSize := 0 }
  return (invocation, code)

/-- A machine ready to execute the message of the host on a world, with programs from `cache`. -/
def boot (world : World) (cache : Cache) : Except Failure Machine :=
  match outermost host world with
  | .error error _ => .error (.store error)
  | .ok (invocation, code) world =>
      let (program, cache) := cache.make (fun _ => false) code
      .ok {
        frame := .start invocation program .empty .empty
        suspended := []
        substate := .empty
        world
        warmth := .empty
        cache
        pool := .empty
        events := [] }

end Transaction

end CancunMachine
