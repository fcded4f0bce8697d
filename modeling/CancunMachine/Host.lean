import CancunMachine.Config
import CancunMachine.Machine.State
import CancunMachine.Message
import CancunMachine.Policy
import CancunMachine.Precompile
import CancunMachine.World.Access

/-!
# The host of a run

What stays fixed while a machine runs: the environment and the message, limits and prices, the
address policy, replacements of default behaviour, the collaborators around the message and the
operations the store refuses.
-/

namespace CancunMachine

/-- What an instruction tells the machine to do next. -/
inductive Signal
  | proceed
  | stop
deriving DecidableEq

/-- A replacement for the destruction of an account: its price and its answer. It is shown the
world, what the frame was invoked with, and the beneficiary. -/
structure DestructionOverride where
  gas : World → Invocation → Address → UInt64
  answer : World → Invocation → Address → Except Failure Signal

/-- What a collaborator does when a frame ends. -/
inductive OutcomeAction
  | note (event : Event)
  | replaceOutput (output : ByteArray)
  /-- Queues a halt on the parent and reports whether there is one. -/
  | queue (halt : Halt)
  | fail (cause : Failure)

/-- A collaborator that acts on the end of every frame before its changes are settled. It is shown
the machine, where it finds what it has noted before, and changes it through its actions only. -/
abbrev OutcomeHook := Machine → Outcome → List OutcomeAction

inductive QueuedHalt
  | fixed (halt : Halt)
  | same

/-- One rule of a collaborator: which frames it is about and what it does. -/
structure OutcomeRule where
  onSuccess : Bool
  depth : Option Nat
  recipient : Option Address
  codeAddress : Option Address
  output : Option ByteArray
  queued : Option QueuedHalt
  failure : Option Failure

namespace OutcomeRule

def applies (rule : OutcomeRule) (invocation : Invocation) (outcome : Outcome) : Bool :=
  rule.onSuccess == outcome.isSuccess
    && rule.depth.all (· == invocation.depth)
    && rule.recipient.all (· == invocation.recipient)
    && rule.codeAddress.all (· == invocation.codeAddress)

def queuedHalt? (rule : OutcomeRule) (outcome : Outcome) : Option Halt :=
  match rule.queued with
  | none => none
  | some (.fixed halt) => some halt
  | some .same => outcome.haltReason?

def actions (rule : OutcomeRule) (outcome : Outcome) : List OutcomeAction :=
  (rule.output.map .replaceOutput).toList ++ ((rule.queuedHalt? outcome).map .queue).toList
    ++ (rule.failure.map .fail).toList

/-- The collaborator that reports every frame and then follows its rules in order. -/
def hook (rules : List OutcomeRule) : OutcomeHook := fun machine outcome =>
  .note (.settled outcome.isSuccess machine.frame.invocation.depth) ::
    (rules.filter (·.applies machine.frame.invocation outcome)).flatMap (·.actions outcome)

end OutcomeRule

structure Overrides where
  chainId : Option Word
  destruction : Option DestructionOverride
  precompiles : PrecompileSet
  outcome : Option OutcomeHook

def Overrides.none : Overrides := ⟨.none, .none, Precompile.standard, .none⟩

/-- Collaborators that act before and after a message. -/
inductive Hook
  /-- Validates the message, warms its addresses and settles the refund. -/
  | settlement
  /-- Reports when it is asked. -/
  | recorder
deriving DecidableEq

/-- Everything that stays fixed during a run. -/
structure Host where
  environment : Environment
  message : Message
  config : Config
  schedule : GasSchedule
  policy : AddressPolicy
  overrides : Overrides
  hooks : List Hook
  /-- Whether frames and storage accesses are reported. -/
  isTraced : Bool
  /-- Whether children reuse the stacks and memories of finished frames. -/
  reusesBuffers : Bool
  refusals : Refusals

def Host.standard (environment : Environment) (message : Message) (config : Config) : Host where
  environment
  message
  config
  schedule := .cancun
  policy := .standard
  overrides := .none
  hooks := [.settlement]
  isTraced := false
  reusesBuffers := true
  refusals := .none

end CancunMachine
