import Mathlib.Tactic
import CancunMachine.Proofs.Order.Resumption
import CancunMachine.Proofs.Stack.Instruction

/-!
# What calls and creations exchange

A call gives one word for its operands, whether it fails before its callee is entered or comes back
from it, and so does a creation. Whatever the child executes, its parent resumes with the stack that
it was left with.
-/

namespace CancunMachine

open Ending Run

namespace Instruction

variable {host : Host} {enter : Transfer → Run Outcome}

/-- How many words an instruction that starts a child has given before the child is entered. -/
def givenBefore (answer : Option Entry) : Nat := if answer.isSome then 0 else 1

theorem exchanges_raiseChildHalt (outcome : Outcome) : Exchanges 0 0 (raiseChildHalt outcome) := by
  refine exchanges_of_keeps fun done => ?_
  rw [raiseChildHalt_eq_ok done]

theorem exchanges_returnGas (outcome : Outcome) : Exchanges 0 0 (returnGas outcome) := by
  refine exchanges_of_keeps fun done => ?_
  obtain ⟨_, rfl, _⟩ := returnGas_eq_ok done
  rfl

theorem exchanges_finishCall (outcome : Outcome) (operands : CallOperands) :
    Exchanges 0 1 (finishCall outcome operands) :=
  ((exchanges_raiseChildHalt _).bind fun _ => (exchanges_returnGas _).bind fun _ =>
    (exchanges_setReturnData _).bind fun _ => (exchanges_onMemory _).bind fun _ =>
    (exchanges_push _).bind fun _ => exchanges_pure _).as rfl rfl

theorem exchanges_finishCreation (outcome : Outcome) (address : Address) :
    Exchanges 0 1 (finishCreation outcome address) := by
  refine (exchanges_raiseChildHalt _).step (le_refl 0) fun _ =>
    (exchanges_returnGas _).step (le_refl 0) fun _ => Exchanges.branch ?_ ?_
  · exact ((exchanges_push _).bind fun _ => exchanges_pure _).as rfl rfl
  · exact ((exchanges_setReturnData _).bind fun _ => (exchanges_push _).bind fun _ =>
      exchanges_pure _).as rfl rfl

/-- Running a child exchanges nothing on the stack of its parent. -/
theorem exchanges_runChild (spares : Spares enter) (entry : Entry) :
    Exchanges 0 0 (runChild host enter entry.child entry.transfer) :=
  exchanges_of_keeps (stack_of_runChild spares)

/-- One word stands for the operands, with a child or without one. -/
theorem exchanges_performing (spares : Spares enter) {operandCount : Nat}
    {prepare : Run (Option Entry)} {finish : Entry → Outcome → Run Signal}
    (prepares : ∀ {machine answer ready}, prepare machine = .ok answer ready →
      machine.frame.stack.Exchanged operandCount (givenBefore answer) ready.frame.stack)
    (finishes : ∀ entry outcome, Exchanges 0 1 (finish entry outcome)) :
    Exchanges operandCount 1 (performing host enter prepare finish) := by
  intro machine signal final done
  obtain ⟨answer, ready, prepared, rest⟩ := bind_eq_ok.mp done
  have paid := prepares prepared
  cases answer with
  | none =>
      cases rest
      exact paid
  | some entry =>
      have later : Exchanges 0 1 (do
          let outcome ← runChild host enter entry.child entry.transfer
          finish entry outcome) :=
        ((exchanges_runChild spares entry).bind fun outcome => finishes entry outcome).as rfl rfl
      exact paid.trans (later _ _ _ rest)

/-- A request that was read takes as many operands as were looked at. -/
theorem exchanges_requesting {Request : Type} {read : Run Request} {perform : Request → Run Signal}
    {operandCount : Request → Nat} {count : Nat} (reads : Exchanges count count read)
    (counted : ∀ {machine request final}, read machine = .ok request final →
      operandCount request = count)
    (performs : ∀ request, Exchanges (operandCount request) 1 (perform request)) :
    Exchanges count 1 (do perform (← read)) := by
  have later : ∀ request, operandCount request = count → Exchanges count 1 (perform request) :=
    fun request same => same ▸ performs request
  exact (reads.learn (operandCount · = count) counted later).as (by omega) (by omega)

section calls

theorem exchanges_quoteCall (request : CallRequest) : Exchanges 0 0 (quoteCall host request) :=
  ((exchanges_of_looks (looks_checkTarget _)).bind fun _ =>
    (exchanges_of_looks (looks_callCreatesAccount _)).bind fun _ =>
    (exchanges_of_looks (looks_operandsReach _)).bind fun _ => exchanges_memorySize.bind fun _ =>
    (exchanges_ofHalting _).bind fun _ =>
    (exchanges_of_looks (looks_requireCallGas _ _)).bind fun _ =>
    (exchanges_setReturnData _).bind fun _ => exchanges_pure _).as rfl rfl

theorem exchanges_payCall (request : CallRequest) (needed : Nat) (baseCost : UInt64) :
    Exchanges request.operandCount 0 (payCall host request needed baseCost) :=
  ((exchanges_isColdAddress _).bind fun _ => (exchanges_chargeCost _).bind fun _ =>
    (exchanges_warmAddress _).bind fun _ => (exchanges_drop _).bind fun _ =>
    exchanges_onMemory _).as (by omega) (by omega)

theorem exchanges_chargeChildGas (target : CallTarget) (requested : Word) :
    Exchanges 0 0 (chargeChildGas host target requested) := by
  refine (exchanges_frame _).step (le_refl 0) fun gas =>
    (exchanges_charge _).step (le_refl 0) fun _ => Exchanges.branch ?_ (exchanges_pure _)
  cases addWithin? (Gas.forChild gas requested.toLimbSaturating) host.schedule.callStipend with
  | some total => exact exchanges_pure _
  | none => exact exchanges_throw _

theorem exchanges_calleeFrame (target : CallTarget) (operands : CallOperands) (gas : UInt64) :
    Exchanges 0 0 (calleeFrame host target operands gas) :=
  ((exchanges_onMemory _).bind fun _ => (exchanges_frame _).bind fun _ =>
    (exchanges_onWorld _).bind fun _ => (exchanges_makeProgram _).bind fun _ =>
    exchanges_takeBuffers.bind fun _ => exchanges_pure _).as rfl rfl

theorem exchanges_calleeEntry (request : CallRequest) (needed : Nat) (baseCost : UInt64) :
    Exchanges request.operandCount 0 (calleeEntry host request needed baseCost) :=
  ((exchanges_payCall _ _ _).bind fun _ => (exchanges_chargeChildGas _ _).bind fun _ =>
    (exchanges_frame _).bind fun _ => (exchanges_calleeFrame _ _ _).bind fun _ =>
    exchanges_pure _).as (by omega) (by omega)

theorem exchanged_of_prepareCall {request : CallRequest} {machine ready : Machine}
    {answer : Option Entry} (prepares : prepareCall host request machine = .ok answer ready) :
    machine.frame.stack.Exchanged request.operandCount (givenBefore answer) ready.frame.stack := by
  obtain ⟨needed, baseCost, quoted, early, asked, quotes, asks, ends⟩ := prepareCall_cases prepares
  have looked : Exchanges 0 0 (callFailsEarly host request.target) :=
    exchanges_of_looks (looks_callFailsEarly _)
  have before := (exchanges_quoteCall request _ _ _ quotes).trans (looked _ _ _ asks)
  rcases ends with ⟨_, rfl, gives⟩ | ⟨_, entry, rfl, makes⟩
  · have refused : Exchanges request.operandCount 1 (do
        Run.drop request.operandCount
        Run.push .zero) :=
      ((exchanges_drop _).bind fun _ => exchanges_push _).as (by omega) (by omega)
    simpa [givenBefore] using before.trans (refused _ _ _ gives)
  · have paid := exchanges_calleeEntry request _ _ _ _ _ makes
    simpa [givenBefore] using before.trans paid

theorem exchanges_performCall (spares : Spares enter) (request : CallRequest) :
    Exchanges request.operandCount 1 (performCall host enter request) :=
  exchanges_performing spares exchanged_of_prepareCall
    fun _ outcome => exchanges_finishCall outcome request.operands

/-- What all calls do first: they look at their operands and at the invocation. -/
theorem exchanges_readingOperands {count : Nat} {words : Vector Word count → Run CallOperands}
    {rest : Vector Word count → CallOperands → Invocation → Run CallRequest}
    (looks : ∀ operands, Looks (words operands))
    (finds : ∀ operands known invocation, Exchanges 0 0 (rest operands known invocation)) :
    Exchanges count count (do
      let operands ← Run.peek count
      let known ← words operands
      let invocation ← Run.frame (·.invocation)
      rest operands known invocation) :=
  ((exchanges_peek count).bind fun operands =>
    (exchanges_of_looks (looks operands)).bind fun known =>
    (exchanges_frame _).bind fun invocation => finds operands known invocation).as
      (by omega) (by omega)

theorem exchanges_call (spares : Spares enter) : Exchanges 7 1 (call host enter) := by
  refine exchanges_requesting (exchanges_readingOperands (fun _ => readOperands_eq_ok)
    fun _ _ _ => Exchanges.guard (exchanges_pure _)) ?_ (exchanges_performCall spares)
  intro machine request final reads
  obtain ⟨words, operands, _, _, rest⟩ := reading_eq_ok readOperands_eq_ok reads
  by_cases sends : (machine.frame.invocation.isStatic && !words[2].isZero) = true
  · rw [if_pos sends] at rest
    cases rest
  · rw [if_neg sends] at rest
    cases rest
    rfl

theorem exchanges_callcode (spares : Spares enter) : Exchanges 7 1 (callcode host enter) := by
  refine exchanges_requesting (exchanges_readingOperands (fun _ => readOperands_eq_ok)
    fun _ _ _ => exchanges_pure _) ?_ (exchanges_performCall spares)
  intro machine request final reads
  obtain ⟨words, operands, _, _, rest⟩ := reading_eq_ok readOperands_eq_ok reads
  cases rest
  rfl

theorem exchanges_delegatecall (spares : Spares enter) :
    Exchanges 6 1 (delegatecall host enter) := by
  refine exchanges_requesting (exchanges_readingOperands (fun _ => readOperands_eq_ok)
    fun _ _ _ => exchanges_pure _) ?_ (exchanges_performCall spares)
  intro machine request final reads
  obtain ⟨words, operands, _, _, rest⟩ := reading_eq_ok readOperands_eq_ok reads
  cases rest
  rfl

theorem exchanges_staticcall (spares : Spares enter) : Exchanges 6 1 (staticcall host enter) := by
  refine exchanges_requesting (exchanges_readingOperands (fun _ => readOperands_eq_ok)
    fun _ _ _ => exchanges_pure _) ?_ (exchanges_performCall spares)
  intro machine request final reads
  obtain ⟨words, operands, _, _, rest⟩ := reading_eq_ok readOperands_eq_ok reads
  cases rest
  rfl

end calls

section creations

theorem exchanges_payCreation (request : CreationRequest) :
    Exchanges request.operandCount 0 (payCreation host request) := by
  refine exchanges_forbidStatic.step (Nat.zero_le _) fun _ =>
    (exchanges_range _ _).step (Nat.zero_le _) fun range => Exchanges.guard ?_
  exact ((exchanges_reach _ _).bind fun _ => exchanges_memorySize.bind fun _ =>
    (exchanges_chargeCost _).bind fun _ => (exchanges_drop _).bind fun _ =>
    (exchanges_onMemory _).bind fun _ => (exchanges_setReturnData _).bind fun _ =>
    exchanges_pure _).as (by omega) (by omega)

theorem exchanges_initcodeFrame (kind : CallKind) (deployer address : Address) (value : Word)
    (gas : UInt64) (code : ByteArray) :
    Exchanges 0 0 (initcodeFrame host kind deployer address value gas code) :=
  ((exchanges_makeProgram _).bind fun _ => exchanges_takeBuffers.bind fun _ =>
    (exchanges_frame _).bind fun _ => exchanges_pure _).as rfl rfl

theorem exchanges_initcodeEntry (request : CreationRequest) (deployer : Address)
    (offset size : Nat) :
    Exchanges 0 0 (initcodeEntry host request deployer offset size) :=
  ((exchanges_onMemory _).bind fun _ => (exchanges_onWorld _).bind fun _ =>
    (exchanges_warmAddress _).bind fun _ => (exchanges_frame _).bind fun _ =>
    (exchanges_charge _).bind fun _ => (exchanges_initcodeFrame _ _ _ _ _ _).bind fun _ =>
    exchanges_pure _).as rfl rfl

theorem exchanged_of_prepareCreation {request : CreationRequest} {machine ready : Machine}
    {answer : Option Entry} (prepares : prepareCreation host request machine = .ok answer ready) :
    machine.frame.stack.Exchanged request.operandCount (givenBefore answer) ready.frame.stack := by
  obtain ⟨⟨offset, size⟩, paid, pays, rest⟩ := bind_eq_ok.mp prepares
  obtain ⟨deployer, _, asked, rest⟩ := bind_eq_ok.mp rest
  cases asked
  obtain ⟨early, looked, asks, rest⟩ := bind_eq_ok.mp rest
  rw [(creationFailsEarly_eq_ok asks).1] at rest
  have before := exchanges_payCreation request _ _ _ pays
  cases early with
  | true =>
      obtain ⟨_, pushed, pushes, returned⟩ := bind_eq_ok.mp rest
      cases returned
      simpa [givenBefore] using before.trans (exchanges_push _ _ _ _ pushes)
  | false =>
      obtain ⟨entry, made, makes, returned⟩ := bind_eq_ok.mp rest
      cases returned
      have entered := exchanges_initcodeEntry _ _ _ _ _ _ _ makes
      simpa [givenBefore] using before.trans entered

theorem exchanges_performCreation (spares : Spares enter) (request : CreationRequest) :
    Exchanges request.operandCount 1 (performCreation host enter request) :=
  exchanges_performing spares exchanged_of_prepareCreation
    fun entry outcome => exchanges_finishCreation outcome entry.child.invocation.recipient

theorem exchanges_create (spares : Spares enter) : Exchanges 3 1 (create host enter) := by
  refine exchanges_requesting ((exchanges_peekThree.bind fun _ => exchanges_pure _).as rfl rfl) ?_
    (exchanges_performCreation spares)
  intro machine request final reads
  obtain ⟨words, _, _, returned⟩ := bind_eq_ok.mp reads
  cases returned
  rfl

theorem exchanges_create2 (spares : Spares enter) : Exchanges 4 1 (create2 host enter) := by
  refine exchanges_requesting ((exchanges_peekFour.bind fun _ => exchanges_pure _).as rfl rfl) ?_
    (exchanges_performCreation spares)
  intro machine request final reads
  obtain ⟨words, _, _, returned⟩ := bind_eq_ok.mp reads
  cases returned
  rfl

end creations

end Instruction

end CancunMachine
