import Mathlib.Tactic
import CancunMachine.Proofs.MemoryGas.Child
import CancunMachine.Proofs.Order.Queue

/-!
# The return of a child

What a parent does when its child comes back is determined by the outcome of the child and by the
halt that was queued last. Nothing else can go wrong: the gas of the child was its parent's, the
memory for its output has been paid for, and there is room for the answer where the operands were.
-/

namespace CancunMachine

open Ending

theorem Outcome.haltReason?_eq_some {outcome : Outcome} {halt : Halt} :
    outcome.haltReason? = some halt ↔ outcome.verdict = .failure (.halt halt) := by
  unfold Outcome.haltReason?
  cases outcome.verdict with
  | success => simp
  | failure cause => cases cause <;> simp [Failure.haltReason?]

/-- The halt that a parent raises for its child, given the one that was queued last. -/
def Outcome.raises? (outcome : Outcome) (queued : Option Halt) : Option Halt :=
  match outcome.haltReason?, queued with
  | none, _ => none
  | some _, some halt => some halt
  | some halt, none => if halt.isSticky then some halt else none

/-- The word that a parent gets for its child: whether it has succeeded, or where it lives. -/
def Opcode.answer (opcode : Opcode) (entry : Entry) (outcome : Outcome) : Word :=
  if opcode.creates then
    if outcome.isSuccess then entry.child.invocation.recipient.toWord else .zero
  else .ofBool outcome.isSuccess

theorem Stack.push_of_room {stack : Stack} (room : stack.size < stackLimit) (word : Word) :
    ∃ pushed, stack.push word = .ok pushed := by
  unfold Stack.push
  rw [dif_pos (show stack.items.size < stackLimit from room)]
  exact ⟨_, rfl⟩

theorem Run.push_of_ok {word : Word} {pushed : Stack} {machine : Machine}
    (pushes : machine.frame.stack.push word = .ok pushed) :
    Run.push word machine = .ok () { machine with frame.stack := pushed } :=
  Run.updateStack_eq_ok.mpr ⟨pushed, pushes, rfl⟩

namespace Memory

theorem size_le_of_grow {memory grown : Memory} {needed : Nat}
    (grows : grow needed memory = .ok () grown) : memory.size ≤ grown.size := by
  have growth := memory.growth needed
  rw [grows] at growth
  cases growth with
  | covered => exact le_refl _
  | grown short rounded _ =>
      have covers := le_roundToWord? rounded
      simp only [extended]
      omega

theorem size_le_of_reach {memory grown : Memory} {offset size : Nat}
    (reaches : reach offset size memory = .ok () grown) : memory.size ≤ grown.size :=
  size_le_of_grow (reach_eq_ok.mp reaches).2

theorem size_le_of_load {memory grown : Memory} {offset size : Nat} {data : ByteArray}
    (loads : load offset size memory = .ok data grown) : memory.size ≤ grown.size := by
  obtain ⟨_, _, rfl⟩ | ⟨_, reaches, _⟩ := load_eq_ok.mp loads
  · exact le_refl _
  · exact size_le_of_reach reaches

/-- A range that lies within the memory can be stored to. -/
theorem storePadded_of_covered {memory : Memory} {offset size : Nat}
    (covered : size = 0 ∨ offset + size ≤ memory.size)
    (reachable : size = 0 ∨ offset + size < positionLimit) (data : ByteArray) :
    ∃ stored, storePadded offset data size memory = .ok () stored := by
  by_cases empty : size = 0
  · exact ⟨memory, storePadded_eq_ok.mpr (.inl ⟨empty, rfl⟩)⟩
  · have reaches :=
      reach_of_covered (reachable.resolve_left empty) (covered.resolve_left empty)
    exact ⟨_, storePadded_eq_ok.mpr (.inr ⟨empty, memory, reaches, rfl⟩)⟩

end Memory

/-- A step after which there is no less memory than before. -/
def Widens {Alpha : Type} (action : Run Alpha) : Prop :=
  ∀ machine value final, action machine = .ok value final →
    machine.frame.memory.size ≤ final.frame.memory.size

theorem Widens.bind {Alpha Beta : Type} {first : Run Alpha} {next : Alpha → Run Beta}
    (early : Widens first) (late : ∀ value, Widens (next value)) : Widens (first >>= next) := by
  intro machine value final done
  obtain ⟨shown, middle, started, finished⟩ := bind_eq_ok.mp done
  exact (early _ _ _ started).trans (late shown _ _ _ finished)

theorem widens_of_within {Alpha : Type} {action : Run Alpha}
    (within : ∀ size, Within size action) : Widens action := by
  intro machine value final done
  have contained := within _ (fun _ => True) machine (le_refl _)
  rw [done] at contained
  exact contained.memory.grows

theorem widens_load (offset size : Nat) : Widens (Run.onMemory (Memory.load offset size)) := by
  intro machine value final done
  obtain ⟨memory, loads, rfl⟩ := Run.onMemory_eq_ok.mp done
  exact Memory.size_le_of_load loads

namespace Instruction

variable {host : Host} {enter : Transfer → Run Outcome} {opcode : Opcode} {entry : Entry}
  {machine ready : Machine} {outcome : Outcome}

theorem raised_eq (outcome : Outcome) (queued : Option Halt) :
    raised outcome queued =
      match outcome.raises? queued with
      | some halt => Run.halt halt
      | none => pure () := by
  unfold raised Outcome.raises?
  cases outcome.haltReason? with
  | none => rfl
  | some halt =>
      cases queued with
      | some queued => rfl
      | none => cases sticky : halt.isSticky <;> simp [sticky]

/-- What a parent does with the outcome of the child that it has started on `ready`. -/
structure TakesBack (host : Host) (opcode : Opcode) (entry : Entry) (ready : Machine)
    (finish : Outcome → Run Signal) : Prop where
  finishes : ∀ outcome, Finishes host outcome (finish outcome)
  raises : ∀ {outcome machine halt}, outcome.raises? machine.frame.queuedHalt = some halt →
    finish outcome machine = .error (.halt halt) { machine with frame.queuedHalt := none }
  answers : ∀ {outcome machine}, outcome.raises? machine.frame.queuedHalt = none →
    machine.frame.stack = ready.frame.stack → machine.frame.memory = ready.frame.memory →
    machine.frame.gas.toNat + outcome.gasRemaining.toNat < UInt64.size →
    ∃ next, finish outcome machine = .ok .proceed next ∧ next.frame.queuedHalt = none ∧
      ready.frame.stack.push (opcode.answer entry outcome) = .ok next.frame.stack

theorem takesBack_of_rest {rest : Outcome → Run Signal}
    (finishes : ∀ outcome, Finishes host outcome (do
      raiseChildHalt outcome
      returnGas outcome
      rest outcome))
    (answers : ∀ outcome machine, machine.frame.stack = ready.frame.stack →
      machine.frame.memory = ready.frame.memory →
      ∃ next, rest outcome machine = .ok .proceed next ∧
        next.frame.queuedHalt = machine.frame.queuedHalt ∧
        ready.frame.stack.push (opcode.answer entry outcome) = .ok next.frame.stack) :
    TakesBack host opcode entry ready (fun outcome => do
      raiseChildHalt outcome
      returnGas outcome
      rest outcome) := by
  constructor
  case finishes => exact finishes
  case raises =>
    intro outcome machine halt raised
    refine bind_of_error ?_
    rw [raiseChildHalt_apply, raised_eq, raised]
    rfl
  case answers =>
    intro outcome machine silent stack memory room
    have clears : raiseChildHalt outcome machine =
        .ok () { machine with frame.queuedHalt := none } := by
      rw [raiseChildHalt_apply, raised_eq, silent]
      rfl
    have returns : returnGas outcome { machine with frame.queuedHalt := none } = .ok () { machine with
        frame.queuedHalt := none
        frame.gas := machine.frame.gas + outcome.gasRemaining } := by
      unfold returnGas
      rw [bind_of_ok (Run.frame_apply _ _), addWithin?_of_lt room]
      rfl
    obtain ⟨next, rests, unqueued, pushes⟩ := answers outcome { machine with
      frame.queuedHalt := none
      frame.gas := machine.frame.gas + outcome.gasRemaining } stack memory
    refine ⟨next, ?_, unqueued, pushes⟩
    rw [bind_of_ok clears, bind_of_ok returns, rests]

theorem widens_calleeFrame (target : CallTarget) (operands : CallOperands) (gas : UInt64) :
    Widens (calleeFrame host target operands gas) :=
  (widens_load _ _).bind fun _ => widens_of_within fun _ => (within_frame _).bind fun _ =>
    (within_onWorld _).bind fun _ => (within_makeProgram _).bind fun _ =>
    within_takeBuffers.bind fun _ => within_pure _

/-- A callee is entered with the memory of its caller grown as far as the call needs. -/
theorem size_le_of_calleeEntry {request : CallRequest} {needed : Nat} {baseCost : UInt64}
    (cancun : host.schedule = .cancun)
    (makes : calleeEntry host request needed baseCost machine = .ok entry ready) :
    needed ≤ ready.frame.memory.size := by
  have later : ∀ nothing : Unit, Widens (do
      let gas ← chargeChildGas host request.target request.operands.gas
      let current ← Run.frame (·.invocation.recipient)
      let child ← calleeFrame host request.target request.operands gas
      return (⟨child, callTransfer request.target current⟩ : Entry)) := fun _ =>
    (widens_of_within fun _ => within_chargeChildGas cancun _ _).bind fun _ =>
      (widens_of_within fun _ => within_frame _).bind fun _ =>
      (widens_calleeFrame _ _ _).bind fun _ => widens_of_within fun _ => within_pure _
  obtain ⟨_, paid, pays, rest⟩ := bind_eq_ok.mp makes
  obtain ⟨_, _, _, pays⟩ := bind_eq_ok.mp pays
  obtain ⟨_, _, _, pays⟩ := bind_eq_ok.mp pays
  obtain ⟨_, _, _, pays⟩ := bind_eq_ok.mp pays
  obtain ⟨_, dropped, _, pays⟩ := bind_eq_ok.mp pays
  obtain ⟨grown, grows, rfl⟩ := Run.onMemory_eq_ok.mp pays
  exact (Memory.le_size_of_grow grows).trans (later () _ _ _ rest)

/-- The memory that a call has paid for has room for the output of its callee. -/
theorem storePadded_of_prepareCall {request : CallRequest} (cancun : host.schedule = .cancun)
    (prepares : prepareCall host request machine = .ok (some entry) ready) (data : ByteArray) :
    ∃ stored, Memory.storePadded request.operands.returnOffset data
      request.operands.returnSize ready.frame.memory = .ok () stored := by
  obtain ⟨needed, baseCost, quoted, early, asked, quotes, asks,
    ⟨_, impossible, _⟩ | ⟨_, _, same, makes⟩⟩ := prepareCall_cases prepares
  · cases impossible
  cases same
  have covers := size_le_of_calleeEntry cancun makes
  obtain ⟨arguments, _, rest⟩ := Gas.bind_eq_ok.mp (baseCost_of_quoteCall quotes).1
  obtain ⟨returned, reaches, total⟩ := Gas.bind_eq_ok.mp rest
  cases total
  refine Memory.storePadded_of_covered ?_ (Memory.lt_positionLimit_of_sizeToReach reaches) data
  refine (Memory.covers_of_sizeToReach reaches).imp id fun covered => ?_
  omega

theorem takesBack_of_call {request : CallRequest} (cancun : host.schedule = .cancun)
    (prepares : prepareCall host request machine = .ok (some entry) ready)
    (room : ready.frame.stack.size < stackLimit) (calls : opcode.creates = false) :
    TakesBack host opcode entry ready (finishCall · request.operands) := by
  refine takesBack_of_rest (fun outcome => finishes_finishCall request.operands) ?_
  intro outcome machine stack memory
  obtain ⟨stored, stores⟩ := storePadded_of_prepareCall cancun prepares outcome.output
  obtain ⟨pushed, pushes⟩ := Stack.push_of_room room (.ofBool outcome.isSuccess)
  rw [← memory] at stores
  rw [← stack] at pushes
  have answer : opcode.answer entry outcome = .ofBool outcome.isSuccess := by
    rw [Opcode.answer, calls]
    exact if_neg Bool.false_ne_true
  refine ⟨{ machine with
    frame.returnData := outcome.output
    frame.memory := stored
    frame.stack := pushed }, ?_, rfl, ?_⟩
  · have updates : Run.onMemory
        (Memory.storePadded request.operands.returnOffset outcome.output request.operands.returnSize)
        { machine with frame.returnData := outcome.output } = .ok () { machine with
          frame.returnData := outcome.output
          frame.memory := stored } := Run.onMemory_eq_ok.mpr ⟨stored, stores, rfl⟩
    have answers : Run.push (.ofBool outcome.isSuccess) { machine with
        frame.returnData := outcome.output
        frame.memory := stored } = .ok () _ := Run.push_of_ok pushes
    rw [bind_of_ok (Run.modifyFrame_apply _ _), bind_of_ok updates, bind_of_ok answers]
    rfl
  · rw [answer, ← stack]
    exact pushes

theorem takesBack_of_creation (room : ready.frame.stack.size < stackLimit)
    (founds : opcode.creates = true) :
    TakesBack host opcode entry ready
      (finishCreation · entry.child.invocation.recipient) := by
  refine takesBack_of_rest (fun outcome => finishes_finishCreation _) ?_
  intro outcome machine stack memory
  obtain ⟨pushed, pushes⟩ := Stack.push_of_room room (opcode.answer entry outcome)
  refine ⟨{ machine with
    frame.returnData := if outcome.isSuccess then machine.frame.returnData else outcome.output
    frame.stack := pushed }, ?_, rfl, pushes⟩
  rw [← stack] at pushes
  unfold Opcode.answer at pushes
  rw [if_pos founds] at pushes
  cases succeeds : outcome.isSuccess with
  | true =>
      simp only [succeeds, if_true] at pushes ⊢
      rw [bind_of_ok (Run.push_of_ok pushes)]
      rfl
  | false =>
      simp only [succeeds, Bool.false_eq_true, if_false] at pushes ⊢
      have answers : Run.push .zero { machine with frame.returnData := outcome.output } = .ok () _ :=
        Run.push_of_ok pushes
      rw [bind_of_ok (Run.modifyFrame_apply _ _), bind_of_ok answers]
      rfl

/-- After its child has been prepared, an instruction runs it and takes it back. -/
theorem execute_of_child (cancun : host.schedule = .cancun)
    (prepares : preparation host opcode machine = .ok (some entry) ready) :
    ∃ finish, TakesBack host opcode entry ready finish ∧ ∀ enter,
      execute host enter opcode machine = (do
        let outcome ← runChild host enter entry.child entry.transfer
        finish outcome) ready := by
  have room : ready.frame.stack.size < stackLimit := by
    have dropped := (preparation_eq_some prepares).2.stack
    have bounded : machine.frame.stack.size ≤ stackLimit := machine.frame.stack.bounded
    omega
  have calls : ∀ {opcode : Opcode} {read : Run CallRequest},
      (∀ enter, execute host enter opcode = do performCall host enter (← read)) →
      (do prepareCall host (← read)) machine = .ok (some entry) ready → opcode.creates = false →
      ∃ finish, TakesBack host opcode entry ready finish ∧ ∀ enter,
        execute host enter opcode machine = (do
          let outcome ← runChild host enter entry.child entry.transfer
          finish outcome) ready := by
    intro opcode read executes prepares calls
    obtain ⟨request, middle, reads, prepared⟩ := bind_eq_ok.mp prepares
    refine ⟨_, takesBack_of_call cancun prepared room calls, fun enter => ?_⟩
    rw [executes, bind_of_ok reads]
    unfold performCall
    rw [bind_of_ok prepared]
  have creates : ∀ {opcode : Opcode} {read : Run CreationRequest},
      (∀ enter, execute host enter opcode = do performCreation host enter (← read)) →
      (do prepareCreation host (← read)) machine = .ok (some entry) ready →
      opcode.creates = true →
      ∃ finish, TakesBack host opcode entry ready finish ∧ ∀ enter,
        execute host enter opcode machine = (do
          let outcome ← runChild host enter entry.child entry.transfer
          finish outcome) ready := by
    intro opcode read executes prepares founds
    obtain ⟨request, middle, reads, prepared⟩ := bind_eq_ok.mp prepares
    refine ⟨_, takesBack_of_creation room founds, fun enter => ?_⟩
    rw [executes, bind_of_ok reads]
    unfold performCreation
    rw [bind_of_ok prepared]
  cases opcode
  case call | callcode | delegatecall | staticcall => exact calls (fun _ => rfl) prepares rfl
  case create | create2 => exact creates (fun _ => rfl) prepares rfl
  all_goals cases prepares

end Instruction

end CancunMachine
