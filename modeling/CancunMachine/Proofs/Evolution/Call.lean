import Mathlib.Tactic
import CancunMachine.Proofs.Evolution.Instruction
import CancunMachine.Proofs.Word.Arithmetic

/-!
# How calls prepare their callee

A call that gets as far as entering a callee has paid for it, and the callee is a legal child of
the running frame.
-/

namespace CancunMachine

open Ending

namespace Instruction

variable {host : Host} {known : Invocation → Prop} {silent tame : Prop}

/-- How the target of a call relates to the frame that makes it. -/
structure CallTarget.Suits (target : CallTarget) (invocation : Invocation) : Prop where
  calls : target.kind.isCreation = false
  inherits : invocation.isStatic = true → target.isStatic = true
  neutral : target.isStatic = true → target.value.isZero = true ∨ target.transfersValue = false ∨
    target.recipient = invocation.recipient

/-- A request that a call instruction may make of the running frame. -/
structure CallRequest.Suits (request : CallRequest) (invocation : Invocation) : Prop where
  target : request.target.Suits invocation
  operandCount : 6 ≤ request.operandCount

theorem orderly_readOperands (gas argumentsOffset argumentsSize returnOffset returnSize : Word) :
    Orderly host known silent tame 0 0
      (CallOperands.read gas argumentsOffset argumentsSize returnOffset returnSize) :=
  ((orderly_range _ _).bind fun _ => (orderly_range _ _).bind fun _ =>
    orderly_pure _).weaken (by omega) (by omega)

theorem orderly_operandsReach (operands : CallOperands) :
    Orderly host known silent tame 0 0 operands.reach :=
  ((orderly_reach _ _).bind fun _ => (orderly_reach _ _).bind fun _ =>
    orderly_pure _).weaken (by omega) (by omega)

theorem orderly_readCall : Orderly host known silent tame 0 0 (readCall host) := by
  refine (orderly_peek 7).step fun words => (orderly_readOperands _ _ _ _ _).step fun operands =>
    (orderly_frame _).step fun invocation => Orderly.guard fun _ => ?_
  exact (orderly_pure _).weaken (by omega) (by omega)

theorem orderly_readCallcode : Orderly host known silent tame 0 0 (readCallcode host) :=
  ((orderly_peek 7).bind fun _ => (orderly_readOperands _ _ _ _ _).bind fun _ =>
    (orderly_frame _).bind fun _ => orderly_pure _).weaken (by omega) (by omega)

theorem orderly_readDelegatecall : Orderly host known silent tame 0 0 readDelegatecall :=
  ((orderly_peek 6).bind fun _ => (orderly_readOperands _ _ _ _ _).bind fun _ =>
    (orderly_frame _).bind fun _ => orderly_pure _).weaken (by omega) (by omega)

theorem orderly_readStaticcall : Orderly host known silent tame 0 0 (readStaticcall host) :=
  ((orderly_peek 6).bind fun _ => (orderly_readOperands _ _ _ _ _).bind fun _ =>
    (orderly_frame _).bind fun _ => orderly_pure _).weaken (by omega) (by omega)

theorem readOperands_eq_ok {gas argumentsOffset argumentsSize returnOffset returnSize : Word}
    {operands : CallOperands} {machine final : Machine}
    (done : CallOperands.read gas argumentsOffset argumentsSize returnOffset returnSize machine =
      .ok operands final) : final = machine := by
  obtain ⟨_, _, first, rest⟩ := bind_eq_ok.mp done
  obtain ⟨_, _, second, returned⟩ := bind_eq_ok.mp rest
  rw [(Run.ofHalting_eq_ok.mp first).2] at second
  rw [(Run.ofHalting_eq_ok.mp second).2] at returned
  cases returned
  rfl

theorem peek_eq_ok {count : Nat} {words : Vector Word count} {machine final : Machine}
    (done : Run.peek count machine = .ok words final) :
    machine.frame.stack.peek count = .ok words ∧ final = machine := by
  obtain ⟨_, _, got, peeked⟩ := bind_eq_ok.mp done
  cases got
  exact Run.ofHalting_eq_ok.mp peeked

/-- All calls read their operands and look at the invocation before anything else. -/
theorem reading_eq_ok {count : Nat} {read : Vector Word count → Run CallOperands}
    {rest : Vector Word count → CallOperands → Invocation → Run CallRequest}
    {machine final : Machine} {request : CallRequest}
    (looks : ∀ {words operands machine final}, read words machine = .ok operands final →
      final = machine)
    (done : (do
      let words ← Run.peek count
      let operands ← read words
      let invocation ← Run.frame (·.invocation)
      rest words operands invocation) machine = .ok request final) :
    ∃ words operands, machine.frame.stack.peek count = .ok words ∧
      read words machine = .ok operands machine ∧
      rest words operands machine.frame.invocation machine = .ok request final := by
  obtain ⟨words, _, peeked, later⟩ := bind_eq_ok.mp done
  rw [(peek_eq_ok peeked).2] at later
  obtain ⟨operands, _, known, later⟩ := bind_eq_ok.mp later
  have same := looks known
  rw [same] at later
  obtain ⟨invocation, _, asked, finished⟩ := bind_eq_ok.mp later
  cases asked
  exact ⟨words, operands, (peek_eq_ok peeked).1, same ▸ known, finished⟩

/-- A static frame sends no value with a call. -/
theorem suits_of_readCall {machine final : Machine} {request : CallRequest}
    (done : readCall host machine = .ok request final) :
    request.Suits machine.frame.invocation := by
  obtain ⟨words, operands, _, _, rest⟩ := reading_eq_ok readOperands_eq_ok done
  by_cases sends : (machine.frame.invocation.isStatic && !words[2].isZero) = true
  · simp only [if_pos sends, bind_eq_ok, Run.halt_apply, reduceCtorEq, false_and,
      exists_false] at rest
  simp only [if_neg sends] at rest
  cases rest
  refine ⟨⟨rfl, id, ?_⟩, by simp⟩
  intro static
  left
  simpa [show machine.frame.invocation.isStatic = true from static] using sends

theorem suits_of_readCallcode {machine final : Machine} {request : CallRequest}
    (done : readCallcode host machine = .ok request final) :
    request.Suits machine.frame.invocation := by
  obtain ⟨words, operands, _, _, rest⟩ := reading_eq_ok readOperands_eq_ok done
  cases rest
  exact ⟨⟨rfl, id, fun _ => .inr (.inr rfl)⟩, by simp⟩

theorem suits_of_readDelegatecall {machine final : Machine} {request : CallRequest}
    (done : readDelegatecall machine = .ok request final) :
    request.Suits machine.frame.invocation := by
  obtain ⟨words, operands, _, _, rest⟩ := reading_eq_ok readOperands_eq_ok done
  cases rest
  exact ⟨⟨rfl, id, fun _ => .inr (.inl rfl)⟩, by simp⟩

theorem suits_of_readStaticcall {machine final : Machine} {request : CallRequest}
    (done : readStaticcall host machine = .ok request final) :
    request.Suits machine.frame.invocation := by
  obtain ⟨words, operands, _, _, rest⟩ := reading_eq_ok readOperands_eq_ok done
  cases rest
  exact ⟨⟨rfl, fun _ => rfl, fun _ => .inr (.inl rfl)⟩, by simp⟩

theorem orderly_checkTarget (target : CallTarget) :
    Orderly host known silent tame 0 0 (checkTarget host target) := by
  unfold checkTarget
  have present : Orderly host known silent tame 0 0 (do
      if host.policy.mustBePresent target.codeAddress then
        if !(← Run.onWorld (Access.accountExists host.refusals target.codeAddress)) then
          Run.halt .invalidAddress) := by
    refine Orderly.branch ?_ (orderly_pure _)
    refine (orderly_reading (Access.reads_exists _)).step fun found => ?_
    exact Orderly.branch (orderly_halt _ _ _) (orderly_pure _)
  exact Orderly.guard fun _ => present

theorem orderly_callCreatesAccount (target : CallTarget) :
    Orderly host known silent tame 0 0 (callCreatesAccount host target) :=
  .branch (orderly_reading (Access.reads_isEmpty _)) (orderly_pure _)

theorem orderly_requireCallGas (target : CallTarget) (baseCost : UInt64) :
    Orderly host known silent tame 0 0 (requireCallGas host target baseCost) := by
  refine (orderly_ofHalting _).step fun estimate => (orderly_frame _).step fun gas => ?_
  exact Orderly.branch (orderly_halt _ _ _) (orderly_pure _)

theorem orderly_callFailsEarly (target : CallTarget) :
    Orderly host known silent tame 0 0 (callFailsEarly host target) := by
  have answer : ∀ poor : Bool, Orderly host known silent tame 0 0 (do
      let depth ← Run.frame (·.invocation.depth)
      return poor || host.config.maxCallDepth ≤ depth) := by
    intro poor
    exact ((orderly_frame _).bind fun _ => orderly_pure _).weaken (by omega) (by omega)
  refine (orderly_frame _).step fun current => Orderly.branch ?_ ?_
  · exact (orderly_reading (Access.reads_balance _)).step fun balance => answer _
  · exact answer false

/-- A call that goes on can afford its value and is not nested too deeply. -/
theorem callFailsEarly_eq_ok {target : CallTarget} {machine final : Machine} {early : Bool}
    (done : callFailsEarly host target machine = .ok early final) :
    early = ((target.movesValue &&
      (machine.world.balance machine.frame.invocation.recipient).lt target.value) ||
      decide (host.config.maxCallDepth ≤ machine.frame.invocation.depth)) := by
  obtain ⟨current, _, asked, rest⟩ := bind_eq_ok.mp done
  cases asked
  by_cases moves : target.movesValue = true
  · simp only [if_pos moves] at rest
    obtain ⟨balance, _, read, later⟩ := bind_eq_ok.mp rest
    obtain ⟨world, shown, rfl⟩ := Run.onWorld_eq_ok.mp read
    obtain ⟨rfl, rfl⟩ := (Access.reads_balance _).shows shown
    cases later
    rw [moves, Bool.true_and]
  · simp only [if_neg moves] at rest
    cases rest
    simp [moves]

theorem orderly_chargeChildGas (target : CallTarget) (requested : Word) :
    Orderly host known silent False 0 0 (chargeChildGas host target requested) := by
  refine (orderly_frame _).step fun gas => (orderly_charge _).step fun _ => Orderly.branch ?_ ?_
  · cases addWithin? (Gas.forChild gas requested.toLimbSaturating) host.schedule.callStipend with
    | some total => exact (orderly_pure _).weaken (by omega) (by omega)
    | none => exact orderly_abort rfl _ _
  · exact (orderly_pure _).weaken (by omega) (by omega)

/-- The gas that a callee gets on top of what its caller pays. -/
def CallTarget.stipend (target : CallTarget) (schedule : GasSchedule) : Nat :=
  if target.movesValue then schedule.callStipend.toNat else 0

theorem chargeChildGas_eq_ok {target : CallTarget} {requested : Word} {machine final : Machine}
    {gas : UInt64} (done : chargeChildGas host target requested machine = .ok gas final) :
    final.frame.gas.toNat + gas.toNat =
      machine.frame.gas.toNat + target.stipend host.schedule := by
  obtain ⟨available, _, asked, rest⟩ := bind_eq_ok.mp done
  rw [Run.frame_apply] at asked
  cases asked
  obtain ⟨_, _, charged, granted⟩ := bind_eq_ok.mp rest
  obtain ⟨enough, rfl⟩ := Run.charge_eq_ok.mp charged
  have paid := UInt64.toNat_sub_of_le _ _ enough
  have bounded := UInt64.le_iff_toNat_le.mp enough
  unfold CallTarget.stipend
  by_cases moves : target.movesValue = true
  · simp only [if_pos moves] at granted ⊢
    cases fits : addWithin? (Gas.forChild machine.frame.gas requested.toLimbSaturating)
        host.schedule.callStipend with
    | none =>
        rw [fits] at granted
        cases granted
    | some total =>
        rw [fits] at granted
        cases granted
        rw [addWithin?_eq_some fits]
        simp only [paid]
        omega
  · simp only [if_neg moves] at granted ⊢
    cases granted
    simp only [paid]
    omega

theorem settles_of_chargeChildGas {target : CallTarget} {requested : Word}
    {machine final : Machine} {cause : Failure}
    (room : machine.frame.gas.toNat + target.stipend host.schedule < UInt64.size)
    (failed : chargeChildGas host target requested machine = .error cause final) :
    cause.endsMessage = false := by
  rcases bind_eq_error.mp failed with unasked | ⟨available, _, asked, rest⟩
  · cases unasked
  cases asked
  rcases bind_eq_error.mp rest with unpaid | ⟨_, _, charged, granted⟩
  · obtain ⟨reason, _, rfl, _⟩ := Run.updateFrame_eq_error.mp unpaid
    rfl
  have bounded := Gas.forChild_le machine.frame.gas requested.toLimbSaturating
  unfold CallTarget.stipend at room
  by_cases moves : target.movesValue = true
  · simp only [if_pos moves] at granted room
    rw [addWithin?_of_lt (by omega)] at granted
    cases granted
  · simp only [if_neg moves] at granted
    cases granted

theorem orderly_calleeFrame (target : CallTarget) (operands : CallOperands) (gas : UInt64) :
    Orderly host known silent tame 0 0 (calleeFrame host target operands gas) :=
  ((orderly_onMemory (Memory.haltsUnchanged_load _ _)).bind fun _ =>
    (orderly_frame _).bind fun _ => (orderly_reading (Access.reads_code _)).bind fun _ =>
    (orderly_makeProgram _).bind fun _ => orderly_takeBuffers.bind fun _ =>
    orderly_pure _).weaken (by omega) (by omega)

theorem calleeFrame_eq_ok {target : CallTarget} {operands : CallOperands} {gas : UInt64}
    {machine final : Machine} {child : Frame}
    (done : calleeFrame host target operands gas machine = .ok child final) :
    child.Fresh ∧ child.invocation.kind = target.kind ∧
      child.invocation.recipient = target.recipient ∧
      child.invocation.isStatic = target.isStatic ∧ child.invocation.gasLimit = gas ∧
      child.invocation.depth = machine.frame.invocation.depth + 1 := by
  obtain ⟨calldata, _, loaded, rest⟩ := bind_eq_ok.mp done
  obtain ⟨memory, _, rfl⟩ := Run.onMemory_eq_ok.mp loaded
  obtain ⟨depth, _, asked, rest⟩ := bind_eq_ok.mp rest
  cases asked
  obtain ⟨code, _, read, rest⟩ := bind_eq_ok.mp rest
  obtain ⟨program, _, made, rest⟩ := bind_eq_ok.mp rest
  obtain ⟨buffers, _, taken, returned⟩ := bind_eq_ok.mp rest
  obtain ⟨stackCleared, memoryCleared, _⟩ := takeBuffers_eq_ok taken
  cases returned
  exact ⟨⟨rfl, stackCleared, memoryCleared⟩, rfl, rfl, rfl, rfl, rfl⟩

theorem orderly_quoteCall (request : CallRequest) :
    Orderly host known silent tame 0 0 (quoteCall host request) :=
  ((orderly_checkTarget _).bind fun _ => (orderly_callCreatesAccount _).bind fun _ =>
    (orderly_operandsReach _).bind fun _ => orderly_memorySize.bind fun _ =>
    (orderly_ofHalting _).bind fun _ => (orderly_requireCallGas _ _).bind fun _ =>
    (orderly_setReturnData _).bind fun _ => orderly_pure _).weaken (by omega) (by omega)

theorem looks_peek (count : Nat) : Looks (Run.peek count) := fun done => (peek_eq_ok done).2

theorem looks_readCall : Looks (readCall host) := by
  apply looks_bind (looks_peek 7)
  intro words
  apply looks_bind readOperands_eq_ok
  intro operands
  apply looks_bind (looks_frame _)
  intro invocation
  exact looks_branch (looks_bind (looks_halt _) fun _ => looks_pure _) (looks_pure _)

theorem looks_readCallcode : Looks (readCallcode host) :=
  looks_bind (looks_peek 7) fun _ => looks_bind readOperands_eq_ok fun _ =>
    looks_bind (looks_frame _) fun _ => looks_pure _

theorem looks_readDelegatecall : Looks readDelegatecall :=
  looks_bind (looks_peek 6) fun _ => looks_bind readOperands_eq_ok fun _ =>
    looks_bind (looks_frame _) fun _ => looks_pure _

theorem looks_readStaticcall : Looks (readStaticcall host) :=
  looks_bind (looks_peek 6) fun _ => looks_bind readOperands_eq_ok fun _ =>
    looks_bind (looks_frame _) fun _ => looks_pure _

theorem looks_checkTarget (target : CallTarget) : Looks (checkTarget host target) := by
  have present : Looks (do
      if host.policy.mustBePresent target.codeAddress then
        if !(← Run.onWorld (Access.accountExists host.refusals target.codeAddress)) then
          Run.halt .invalidAddress) := by
    apply looks_branch
    · apply looks_bind (looks_reading (Access.reads_exists _))
      intro found
      exact looks_branch (looks_halt _) (looks_pure _)
    · exact looks_pure _
  unfold checkTarget
  apply looks_branch
  · exact looks_bind (looks_halt _) fun _ => present
  · exact present

theorem looks_callCreatesAccount (target : CallTarget) : Looks (callCreatesAccount host target) :=
  looks_branch (looks_reading (Access.reads_isEmpty _)) (looks_pure _)

theorem looks_operandsReach (operands : CallOperands) : Looks operands.reach :=
  looks_bind (looks_ofHalting _) fun _ => looks_bind (looks_ofHalting _) fun _ => looks_pure _

theorem looks_requireCallGas (target : CallTarget) (baseCost : UInt64) :
    Looks (requireCallGas host target baseCost) := by
  apply looks_bind (looks_ofHalting _)
  intro estimate
  apply looks_bind (looks_frame _)
  intro gas
  exact looks_branch (looks_halt _) (looks_pure _)

theorem looks_callFailsEarly (target : CallTarget) : Looks (callFailsEarly host target) := by
  have answer : ∀ poor : Bool, Looks (do
      let depth ← Run.frame (·.invocation.depth)
      return poor || host.config.maxCallDepth ≤ depth) :=
    fun poor => looks_bind (looks_frame _) fun _ => looks_pure _
  apply looks_bind (looks_frame _)
  intro current
  apply looks_branch
  · exact looks_bind (looks_reading (Access.reads_balance _)) fun _ => answer _
  · exact answer false

/-- The memory size that covers both ranges of a call. -/
def CallOperands.needed (operands : CallOperands) : Except Halt Nat := do
  let arguments ← Memory.sizeToReach operands.argumentsOffset operands.argumentsSize
  let returned ← Memory.sizeToReach operands.returnOffset operands.returnSize
  return max arguments returned

/-- Whether a call brings an account into being. -/
def CallTarget.createsAccount (target : CallTarget) (world : World) : Bool :=
  if target.movesValue && target.kind = .call then
    ((world.account? target.recipient).getD .empty).isEmpty
  else false

/-- What a call costs on a machine before its code is accessed. -/
def CallRequest.baseCost (request : CallRequest) (host : Host) (machine : Machine) :
    Except Halt UInt64 := do
  host.schedule.call (← request.operands.needed) machine.frame.memory.size
    request.target.movesValue (request.target.createsAccount machine.world)

theorem needed_of_reach {operands : CallOperands} {machine final : Machine} {needed : Nat}
    (done : operands.reach machine = .ok needed final) : operands.needed = .ok needed := by
  obtain ⟨arguments, _, first, rest⟩ := bind_eq_ok.mp done
  obtain ⟨returned, _, second, shown⟩ := bind_eq_ok.mp rest
  cases shown
  unfold CallOperands.needed
  rw [(Run.ofHalting_eq_ok.mp first).1, (Run.ofHalting_eq_ok.mp second).1]
  rfl

theorem createsAccount_of_callCreatesAccount {target : CallTarget} {machine final : Machine}
    {creates : Bool} (done : callCreatesAccount host target machine = .ok creates final) :
    creates = target.createsAccount machine.world := by
  unfold callCreatesAccount at done
  unfold CallTarget.createsAccount
  by_cases pays : (target.movesValue && decide (target.kind = .call)) = true
  · rw [if_pos pays] at done ⊢
    obtain ⟨world, looked, rfl⟩ := Run.onWorld_eq_ok.mp done
    exact ((Access.reads_isEmpty _).shows looked).1
  · rw [if_neg pays] at done ⊢
    cases done
    rfl

/-- The quote of a call is its base cost, and nothing is done but to clear the return data. -/
theorem baseCost_of_quoteCall {request : CallRequest} {machine final : Machine} {needed : Nat}
    {baseCost : UInt64} (done : quoteCall host request machine = .ok (needed, baseCost) final) :
    request.operands.needed = .ok needed ∧ request.baseCost host machine = .ok baseCost ∧
      final = { machine with frame.returnData := ByteArray.empty } := by
  obtain ⟨_, _, checked, rest⟩ := bind_eq_ok.mp done
  rw [looks_checkTarget _ checked] at rest
  obtain ⟨creates, _, created, rest⟩ := bind_eq_ok.mp rest
  have isNew := createsAccount_of_callCreatesAccount created
  rw [looks_callCreatesAccount _ created] at rest
  obtain ⟨reach, _, reached, rest⟩ := bind_eq_ok.mp rest
  have covers := needed_of_reach reached
  rw [looks_operandsReach _ reached] at rest
  obtain ⟨size, _, sized, rest⟩ := bind_eq_ok.mp rest
  cases sized
  obtain ⟨price, _, priced, rest⟩ := bind_eq_ok.mp rest
  have quoted := (Run.ofHalting_eq_ok.mp priced).1
  rw [looks_ofHalting _ priced] at rest
  obtain ⟨_, _, required, rest⟩ := bind_eq_ok.mp rest
  rw [looks_requireCallGas _ _ required] at rest
  cases rest
  refine ⟨covers, ?_, rfl⟩
  unfold CallRequest.baseCost
  rw [covers, ← isNew]
  exact quoted

theorem quoteCall_eq_ok {request : CallRequest} {machine final : Machine} {needed : Nat}
    {baseCost : UInt64} (done : quoteCall host request machine = .ok (needed, baseCost) final) :
    (if request.target.movesValue then host.schedule.callValue.toNat else 0) ≤ baseCost.toNat := by
  obtain ⟨_, _, priced⟩ := Gas.bind_eq_ok.mp (baseCost_of_quoteCall done).2.1
  exact GasSchedule.le_call priced

theorem orderly_payCall (request : CallRequest) (needed : Nat) (baseCost : UInt64) :
    Orderly host known silent tame (baseCost.toNat + host.schedule.leastAccess)
      (-request.operandCount) (payCall host request needed baseCost) := by
  refine (orderly_isColdAddress _).step fun cold => ?_
  have price : ∀ total, Gas.plus baseCost (host.schedule.accountAccess cold) = .ok total →
      baseCost.toNat + host.schedule.leastAccess ≤ total.toNat := by
    intro total sum
    have least := GasSchedule.leastAccess_le host.schedule cold
    rw [Gas.plus_eq_ok sum]
    omega
  exact ((orderly_chargeCost _ _ price).bind fun _ => (orderly_warmAddress _).bind fun _ =>
    (orderly_drop _).bind fun _ =>
      orderly_onMemory (Memory.haltsUnchanged_grow _)).weaken (by omega) (by omega)

theorem orderly_calleeEntry (request : CallRequest) (needed : Nat) (baseCost : UInt64) :
    Orderly host known silent False 0 (-request.operandCount)
      (calleeEntry host request needed baseCost) :=
  ((orderly_payCall _ _ _).bind fun _ => (orderly_chargeChildGas _ _).bind fun _ =>
    (orderly_frame _).bind fun _ => (orderly_calleeFrame _ _ _).bind fun _ =>
    orderly_pure _).weaken (by omega) (by omega)

/-- What a call gives its callee comes out of its own gas. -/
theorem calleeEntry_eq_ok {request : CallRequest} {needed : Nat} {baseCost : UInt64}
    {machine final : Machine} {entry : Entry}
    (done : calleeEntry host request needed baseCost machine = .ok entry final) :
    entry.child.Fresh ∧ entry.child.invocation.kind = request.target.kind ∧
      entry.child.invocation.recipient = request.target.recipient ∧
      entry.child.invocation.isStatic = request.target.isStatic ∧
      entry.child.invocation.depth = machine.frame.invocation.depth + 1 ∧
      entry.transfer = callTransfer request.target machine.frame.invocation.recipient ∧
      final.frame.gas.toNat + entry.child.invocation.gasLimit.toNat + baseCost.toNat +
          host.schedule.leastAccess ≤
        machine.frame.gas.toNat + request.target.stipend host.schedule := by
  have paying : Orderly host (fun _ => True) True True _ _
    (payCall host request needed baseCost) := orderly_payCall request needed baseCost
  have giving : Orderly host (fun _ => True) True False _ _
    (chargeChildGas host request.target request.operands.gas) := orderly_chargeChildGas _ _
  obtain ⟨_, paid, pays, rest⟩ := bind_eq_ok.mp done
  have samePaid := (paying.evolves trivial pays).samePlace.context.invocation
  have spent := paying.spends trivial pays
  obtain ⟨gas, given, gives, rest⟩ := bind_eq_ok.mp rest
  have sameGiven := (giving.evolves trivial gives).samePlace.context.invocation
  have shared := chargeChildGas_eq_ok gives
  obtain ⟨current, _, asked, rest⟩ := bind_eq_ok.mp rest
  rw [Run.frame_apply] at asked
  cases asked
  obtain ⟨child, made, makes, returned⟩ := bind_eq_ok.mp rest
  cases returned
  have making : Orderly host (fun _ => True) True True _ _
    (calleeFrame host request.target request.operands gas) := orderly_calleeFrame _ _ _
  have kept := making.spends trivial makes
  obtain ⟨fresh, kind, recipient, static, limit, depth⟩ := calleeFrame_eq_ok makes
  have same := sameGiven.trans samePaid
  rw [same] at depth
  refine ⟨fresh, kind, recipient, static, depth, by rw [same], ?_⟩
  simp only [limit]
  omega

theorem orderly_prepareCall (request : CallRequest) :
    Orderly host known silent False 0 (1 - request.operandCount) (prepareCall host request) := by
  refine (orderly_quoteCall _).step fun quote => (orderly_callFailsEarly _).step fun early =>
    Orderly.branch ?_ ?_
  · exact ((orderly_drop _).bind fun _ => (orderly_push _).bind fun _ =>
      orderly_pure _).weaken (by omega) (by omega)
  · exact ((orderly_calleeEntry _ _ _).bind fun _ => orderly_pure _).weaken (by omega) (by omega)

/-- What a prepared child is known to be, and what it costs its parent. -/
structure Prepared (host : Host) (machine : Machine) (operandCount : Nat) (entry : Entry)
    (final : Machine) : Prop where
  legal : entry.Legal host final
  stack : final.frame.stack.size + operandCount ≤ machine.frame.stack.size
  gas : host.schedule = .cancun →
    final.frame.gas.toNat + entry.child.invocation.gasLimit.toNat + 100 ≤ machine.frame.gas.toNat

theorem legal_of_call {request : CallRequest} {machine final : Machine} {entry : Entry}
    (suits : request.target.Suits machine.frame.invocation)
    (sameInvocation : final.frame.invocation = machine.frame.invocation)
    (sameWorld : final.world = machine.world)
    (notEarly : ((request.target.movesValue &&
      (machine.world.balance machine.frame.invocation.recipient).lt request.target.value) ||
      decide (host.config.maxCallDepth ≤ machine.frame.invocation.depth)) = false)
    (fresh : entry.child.Fresh) (kind : entry.child.invocation.kind = request.target.kind)
    (recipient : entry.child.invocation.recipient = request.target.recipient)
    (static : entry.child.invocation.isStatic = request.target.isStatic)
    (depth : entry.child.invocation.depth = machine.frame.invocation.depth + 1)
    (transfer : entry.transfer = callTransfer request.target machine.frame.invocation.recipient) :
    entry.Legal host final := by
  obtain ⟨affordable, allowed⟩ := Bool.or_eq_false_iff.mp notEarly
  have unmoved : request.target.transfersValue = false → entry.transfer.value.isZero = true := by
    intro moves
    rw [transfer, callTransfer, moves]
    exact Word.isZero_iff.mpr rfl
  have moved : request.target.transfersValue = true → entry.transfer =
      ⟨machine.frame.invocation.recipient, request.target.recipient, request.target.value⟩ := by
    intro moves
    rw [transfer, callTransfer, if_pos moves]
  constructor
  case fresh => exact fresh
  case depth => rw [sameInvocation, depth]
  case depthAllowed =>
    rw [sameInvocation]
    simpa using allowed
  case source =>
    rw [sameInvocation]
    cases moves : request.target.transfersValue with
    | false => exact .inr (unmoved moves)
    | true => exact .inl (by rw [moved moves])
  case target =>
    rw [recipient, transfer, callTransfer]
    split <;> rfl
  case affordable =>
    rw [sameWorld]
    cases moves : request.target.transfersValue with
    | false => exact .inl (unmoved moves)
    | true =>
        rw [moved moves]
        cases zero : request.target.value.isZero with
        | true => exact .inl rfl
        | false =>
            right
            simpa [CallTarget.movesValue, moves, zero] using affordable
  case creation =>
    intro created
    rw [kind, suits.calls] at created
    cases created
  case inherits =>
    intro isStatic
    rw [sameInvocation] at isStatic
    rw [static, suits.inherits isStatic]
  case neutral =>
    intro isStatic
    rw [static] at isStatic
    cases moves : request.target.transfersValue with
    | false => exact .inl (unmoved moves)
    | true =>
        rw [moved moves]
        rcases suits.neutral isStatic with zero | impossible | own
        · exact .inl zero
        · rw [moves] at impossible
          cases impossible
        · exact .inr own.symm

/-- A call either fails early or makes the entry of its callee. -/
theorem prepareCall_cases {request : CallRequest} {machine final : Machine}
    {answer : Option Entry} (done : prepareCall host request machine = .ok answer final) :
    ∃ needed baseCost quoted early asked,
      quoteCall host request machine = .ok (needed, baseCost) quoted ∧
      callFailsEarly host request.target quoted = .ok early asked ∧
      ((early = true ∧ answer = none ∧
          (do Run.drop request.operandCount; Run.push .zero) asked = .ok () final) ∨
        (early = false ∧ ∃ entry, answer = some entry ∧
          calleeEntry host request needed baseCost asked = .ok entry final)) := by
  obtain ⟨⟨needed, baseCost⟩, quoted, quotes, rest⟩ := bind_eq_ok.mp done
  obtain ⟨early, asked, asks, rest⟩ := bind_eq_ok.mp rest
  refine ⟨needed, baseCost, quoted, early, asked, quotes, asks, ?_⟩
  cases early with
  | true =>
      obtain ⟨_, dropped, drops, later⟩ := bind_eq_ok.mp rest
      obtain ⟨_, pushed, pushes, returned⟩ := bind_eq_ok.mp later
      cases returned
      exact .inl ⟨rfl, rfl, bind_eq_ok.mpr ⟨(), dropped, drops, pushes⟩⟩
  | false =>
      obtain ⟨entry, made, makes, returned⟩ := bind_eq_ok.mp rest
      cases returned
      exact .inr ⟨rfl, entry, rfl, makes⟩

theorem prepareCall_eq_some {request : CallRequest} {machine final : Machine} {entry : Entry}
    (suits : request.Suits machine.frame.invocation)
    (done : prepareCall host request machine = .ok (some entry) final) :
    Prepared host machine request.operandCount entry final := by
  have quoting : Orderly host (fun _ => True) True True _ _ (quoteCall host request) :=
    orderly_quoteCall request
  have asking : Orderly host (fun _ => True) True True _ _ (callFailsEarly host request.target) :=
    orderly_callFailsEarly _
  obtain ⟨needed, baseCost, quoted, early, asked, quotes, asks,
    ⟨_, impossible, _⟩ | ⟨rfl, _, same, makes⟩⟩ := prepareCall_cases done
  · cases impossible
  cases same
  have making : Orderly host (fun _ => True) True False _ _
    (calleeEntry host request needed baseCost) := orderly_calleeEntry _ _ _
  have least := quoteCall_eq_ok quotes
  have answer := callFailsEarly_eq_ok asks
  have sameQuoted := (quoting.evolves trivial quotes).samePlace.context.invocation
  have sameAsked := (asking.evolves trivial asks).samePlace.context.invocation
  have sameMade := (making.evolves trivial makes).samePlace.context.invocation
  obtain ⟨fresh, kind, recipient, static, depth, transfer, paid⟩ := calleeEntry_eq_ok makes
  have quoteSpent := quoting.spends trivial quotes
  have askSpent := asking.spends trivial asks
  have quoteGrown := quoting.grows trivial quotes
  have askGrown := asking.grows trivial asks
  have madeGrown := making.grows trivial makes
  constructor
  case legal =>
    refine legal_of_call ?_ (sameMade.trans sameAsked) ?_ answer.symm fresh kind recipient
      static (by rw [depth, sameAsked]) (by rw [transfer, sameAsked])
    · rw [sameQuoted]
      exact suits.target
    · rw [(making.keeps trivial trivial makes).1, (asking.keeps trivial trivial asks).1]
  case stack => omega
  case gas =>
    intro cancun
    rw [cancun] at least paid
    have access : GasSchedule.cancun.leastAccess = 100 := rfl
    have value : GasSchedule.cancun.callValue.toNat = 9000 := rfl
    have stipend : GasSchedule.cancun.callStipend.toNat = 2300 := rfl
    rw [CallTarget.stipend] at paid
    split at paid <;> rename_i moves <;> simp only [moves, if_true] at least <;> omega

/-- A call that fails early has paid nothing: it only gives its operands for a zero. -/
theorem prepareCall_eq_none {request : CallRequest} {machine final : Machine}
    (done : prepareCall host request machine = .ok none final) :
    final.frame.gas = machine.frame.gas := by
  obtain ⟨_, _, quoted, _, asked, quotes, asks, ⟨_, _, gives⟩ | ⟨_, _, impossible, _⟩⟩ :=
    prepareCall_cases done
  · obtain ⟨_, _, dropped, pushed⟩ := bind_eq_ok.mp gives
    obtain ⟨_, _, rfl⟩ := Run.updateStack_eq_ok.mp dropped
    obtain ⟨_, _, rfl⟩ := Run.updateStack_eq_ok.mp pushed
    rw [looks_callFailsEarly _ asks, (baseCost_of_quoteCall quotes).2.2]
  · cases impossible

theorem isStatic_of_prepareCall {request : CallRequest} {machine final : Machine} {entry : Entry}
    (done : prepareCall host request machine = .ok (some entry) final) :
    entry.child.invocation.isStatic = request.target.isStatic := by
  obtain ⟨_, _, _, _, _, _, _, ⟨_, impossible, _⟩ | ⟨_, _, same, makes⟩⟩ := prepareCall_cases done
  · cases impossible
  · cases same
    obtain ⟨_, _, _, static, _⟩ := calleeEntry_eq_ok makes
    exact static

theorem settles_of_prepareCall {request : CallRequest} {machine final : Machine} {cause : Failure}
    (cancun : host.schedule = .cancun) (granted : host.refusals = .none)
    (failed : prepareCall host request machine = .error cause final) :
    cause.endsMessage = false := by
  have quoting : Orderly host (fun _ => True) True True _ _ (quoteCall host request) :=
    orderly_quoteCall request
  have asking : Orderly host (fun _ => True) True True _ _ (callFailsEarly host request.target) :=
    orderly_callFailsEarly _
  rcases bind_eq_error.mp failed with unquoted | ⟨⟨needed, baseCost⟩, quoted, quotes, rest⟩
  · exact quoting.settles trivial trivial unquoted granted
  have least := quoteCall_eq_ok quotes
  rcases bind_eq_error.mp rest with unasked | ⟨early, asked, asks, rest⟩
  · exact asking.settles trivial trivial unasked granted
  cases early with
  | true =>
      have giving : Orderly host (fun _ => True) True True _ _ (do
          Run.drop request.operandCount
          Run.push .zero
          return (none : Option Entry)) :=
        (orderly_drop _).bind fun _ => (orderly_push _).bind fun _ => orderly_pure _
      exact giving.settles trivial trivial rest granted
  | false =>
      have paying : Orderly host (fun _ => True) True True _ _
        (payCall host request needed baseCost) := orderly_payCall _ _ _
      rcases bind_eq_error.mp rest with unmade | ⟨_, _, _, returned⟩
      · rcases bind_eq_error.mp unmade with unpaid | ⟨_, paid, pays, rest⟩
        · exact paying.settles trivial trivial unpaid granted
        rcases bind_eq_error.mp rest with ungiven | ⟨gas, given, _, rest⟩
        · refine settles_of_chargeChildGas ?_ ungiven
          have spent := paying.spends trivial pays
          have bounded := asked.frame.gas.toNat_lt
          rw [cancun] at spent least ⊢
          have access : GasSchedule.cancun.leastAccess = 100 := rfl
          have value : GasSchedule.cancun.callValue.toNat = 9000 := rfl
          have stipend : GasSchedule.cancun.callStipend.toNat = 2300 := rfl
          simp only [CallTarget.stipend, UInt64.size]
          split <;> rename_i moves <;> simp only [moves, if_true] at least <;> omega
        have making : Orderly host (fun _ => True) True True _ _ (do
            let current ← Run.frame (·.invocation.recipient)
            let child ← calleeFrame host request.target request.operands gas
            return (⟨child, callTransfer request.target current⟩ : Entry)) :=
          (orderly_frame _).bind fun _ => (orderly_calleeFrame _ _ _).bind fun _ => orderly_pure _
        exact making.settles trivial trivial rest granted
      · cases returned

end Instruction

end CancunMachine
