import Mathlib.Tactic
import CancunMachine.Proofs.Order.Child

/-!
# The price of a call

What a call costs can be read off the machine before it: a base cost for its memory, its value and a
new account, and a cost for the access to the code. A call that is entered takes this price and the
gas of its callee from its caller, and a callee that receives value gets the stipend on top. In the
end the caller has back what the callee has left.
-/

namespace CancunMachine

open Ending

namespace Instruction

variable {host : Host} {enter : Transfer → Run Outcome} {outcome : Outcome}

/-- What a call costs on a machine, without the gas of its callee. -/
def CallRequest.price (request : CallRequest) (host : Host) (machine : Machine) :
    Except Halt UInt64 := do
  Gas.plus (← request.baseCost host machine)
    (host.schedule.accountAccess !(machine.warmth.isWarmAddress request.target.codeAddress))

variable {request : CallRequest} {machine final : Machine}

theorem payCall_eq_ok {needed : Nat} {baseCost : UInt64}
    (pays : payCall host request needed baseCost machine = .ok () final) :
    ∃ price stack memory, Gas.plus baseCost (host.schedule.accountAccess
        !(machine.warmth.isWarmAddress request.target.codeAddress)) = .ok price ∧
      price ≤ machine.frame.gas ∧ Memory.grow needed machine.frame.memory = .ok () memory ∧
      final.frame = { machine.frame with stack, memory, gas := machine.frame.gas - price } := by
  obtain ⟨cold, _, asked, rest⟩ := bind_eq_ok.mp pays
  cases asked
  obtain ⟨_, charged, charges, rest⟩ := bind_eq_ok.mp rest
  obtain ⟨price, _, sum, takes⟩ := bind_eq_ok.mp charges
  obtain ⟨priced, rfl⟩ := Run.ofHalting_eq_ok.mp sum
  obtain ⟨enough, rfl⟩ := Run.charge_eq_ok.mp takes
  obtain ⟨_, _, warms, rest⟩ := bind_eq_ok.mp rest
  cases warms
  obtain ⟨_, _, drops, grows⟩ := bind_eq_ok.mp rest
  obtain ⟨stack, _, rfl⟩ := Run.updateStack_eq_ok.mp drops
  obtain ⟨memory, grown, rfl⟩ := Run.onMemory_eq_ok.mp grows
  exact ⟨price, stack, memory, priced, enough, grown, rfl⟩

theorem handed_of_chargeChildGas {target : CallTarget} {requested : Word} {gas : UInt64}
    (gives : chargeChildGas host target requested machine = .ok gas final) :
    ∃ handed, handed = Gas.forChild machine.frame.gas requested.toLimbSaturating ∧
      handed ≤ machine.frame.gas ∧ gas.toNat = handed.toNat + target.stipend host.schedule ∧
      final.frame = { machine.frame with gas := machine.frame.gas - handed } := by
  obtain ⟨available, _, asked, rest⟩ := bind_eq_ok.mp gives
  rw [Run.frame_apply] at asked
  cases asked
  obtain ⟨_, _, charged, granted⟩ := bind_eq_ok.mp rest
  obtain ⟨enough, rfl⟩ := Run.charge_eq_ok.mp charged
  refine ⟨_, rfl, enough, ?_⟩
  unfold CallTarget.stipend
  by_cases moves : target.movesValue = true
  · simp only [if_pos moves] at granted ⊢
    cases fits : addWithin? (Gas.forChild machine.frame.gas requested.toLimbSaturating)
        host.schedule.callStipend with
    | none =>
        rw [fits] at granted
        cases granted
    | some total =>
        rw [fits] at granted
        cases granted
        exact ⟨addWithin?_eq_some fits, rfl⟩
  · simp only [if_neg moves] at granted ⊢
    cases granted
    exact ⟨rfl, rfl⟩

theorem loads_of_calleeFrame {target : CallTarget} {operands : CallOperands} {gas : UInt64}
    {child : Frame} (makes : calleeFrame host target operands gas machine = .ok child final) :
    ∃ calldata memory,
      Memory.load operands.argumentsOffset operands.argumentsSize machine.frame.memory =
        .ok calldata memory ∧ final.frame = { machine.frame with memory } := by
  obtain ⟨calldata, _, loaded, rest⟩ := bind_eq_ok.mp makes
  obtain ⟨memory, loads, rfl⟩ := Run.onMemory_eq_ok.mp loaded
  obtain ⟨_, _, asked, rest⟩ := bind_eq_ok.mp rest
  cases asked
  obtain ⟨_, _, read, rest⟩ := bind_eq_ok.mp rest
  obtain ⟨_, _, rfl⟩ := Run.onWorld_eq_ok.mp read
  obtain ⟨_, _, made, rest⟩ := bind_eq_ok.mp rest
  cases made
  obtain ⟨_, _, taken, returned⟩ := bind_eq_ok.mp rest
  obtain ⟨_, _, _, rfl⟩ := takeBuffers_eq_ok taken
  cases returned
  exact ⟨calldata, memory, loads, rfl⟩

/-- What a call has made of the frame of its caller when it enters its callee. -/
structure CallRequest.Leaves (request : CallRequest) (host : Host) (machine : Machine)
    (entry : Entry) (ready : Machine) : Prop where
  frame : ∃ stack memory gas, ready.frame =
    { machine.frame with stack, memory, gas, returnData := ByteArray.empty }
  memory : ∃ needed grown calldata, request.operands.needed = .ok needed ∧
    Memory.grow needed machine.frame.memory = .ok () grown ∧
    Memory.load request.operands.argumentsOffset request.operands.argumentsSize grown =
      .ok calldata ready.frame.memory
  gas : ∃ price handed, request.price host machine = .ok price ∧
    handed = Gas.forChild (machine.frame.gas - price) request.operands.gas.toLimbSaturating ∧
    entry.child.invocation.gasLimit.toNat =
      handed.toNat + request.target.stipend host.schedule ∧
    ready.frame.gas.toNat + price.toNat + handed.toNat = machine.frame.gas.toNat

theorem leaves_of_prepareCall {ready : Machine} {entry : Entry}
    (prepares : prepareCall host request machine = .ok (some entry) ready) :
    request.Leaves host machine entry ready := by
  obtain ⟨needed, baseCost, quoted, early, asked, quotes, asks,
    ⟨_, impossible, _⟩ | ⟨_, _, same, makes⟩⟩ := prepareCall_cases prepares
  · cases impossible
  cases same
  obtain ⟨reaches, base, rfl⟩ := baseCost_of_quoteCall quotes
  rw [looks_callFailsEarly _ asks] at makes
  obtain ⟨_, paid, pays, rest⟩ := bind_eq_ok.mp makes
  obtain ⟨gas, given, gives, rest⟩ := bind_eq_ok.mp rest
  obtain ⟨current, _, asked, rest⟩ := bind_eq_ok.mp rest
  cases asked
  obtain ⟨child, made, enters, returned⟩ := bind_eq_ok.mp rest
  cases returned
  obtain ⟨price, stack, grown, priced, affordable, grows, paidFrame⟩ := payCall_eq_ok pays
  obtain ⟨handed, share, enough, granted, givenFrame⟩ := handed_of_chargeChildGas gives
  obtain ⟨calldata, loaded, loads, madeFrame⟩ := loads_of_calleeFrame enters
  obtain ⟨_, _, _, _, limit, _⟩ := calleeFrame_eq_ok enters
  rw [givenFrame, paidFrame] at madeFrame loads
  rw [paidFrame] at share enough
  have left : given.frame.gas.toNat + price.toNat + handed.toNat = machine.frame.gas.toNat := by
    have paidGas := UInt64.toNat_sub_of_le _ _ affordable
    have givenGas := UInt64.toNat_sub_of_le _ _ enough
    have bounded := UInt64.le_iff_toNat_le.mp affordable
    have boundedShare := UInt64.le_iff_toNat_le.mp enough
    rw [givenFrame, paidFrame]
    simp only at paidGas givenGas bounded boundedShare ⊢
    omega
  refine ⟨⟨stack, loaded, _, madeFrame⟩, ⟨needed, grown, calldata, reaches, grows, ?_⟩,
    ⟨price, handed, ?_, share, limit ▸ granted, ?_⟩⟩
  · rw [madeFrame]
    exact loads
  · unfold CallRequest.price
    rw [base]
    exact priced
  · rw [← left, givenFrame, madeFrame, paidFrame]

/-- A call that enters its callee has paid its price and the gas of the callee. -/
theorem gas_of_prepareCall {ready : Machine} {entry : Entry}
    (done : prepareCall host request machine = .ok (some entry) ready) :
    ∃ price, request.price host machine = .ok price ∧
      ready.frame.gas.toNat + entry.child.invocation.gasLimit.toNat + price.toNat =
        machine.frame.gas.toNat + request.target.stipend host.schedule := by
  obtain ⟨price, handed, priced, _, limit, left⟩ := (leaves_of_prepareCall done).gas
  exact ⟨price, priced, by omega⟩

/-- What a caller does with the outcome of its callee. -/
theorem finishCall_eq_ok {operands : CallOperands} {signal : Signal}
    (finishes : finishCall outcome operands machine = .ok signal final) :
    ∃ gas memory stack,
      gas.toNat = machine.frame.gas.toNat + outcome.gasRemaining.toNat ∧
      Memory.storePadded operands.returnOffset outcome.output operands.returnSize
        machine.frame.memory = .ok () memory ∧
      machine.frame.stack.push (.ofBool outcome.isSuccess) = .ok stack ∧
      final.frame = { machine.frame with
        stack, memory, gas, returnData := outcome.output, queuedHalt := none } := by
  obtain ⟨_, raised, raises, rest⟩ := bind_eq_ok.mp finishes
  cases raiseChildHalt_eq_ok raises
  obtain ⟨_, _, returns, rest⟩ := bind_eq_ok.mp rest
  obtain ⟨gas, rfl, sum⟩ := returnGas_eq_ok returns
  obtain ⟨_, _, shows, rest⟩ := bind_eq_ok.mp rest
  cases shows
  obtain ⟨_, _, stores, rest⟩ := bind_eq_ok.mp rest
  obtain ⟨memory, stored, rfl⟩ := Run.onMemory_eq_ok.mp stores
  obtain ⟨_, _, pushes, returned⟩ := bind_eq_ok.mp rest
  obtain ⟨stack, pushed, rfl⟩ := Run.updateStack_eq_ok.mp pushes
  cases returned
  exact ⟨gas, memory, stack, sum, stored, pushed, rfl⟩

/-- How an instruction reads the call that it makes, if it makes one. -/
def callReader? (host : Host) : Opcode → Option (Run CallRequest)
  | .call => some (readCall host)
  | .callcode => some (readCallcode host)
  | .delegatecall => some readDelegatecall
  | .staticcall => some (readStaticcall host)
  | _ => none

variable {opcode : Opcode} {read : Run CallRequest}

theorem looks_of_callReader? (reads : callReader? host opcode = some read) : Looks read := by
  cases opcode <;> cases reads
  · exact looks_readCall
  · exact looks_readCallcode
  · exact looks_readDelegatecall
  · exact looks_readStaticcall

theorem execute_of_callReader? (enter : Transfer → Run Outcome)
    (reads : callReader? host opcode = some read) :
    execute host enter opcode = (do
      let request ← read
      performing host enter (prepareCall host request)
        fun _ outcome => finishCall outcome request.operands) := by
  cases opcode <;> cases reads <;> rfl

theorem preparation_of_callReader? (reads : callReader? host opcode = some read) :
    preparation host opcode = (do prepareCall host (← read)) := by
  cases opcode <;> cases reads <;> rfl

/-- A call either fails early and costs nothing, or it costs its caller exactly its price and what
the callee does not give back of its gas, less the stipend. -/
theorem gas_of_call (enters : Enters host enter) (reads : callReader? host opcode = some read)
    {machine final : Machine} {signal : Signal}
    (done : execute host enter opcode machine = .ok signal final) :
    (preparation host opcode machine = .ok none final ∧ final.frame.gas = machine.frame.gas) ∨
    ∃ request price entry ready outcome closed,
      read machine = .ok request machine ∧ request.price host machine = .ok price ∧
      preparation host opcode machine = .ok (some entry) ready ∧
      enter entry.transfer (ready.entering entry.child) = .ok outcome closed ∧
      final.frame.gas.toNat + price.toNat + entry.child.invocation.gasLimit.toNat =
        machine.frame.gas.toNat + outcome.gasRemaining.toNat +
          request.target.stipend host.schedule := by
  rw [execute_of_callReader? enter reads] at done
  rw [preparation_of_callReader? reads]
  obtain ⟨request, _, started, rest⟩ := bind_eq_ok.mp done
  have looks : Looks read := looks_of_callReader? reads
  cases looks started
  rw [bind_of_ok started]
  obtain ⟨answer, ready, prepares, rest⟩ := bind_eq_ok.mp rest
  rw [prepares]
  cases answer with
  | none =>
      cases rest
      exact .inl ⟨rfl, prepareCall_eq_none prepares⟩
  | some entry =>
      obtain ⟨outcome, returned, ran, finished⟩ := bind_eq_ok.mp rest
      obtain ⟨closed, entered, rfl⟩ := entered_of_runChild enters ran
      obtain ⟨price, priced, paid⟩ := gas_of_prepareCall prepares
      obtain ⟨gas, _, _, collected, _, _, changed⟩ := finishCall_eq_ok finished
      have resumed : (closed.resumed host ready.frame ready.suspended).frame = ready.frame := rfl
      rw [resumed] at collected
      have gone : final.frame.gas = gas := congrArg Frame.gas changed
      refine .inr ⟨request, price, entry, ready, outcome, closed, started, priced, rfl, entered, ?_⟩
      rw [gone]
      omega

end Instruction

end CancunMachine
