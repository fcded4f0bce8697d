import Mathlib.Tactic
import CancunMachine.Proofs.MemoryGas.Instruction

/-!
# How calls and creations pay for memory

A call pays for the memory of its arguments and of its output before its callee is entered, and
what it gives to the callee comes out of what is left. A parent that takes its child back has at most
the gas that it has given away, and stores the output within the memory it has paid for.
-/

namespace CancunMachine

open Ending

/-- What a parent has when its child is entered: it has paid for the memory it needs, and for all
the gas of the child beside. -/
structure Machine.Endows (needed : Nat) (machine ready : Machine) (entry : Entry) : Prop where
  memory : machine.frame.memory.GrowsWithin (max machine.frame.memory.size needed)
    ready.frame.memory
  price : Memory.wholePrice (max machine.frame.memory.size needed) + ready.frame.gas.toNat +
      entry.child.invocation.gasLimit.toNat ≤
    Memory.wholePrice machine.frame.memory.size + machine.frame.gas.toNat

namespace Metered

variable {Alpha : Type} {needed : Nat} {early excuse : Failure → Prop} {machine middle : Machine}
  {ending : EStateM.Result Failure Machine Alpha}

theorem memory (metered : Metered needed early excuse machine ending) :
    machine.frame.memory.GrowsWithin (max machine.frame.memory.size needed)
      (reached ending).frame.memory := by
  cases metered with
  | idle same _ =>
      have kept : (reached ending).frame.memory = machine.frame.memory := congrArg Prod.fst same
      rw [kept]
      exact .refl (le_max_left _ _)
  | paid paid _ => exact paid.memory

/-- The price of the memory at hand and the gas that is left never rise. -/
theorem price (metered : Metered needed early excuse machine ending) :
    Memory.wholePrice (reached ending).frame.memory.size + (reached ending).frame.gas.toNat ≤
      Memory.wholePrice machine.frame.memory.size + machine.frame.gas.toNat := by
  cases metered with
  | idle same _ =>
      have memory : (reached ending).frame.memory = machine.frame.memory := congrArg Prod.fst same
      have gas : (reached ending).frame.gas = machine.frame.gas := congrArg Prod.snd same
      rw [memory, gas]
  | paid paid _ =>
      have larger := Memory.wholePrice_mono paid.memory.within
      have price := paid.price
      omega

theorem of_means (same : middle.means = machine.means)
    (metered : Metered needed early excuse middle ending) :
    Metered needed early excuse machine ending := by
  have memory : middle.frame.memory = machine.frame.memory := congrArg Prod.fst same
  have gas : middle.frame.gas = machine.frame.gas := congrArg Prod.snd same
  cases metered with
  | idle kept faults => exact .idle (kept.trans same) faults
  | paid paid faults =>
      obtain ⟨grows, price⟩ := paid
      rw [memory] at grows price
      rw [gas] at price
      exact .paid ⟨grows, price⟩ faults

/-- An instruction that fails early is metered if its beginning is. -/
theorem of_error {Beta : Type} {cause : Failure} {final : Machine}
    (metered : Metered needed early excuse machine
      (.error cause final : EStateM.Result Failure Machine Beta)) :
    Metered needed early excuse machine
      (.error cause final : EStateM.Result Failure Machine Alpha) := by
  cases metered with
  | idle same faults =>
      refine .idle same ?_
      rintro _ _ ⟨⟩
      exact faults cause final rfl
  | paid paid faults =>
      refine .paid paid ?_
      rintro _ _ ⟨⟩
      exact faults cause final rfl

/-- A step that may write to the machine but keeps the means of the frame. -/
theorem prepare {Beta : Type} {first : Run Beta} {next : Beta → Run Alpha}
    (metered : Metered needed early excuse machine (first machine))
    (kept : ∀ {value middle}, first machine = .ok value middle → middle.means = machine.means)
    (rest : ∀ value middle, first machine = .ok value middle →
      Metered needed early excuse middle (next value middle)) :
    Metered needed early excuse machine ((first >>= next) machine) := by
  cases ended : first machine with
  | error cause middle =>
      rw [ended] at metered
      rw [bind_of_error ended]
      exact metered.of_error
  | ok value middle =>
      rw [bind_of_ok ended]
      exact of_means (kept ended) (rest value middle ended)

theorem of_ok {Beta : Type} {value : Beta} {other : Alpha} {final : Machine}
    (metered : Metered needed early excuse machine (.ok value final)) :
    Metered needed early excuse machine (.ok other final) := by
  cases metered with
  | idle same _ => exact .idle same fun _ _ ended => nomatch ended
  | paid paid _ => exact .paid paid fun _ _ ended => nomatch ended

/-- The answer of an instruction does not matter. -/
theorem answer {Beta : Type} {action : Run Beta} {shown : Beta → Alpha}
    (metered : Metered needed early excuse machine (action machine)) :
    Metered needed early excuse machine
      ((do
        let value ← action
        return shown value : Run Alpha) machine) := by
  cases ended : action machine with
  | error cause final =>
      rw [ended] at metered
      rw [bind_of_error ended]
      exact metered.of_error
  | ok value final =>
      rw [ended] at metered
      rw [bind_of_ok ended]
      exact metered.of_ok

theorem of_keeps {action : Run Alpha} (keeps : Keeps Machine.means action)
    (works : ∀ size, Within size action) :
    Metered needed early excuse machine (action machine) := by
  refine .idle (keeps machine) fun cause final failed fault => .inr ?_
  exact (works _ early machine (le_refl _)).faults cause final failed fault

end Metered

namespace Instruction

variable {host : Host} {enter : Transfer → Run Outcome} {outcome : Outcome} {size needed : Nat}
  {early excuse : Failure → Prop} {machine ready final : Machine} {entry : Entry}

/-- A halt of the child that its parent raises on its own is none that accesses to memory end
with. -/
theorem isMemoryFault_of_raised {cause : Failure}
    (raises : raised outcome none machine = .error cause final) : cause.isMemoryFault = false := by
  unfold raised at raises
  cases halted : outcome.haltReason? with
  | none =>
      rw [halted] at raises
      cases raises
  | some reason =>
      rw [halted] at raises
      by_cases sticky : reason.isSticky = true
      · simp only [if_pos sticky] at raises
        cases raises
        refine isMemoryFault_halt ?_
        rintro rfl
        cases sticky
      · simp only [if_neg sticky] at raises
        cases raises

/-- Once the gas of the child is back, its parent goes on within its memory. -/
theorem contained_of_rest {rest : Run Signal} (unqueued : machine.frame.queuedHalt = none)
    (room : machine.frame.gas.toNat + outcome.gasRemaining.toNat < UInt64.size)
    (within : machine.frame.memory.size ≤ size) (works : Within size rest) :
    Contained size excuse
      { machine with frame.gas := machine.frame.gas + outcome.gasRemaining } ((do
        raiseChildHalt outcome
        returnGas outcome
        rest) machine) := by
  have total : (machine.frame.gas + outcome.gasRemaining).toNat =
      machine.frame.gas.toNat + outcome.gasRemaining.toNat :=
    addWithin?_eq_some (addWithin?_of_lt room)
  cases raises : raiseChildHalt outcome machine with
  | error cause halted =>
      have same : halted = { machine with frame.queuedHalt := none } := by
        have ended := looks_raised outcome machine.frame.queuedHalt
          { machine with frame.queuedHalt := none }
        rw [← raiseChildHalt_apply, raises] at ended
        exact ended
      rw [bind_of_error raises]
      refine ⟨?_, ?_, ?_⟩
      · rw [reached, same]
        exact .refl within
      · rw [reached, same]
        simp only [total]
        omega
      · rintro _ _ ⟨⟩ fault
        rw [raiseChildHalt_apply, unqueued] at raises
        rw [isMemoryFault_of_raised raises] at fault
        cases fault
  | ok nothing raised =>
      have same := raiseChildHalt_eq_ok raises
      have returns : returnGas outcome raised = .ok () { raised with
          frame.gas := machine.frame.gas + outcome.gasRemaining } := by
        unfold returnGas
        rw [bind_of_ok (Run.frame_apply _ _), same, addWithin?_of_lt room]
        rfl
      rw [bind_of_ok raises, bind_of_ok returns]
      have contained := works excuse { raised with
        frame.gas := machine.frame.gas + outcome.gasRemaining } (by rw [same]; exact within)
      rw [same] at contained ⊢
      exact ⟨contained.memory, contained.gas, contained.faults⟩

/-- A parent that has endowed its child stays within the memory it has paid for until the child is
taken back. -/
theorem metered_of_endows {rest : Outcome → Run Signal} (enters : Enters host enter)
    (cancun : host.schedule = .cancun) (unqueued : ready.frame.queuedHalt = none)
    (legal : entry.Legal host ready) (endows : machine.Endows needed ready entry)
    (works : ∀ outcome, Within (max machine.frame.memory.size needed) (rest outcome))
    (excused : ∀ {cause closed},
      enter entry.transfer (ready.entering entry.child) = .error cause closed → excuse cause) :
    Metered needed early excuse machine ((do
      let outcome ← runChild host enter entry.child entry.transfer
      raiseChildHalt outcome
      returnGas outcome
      rest outcome) ready) := by
  have bounded := machine.frame.gas.toNat_lt
  have price := endows.price
  have larger := Memory.wholePrice_mono (le_max_left machine.frame.memory.size needed)
  cases ran : runChild host enter entry.child entry.transfer ready with
  | error cause final =>
      obtain ⟨_, sameFrame, _, closed, ended⟩ := runChild_eq_error enters ran
      rw [bind_of_error ran]
      refine .paid ⟨?_, ?_⟩ ?_
      · rw [reached, sameFrame]
        exact endows.memory
      · rw [reached, sameFrame]
        omega
      · rintro _ _ ⟨⟩ _
        exact excused ended
  | ok outcome returned =>
      obtain ⟨_, sameFrame, remaining⟩ := runChild_eq_ok enters legal ran
      have left := remaining cancun
      have grown := endows.memory
      rw [← sameFrame] at unqueued grown price
      have room : returned.frame.gas.toNat + outcome.gasRemaining.toNat < UInt64.size := by
        rw [UInt64.size]
        omega
      have total : (returned.frame.gas + outcome.gasRemaining).toNat =
          returned.frame.gas.toNat + outcome.gasRemaining.toNat :=
        addWithin?_eq_some (addWithin?_of_lt room)
      have contained : Contained _ excuse _ _ :=
        contained_of_rest unqueued room grown.within (works outcome)
      have gas := contained.gas
      rw [bind_of_ok ran]
      refine .paid ⟨grown.trans contained.memory, ?_⟩ contained.faults
      simp only [total] at gas
      omega

/-- A call or creation is metered if it pays for its memory before its child is entered, endows the
child, and then stores within the memory it has paid for. -/
theorem metered_performing {silent : Prop} {prepare : Run (Option Entry)}
    {rest : Entry → Outcome → Run Signal}
    (enters : Enters host enter) (cancun : host.schedule = .cancun)
    (unqueued : machine.frame.queuedHalt = none)
    (pays : Prudent True silent .pays prepare)
    (prepares : Metered needed early excuse machine (prepare machine))
    (endows : ∀ {entry ready}, prepare machine = .ok (some entry) ready →
      machine.Endows needed ready entry ∧ entry.Legal host ready ∧
        ∀ outcome, Within (max machine.frame.memory.size needed) (rest entry outcome))
    (excused : ∀ {entry ready cause closed}, prepare machine = .ok (some entry) ready →
      enter entry.transfer (ready.entering entry.child) = .error cause closed → excuse cause) :
    Metered needed early excuse machine (performing host enter prepare (fun entry outcome => do
      raiseChildHalt outcome
      returnGas outcome
      rest entry outcome) machine) := by
  unfold performing
  cases prepared : prepare machine with
  | error cause final =>
      rw [prepared] at prepares
      rw [bind_of_error prepared]
      exact prepares.of_error
  | ok answer ready =>
      rw [prepared] at prepares
      rw [bind_of_ok prepared]
      cases answer with
      | none => exact prepares.of_ok
      | some entry =>
          obtain ⟨endowed, legal, works⟩ := endows prepared
          have stillUnqueued : ready.frame.queuedHalt = none :=
            (congrArg (·.2.2) (pays.stays.of_ok prepared)).trans unqueued
          exact metered_of_endows enters cancun stillUnqueued legal endowed works (excused prepared)

/-- What is known of the ranges of a call once they have been measured. -/
structure CallOperands.Measures (operands : CallOperands) (needed : Nat) : Prop where
  aligned : 32 ∣ needed
  arguments : operands.argumentsSize = 0 ∨
    operands.argumentsOffset + operands.argumentsSize ≤ needed
  returned : operands.returnSize = 0 ∨ operands.returnOffset + operands.returnSize ≤ needed

theorem measures_of_needed {operands : CallOperands} (reaches : operands.needed = .ok needed) :
    operands.Measures needed := by
  obtain ⟨arguments, first, rest⟩ := Gas.bind_eq_ok.mp reaches
  obtain ⟨returned, second, same⟩ := Gas.bind_eq_ok.mp rest
  cases same
  have coversArguments := Memory.covers_of_sizeToReach first
  have coversReturned := Memory.covers_of_sizeToReach second
  have aligned : 32 ∣ max arguments returned :=
    max_rec' (32 ∣ ·) (Memory.dvd_sizeToReach first) (Memory.dvd_sizeToReach second)
  exact ⟨aligned, by omega, by omega⟩

/-- The size that covers both ranges of a call. -/
def CallOperands.cover (operands : CallOperands) : Nat :=
  max (Memory.cover (operands.argumentsOffset, operands.argumentsSize))
    (Memory.cover (operands.returnOffset, operands.returnSize))

theorem needed_eq_cover {operands : CallOperands} (reaches : operands.needed = .ok needed) :
    needed = operands.cover := by
  obtain ⟨arguments, argumentsReach, rest⟩ := Gas.bind_eq_ok.mp reaches
  obtain ⟨returned, returnedReach, same⟩ := Gas.bind_eq_ok.mp rest
  cases same
  rw [Memory.sizeToReach_eq_ok argumentsReach, Memory.sizeToReach_eq_ok returnedReach]
  rfl

theorem cover_of_readOperands {gas argumentsOffset argumentsSize returnOffset returnSize : Word}
    {operands : CallOperands}
    (reads : CallOperands.read gas argumentsOffset argumentsSize returnOffset returnSize machine =
      .ok operands final) :
    operands.cover = max (Memory.cover (argumentsOffset.toNat, argumentsSize.toNat))
      (Memory.cover (returnOffset.toNat, returnSize.toNat)) := by
  obtain ⟨arguments, _, argumentsRead, rest⟩ := bind_eq_ok.mp reads
  obtain ⟨returned, _, returnedRead, same⟩ := bind_eq_ok.mp rest
  cases same
  rw [← (Word.range_eq_ok (Run.ofHalting_eq_ok.mp argumentsRead).1).2,
    ← (Word.range_eq_ok (Run.ofHalting_eq_ok.mp returnedRead).1).2]
  rfl

/-- Four operands in a row name both ranges of a call. -/
theorem cover_of_ranges {opcode : Opcode} {count first : Nat} {words : Vector Word count}
    {gas : Word} {operands : CallOperands} (room : first + 3 < count)
    (peeked : machine.frame.stack.peek count = .ok words)
    (ranges : ∀ operand, opcode.ranges operand = [(operand first, operand (first + 1)),
      (operand (first + 2), operand (first + 3))])
    (reads : CallOperands.read gas words[first] words[first + 1] words[first + 2] words[first + 3]
      machine = .ok operands final) : operands.cover = opcode.needed machine.frame.stack := by
  rw [cover_of_readOperands reads, ← Stack.operand_of_peek peeked,
    ← Stack.operand_of_peek peeked, ← Stack.operand_of_peek peeked,
    ← Stack.operand_of_peek peeked, Opcode.needed_of_ranges (ranges _)]

/-- A call that needs no other memory than `needed` bytes. -/
def CallRequest.Needs (request : CallRequest) (needed : Nat) : Prop :=
  request.operands.cover = needed

theorem needs_of_readCall {request : CallRequest}
    (done : readCall host machine = .ok request final) :
    request.Needs (Opcode.call.needed machine.frame.stack) := by
  obtain ⟨words, operands, peeked, read, rest⟩ := reading_eq_ok readOperands_eq_ok done
  by_cases sends : (machine.frame.invocation.isStatic && !words[2].isZero) = true
  · simp only [if_pos sends, bind_eq_ok, Run.halt_apply, reduceCtorEq, false_and,
      exists_false] at rest
  simp only [if_neg sends] at rest
  cases rest
  exact cover_of_ranges (by decide) peeked (fun _ => rfl) read

theorem needs_of_readCallcode {request : CallRequest}
    (done : readCallcode host machine = .ok request final) :
    request.Needs (Opcode.callcode.needed machine.frame.stack) := by
  obtain ⟨words, operands, peeked, read, rest⟩ := reading_eq_ok readOperands_eq_ok done
  cases rest
  exact cover_of_ranges (by decide) peeked (fun _ => rfl) read

theorem needs_of_readDelegatecall {request : CallRequest}
    (done : readDelegatecall machine = .ok request final) :
    request.Needs (Opcode.delegatecall.needed machine.frame.stack) := by
  obtain ⟨words, operands, peeked, read, rest⟩ := reading_eq_ok readOperands_eq_ok done
  cases rest
  exact cover_of_ranges (by decide) peeked (fun _ => rfl) read

theorem needs_of_readStaticcall {request : CallRequest}
    (done : readStaticcall host machine = .ok request final) :
    request.Needs (Opcode.staticcall.needed machine.frame.stack) := by
  obtain ⟨words, operands, peeked, read, rest⟩ := reading_eq_ok readOperands_eq_ok done
  cases rest
  exact cover_of_ranges (by decide) peeked (fun _ => rfl) read

theorem idles_readOperands (gas argumentsOffset argumentsSize returnOffset returnSize : Word) :
    Idles (CallOperands.read gas argumentsOffset argumentsSize returnOffset returnSize) :=
  (idles_ofHalting (Word.inBounds_range _ _)).bind fun _ =>
    (idles_ofHalting (Word.inBounds_range _ _)).bind fun _ => idles_pure _

theorem idles_readCall : Idles (readCall host) :=
  (idles_peek 7).bind fun _ => (idles_readOperands _ _ _ _ _).bind fun _ =>
    (idles_frame _).bind fun _ => .branch (.bind (idles_halt nofun) fun _ => idles_pure _)
      (idles_pure _)

theorem idles_readCallcode : Idles (readCallcode host) :=
  (idles_peek 7).bind fun _ => (idles_readOperands _ _ _ _ _).bind fun _ =>
    (idles_frame _).bind fun _ => idles_pure _

theorem idles_readDelegatecall : Idles readDelegatecall :=
  (idles_peek 6).bind fun _ => (idles_readOperands _ _ _ _ _).bind fun _ =>
    (idles_frame _).bind fun _ => idles_pure _

theorem idles_readStaticcall : Idles (readStaticcall host) :=
  (idles_peek 6).bind fun _ => (idles_readOperands _ _ _ _ _).bind fun _ =>
    (idles_frame _).bind fun _ => idles_pure _

theorem idles_checkTarget (target : CallTarget) : Idles (checkTarget host target) := by
  have present : Idles (do
      if host.policy.mustBePresent target.codeAddress then
        if !(← Run.onWorld (Access.accountExists host.refusals target.codeAddress)) then
          Run.halt .invalidAddress) :=
    .branch ((idles_reading (Access.reads_exists _)).bind fun _ =>
      .branch (idles_halt nofun) (idles_pure _)) (idles_pure _)
  exact .branch (.bind (idles_halt nofun) fun _ => present) present

theorem idles_callCreatesAccount (target : CallTarget) :
    Idles (callCreatesAccount host target) :=
  .branch (idles_reading (Access.reads_isEmpty _)) (idles_pure _)

theorem idles_requireCallGas (target : CallTarget) (baseCost : UInt64) :
    Idles (requireCallGas host target baseCost) :=
  (idles_ofHalting (.plus _ _)).bind fun _ => (idles_frame _).bind fun _ =>
    .branch (idles_halt nofun) (idles_pure _)

theorem idles_callFailsEarly (target : CallTarget) : Idles (callFailsEarly host target) := by
  have answer : ∀ poor : Bool, Idles (do
      let depth ← Run.frame (·.invocation.depth)
      return poor || host.config.maxCallDepth ≤ depth) :=
    fun _ => (idles_frame _).bind fun _ => idles_pure _
  exact (idles_frame _).bind fun _ => .branch
    ((idles_reading (Access.reads_balance _)).bind fun _ => answer _) (answer false)

/-- Quoting a call replaces the return data at most. -/
theorem metered_quoteCall {request : CallRequest} (needs : request.Needs needed) :
    Metered needed early excuse machine (quoteCall host request machine) := by
  have clears : ∀ quote : Nat × UInt64, Metered needed early excuse machine ((do
      Run.modifyFrame fun frame => { frame with returnData := ByteArray.empty }
      return quote) machine) :=
    fun quote => .of_keeps (Keeps.bind (fun _ => rfl) fun _ => fun _ => rfl) fun _ =>
      (within_setReturnData _).bind fun _ => within_pure _
  unfold quoteCall CallOperands.reach
  simp only [bind_assoc, pure_bind]
  refine .look (idles_checkTarget _) fun _ _ =>
    .look (idles_callCreatesAccount _) fun creates _ => ?_
  rw [← needs]
  refine .reach (le_max_left _ _) fun arguments _ => .reach (le_max_right _ _) fun returned _ => ?_
  rw [needs]
  exact .measureMemory (.measure GasSchedule.inBounds_call fun baseCost _ =>
    .look (idles_requireCallGas _ _) fun _ _ => clears _)

theorem keepsMeans_updateStack (change : Stack → Except Halt Stack) :
    Keeps Machine.means (Run.updateStack change) := by
  intro machine
  cases ended : Run.updateStack change machine with
  | ok value final =>
      obtain ⟨stack, _, rfl⟩ := Run.updateStack_eq_ok.mp ended
      rfl
  | error cause final =>
      obtain ⟨_, _, _, rfl⟩ := Run.updateStack_eq_error.mp ended
      rfl

/-- Not all gas goes to a child, so the stipend always fits on top. -/
theorem within_chargeChildGas (cancun : host.schedule = .cancun) (target : CallTarget)
    (requested : Word) : Within size (chargeChildGas host target requested) := by
  refine (within_frame _).bind fun gas => (within_charge _).bind fun _ => .branch ?_ (within_pure _)
  have share := Gas.forChild_le_share gas requested.toLimbSaturating
  have bounded := gas.toNat_lt
  have stipend : host.schedule.callStipend.toNat = 2300 := by
    rw [cancun]
    rfl
  rw [addWithin?_of_lt (by rw [UInt64.size]; omega)]
  exact within_pure _

theorem within_calleeFrame {target : CallTarget} {operands : CallOperands} {gas : UInt64}
    (sound : Memory.Sound size) (covers : operands.argumentsSize = 0 ∨
      operands.argumentsOffset + operands.argumentsSize ≤ size) :
    Within size (calleeFrame host target operands gas) :=
  (within_load sound covers).bind fun _ => (within_frame _).bind fun _ =>
    (within_onWorld _).bind fun _ => (within_makeProgram _).bind fun _ =>
    within_takeBuffers.bind fun _ => within_pure _

theorem metered_calleeEntry {request : CallRequest} {baseCost : UInt64}
    (cancun : host.schedule = .cancun) (sound : Memory.Sound machine.frame.memory.size)
    (measures : request.operands.Measures needed)
    (contains : GasSchedule.Contains baseCost needed machine.frame.memory.size 0) :
    Metered needed early excuse machine (calleeEntry host request needed baseCost machine) := by
  unfold calleeEntry payCall
  simp only [bind_assoc]
  refine .look (idles_isColdAddress _) fun cold _ => .pay sound measures.aligned (.plus _ _) ?_
    fun sound => ?_
  · intro price priced
    obtain ⟨growth, grows, covered⟩ := contains
    refine ⟨growth, grows, ?_⟩
    rw [Gas.plus_eq_ok priced]
    omega
  · have enough := le_max_right machine.frame.memory.size needed
    exact (within_warmAddress _).bind fun _ => (within_drop _).bind fun _ =>
      (within_grow sound enough).bind fun _ => (within_chargeChildGas cancun _ _).bind fun _ =>
      (within_frame _).bind fun _ =>
      (within_calleeFrame sound (measures.arguments.imp_right (·.trans enough))).bind fun _ =>
      within_pure _

/-- What a quote says about the memory of a call. -/
theorem quoted_of_quoteCall {request : CallRequest} {reach : Nat} {baseCost : UInt64}
    (needs : request.Needs needed)
    (quotes : quoteCall host request machine = .ok (reach, baseCost) final) :
    reach = needed ∧ request.operands.Measures needed ∧
      GasSchedule.Contains baseCost needed machine.frame.memory.size
        (if request.target.movesValue then host.schedule.callValue.toNat else 0) := by
  obtain ⟨reaches, based, _⟩ := baseCost_of_quoteCall quotes
  obtain ⟨total, again, priced⟩ := Gas.bind_eq_ok.mp based
  have same := (needed_eq_cover reaches).trans needs
  rw [(needed_eq_cover again).trans needs] at priced
  rw [same] at reaches
  exact ⟨same, measures_of_needed reaches, GasSchedule.contains_call priced⟩

theorem metered_prepareCall {request : CallRequest} (cancun : host.schedule = .cancun)
    (sound : Memory.Sound machine.frame.memory.size) (needs : request.Needs needed) :
    Metered needed early excuse machine (prepareCall host request machine) := by
  refine .prepare (metered_quoteCall needs) (fun quotes => ?_) fun quote quoted quotes => ?_
  · rw [(baseCost_of_quoteCall quotes).2.2]
    rfl
  obtain ⟨same, measures, contains⟩ := quoted_of_quoteCall needs quotes
  have memory : quoted.frame.memory = machine.frame.memory := by
    rw [(baseCost_of_quoteCall quotes).2.2]
  refine .look (idles_callFailsEarly _) fun early _ => ?_
  split
  · exact .of_keeps ((keepsMeans_updateStack _).bind fun _ => (keepsMeans_updateStack _).bind
      fun _ => (idles_pure _).keeps) fun _ =>
      (within_drop _).bind fun _ => (within_push _).bind fun _ => within_pure _
  · have price : GasSchedule.Contains quote.2 needed quoted.frame.memory.size 0 := by
      obtain ⟨growth, grows, covered⟩ := contains
      rw [memory]
      exact ⟨growth, grows, by omega⟩
    rw [← memory] at sound
    rw [same]
    exact .answer (metered_calleeEntry cancun sound measures price)

/-- A call endows its callee: the price of the value covers the stipend. -/
theorem endows_of_prepareCall {request : CallRequest} (cancun : host.schedule = .cancun)
    (sound : Memory.Sound machine.frame.memory.size) (needs : request.Needs needed)
    (done : prepareCall host request machine = .ok (some entry) ready) :
    machine.Endows needed ready entry ∧ request.operands.Measures needed ∧
      Memory.Sound (max machine.frame.memory.size needed) := by
  have metered : Metered needed (fun _ => True) (fun _ => True) machine
      (prepareCall host request machine) := metered_prepareCall cancun sound needs
  rw [done] at metered
  obtain ⟨reach, baseCost, quoted, early, asked, quotes, asks,
    ⟨_, impossible, _⟩ | ⟨_, _, same, makes⟩⟩ := prepareCall_cases done
  · cases impossible
  cases same
  obtain ⟨_, measures, growth, grows, covered⟩ := quoted_of_quoteCall needs quotes
  obtain ⟨_, _, _, _, _, _, shared⟩ := calleeEntry_eq_ok makes
  have whole := Memory.wholePrice_of_expansionPrice grows
  have unspent : asked.frame.gas = machine.frame.gas := by
    rw [looks_callFailsEarly _ asks, (baseCost_of_quoteCall quotes).2.2]
  refine ⟨⟨metered.memory, ?_⟩, measures, sound.expanded measures.aligned grows⟩
  have value : GasSchedule.cancun.callValue.toNat = 9000 := rfl
  have stipend : GasSchedule.cancun.callStipend.toNat = 2300 := rfl
  rw [cancun] at shared covered
  rw [unspent] at shared
  unfold CallTarget.stipend at shared
  split at covered <;> rename_i moves <;> simp only [moves, if_true, Bool.false_eq_true, if_false]
    at shared <;> omega

/-- A call is metered, whatever it reads its request from. -/
theorem metered_performCall {read : Run CallRequest} (enters : Enters host enter)
    (cancun : host.schedule = .cancun) (sound : Memory.Sound machine.frame.memory.size)
    (unqueued : machine.frame.queuedHalt = none) (idles : Idles read)
    (suits : ∀ {request final}, read machine = .ok request final →
      request.Suits machine.frame.invocation)
    (needs : ∀ {request final}, read machine = .ok request final → request.Needs needed)
    (excused : ∀ {entry ready cause closed},
      (do prepareCall host (← read)) machine = .ok (some entry) ready →
      enter entry.transfer (ready.entering entry.child) = .error cause closed → excuse cause) :
    Metered needed early excuse machine ((do performCall host enter (← read)) machine) := by
  refine .look idles fun request reads => ?_
  have pays : Prudent True True .pays (prepareCall host request) := prudent_prepareCall request
  refine metered_performing enters cancun unqueued pays
    (metered_prepareCall cancun sound (needs reads)) ?_ ?_
  · intro entry ready prepares
    obtain ⟨endows, measures, larger⟩ := endows_of_prepareCall cancun sound (needs reads) prepares
    refine ⟨endows, (prepareCall_eq_some (suits reads) prepares).legal, fun outcome => ?_⟩
    exact (within_setReturnData _).bind fun _ => (within_storePadded _ larger
      (measures.returned.imp_right (·.trans (le_max_right _ _)))).bind fun _ =>
      (within_push _).bind fun _ => within_pure _
  · intro entry ready cause closed prepares ended
    refine excused ?_ ended
    rw [bind_of_ok reads]
    exact prepares

theorem idles_readCreate : Idles readCreate := idles_peekThree.bind fun _ => idles_pure _

theorem idles_readCreate2 : Idles readCreate2 := idles_peekFour.bind fun _ => idles_pure _

theorem needs_of_readCreate {request : CreationRequest}
    (done : readCreate machine = .ok request final) :
    Opcode.create.needed machine.frame.stack =
      Memory.cover (request.codeOffset.toNat, request.codeSize.toNat) := by
  obtain ⟨words, _, peeked, same⟩ := bind_eq_ok.mp done
  cases same
  obtain ⟨_, second, third⟩ := Run.operands_of_peekThree peeked
  rw [Opcode.needed_of_range rfl, second, third]

theorem needs_of_readCreate2 {request : CreationRequest}
    (done : readCreate2 machine = .ok request final) :
    Opcode.create2.needed machine.frame.stack =
      Memory.cover (request.codeOffset.toNat, request.codeSize.toNat) := by
  obtain ⟨words, _, peeked, same⟩ := bind_eq_ok.mp done
  cases same
  obtain ⟨_, second, third, _⟩ := Run.operands_of_peekFour peeked
  rw [Opcode.needed_of_range rfl, second, third]

/-- A creation pays for the memory of its initcode before anything else happens. -/
theorem metered_payCreation {Alpha : Type} {request : CreationRequest} {rest : Nat × Nat → Run Alpha}
    (sound : Memory.Sound machine.frame.memory.size)
    (needs : needed = Memory.cover (request.codeOffset.toNat, request.codeSize.toNat))
    (works : ∀ offset length, Memory.Sound (max machine.frame.memory.size needed) →
      length = 0 ∨ offset + length ≤ max machine.frame.memory.size needed →
      Within (max machine.frame.memory.size needed) (rest (offset, length))) :
    Metered needed early excuse machine ((payCreation host request >>= rest) machine) := by
  unfold payCreation
  simp only [bind_assoc]
  refine .look idles_forbidStatic fun _ _ => .measure (Word.inBounds_range _ _)
    fun range ranged => ?_
  split
  · exact .halts nofun
  simp only [bind_assoc]
  refine .reach ((Word.range_eq_ok ranged).2.trans needs.symm).le fun total reaches =>
    .measureMemory ?_
  have measured := Memory.measures_of_range ranged reaches
  rw [needs, ← measured.covered] at works ⊢
  refine .pay sound measured.aligned GasSchedule.inBounds_create
    (fun _ => GasSchedule.contains_create) fun sound => ?_
  exact (within_drop _).bind fun _ => (within_grow sound (le_max_right _ _)).bind fun _ =>
    (within_setReturnData _).bind fun _ =>
    works _ _ sound (measured.covers.imp_right (·.trans (le_max_right _ _)))

/-- What an initcode is loaded from has been paid for, and its gas is what its parent can share. -/
theorem within_initcodeEntry {request : CreationRequest} {deployer : Address} {offset length : Nat}
    (sound : Memory.Sound size) (covers : length = 0 ∨ offset + length ≤ size) :
    Within size (initcodeEntry host request deployer offset length) :=
  (within_load sound covers).bind fun _ => (within_onWorld _).bind fun _ =>
    (within_warmAddress _).bind fun _ => (within_frame _).bind fun _ => (within_charge _).bind
    fun _ => ((within_makeProgram _).bind fun _ => within_takeBuffers.bind fun _ =>
      (within_frame _).bind fun _ => within_pure _).bind fun _ => within_pure _

theorem metered_prepareCreation {request : CreationRequest}
    (sound : Memory.Sound machine.frame.memory.size)
    (needs : needed = Memory.cover (request.codeOffset.toNat, request.codeSize.toNat)) :
    Metered needed early excuse machine (prepareCreation host request machine) := by
  refine metered_payCreation sound needs fun offset length sound covers =>
    (within_frame _).bind fun deployer => Within.bind ?_ fun early => .branch ?_ ?_
  · exact (within_onWorld _).bind fun _ => (within_onWorld _).bind fun _ =>
      (within_frame _).bind fun _ => within_pure _
  · exact (within_push _).bind fun _ => within_pure _
  · exact (within_initcodeEntry sound covers).bind fun _ => within_pure _

/-- A creation has paid for its memory before it shares its gas with the initcode. -/
theorem endows_of_prepareCreation {request : CreationRequest} (cancun : host.schedule = .cancun)
    (sound : Memory.Sound machine.frame.memory.size)
    (needs : needed = Memory.cover (request.codeOffset.toNat, request.codeSize.toNat))
    (done : prepareCreation host request machine = .ok (some entry) ready) :
    machine.Endows needed ready entry := by
  have metered : Metered needed (fun _ => True) (fun _ => True) machine
      (prepareCreation host request machine) := metered_prepareCreation sound needs
  rw [done] at metered
  obtain ⟨range, paid, pays, rest⟩ := bind_eq_ok.mp done
  have paying : Metered needed (fun _ => True) (fun _ => True) machine
      ((payCreation host request >>= fun range => pure range) machine) :=
    metered_payCreation sound needs fun _ _ _ _ => within_pure _
  rw [bind_pure, pays] at paying
  have spending : Orderly host (fun _ => True) True True _ _ (payCreation host request) :=
    orderly_payCreation request
  have spent := spending.spends trivial pays
  have base : GasSchedule.cancun.createBase.toNat = 32000 := rfl
  rw [cancun] at spent
  obtain ⟨deployer, _, asked, rest⟩ := bind_eq_ok.mp rest
  cases asked
  obtain ⟨early, looked, asks, rest⟩ := bind_eq_ok.mp rest
  rw [(creationFailsEarly_eq_ok asks).1] at rest
  cases early with
  | true =>
      obtain ⟨_, _, _, returned⟩ := bind_eq_ok.mp rest
      cases returned
  | false =>
      obtain ⟨made, _, makes, returned⟩ := bind_eq_ok.mp rest
      cases returned
      obtain ⟨_, _, _, _, _, shared⟩ := initcodeEntry_eq_ok makes
      refine ⟨metered.memory, ?_⟩
      cases paying with
      | idle same _ =>
          have gas : paid.frame.gas = machine.frame.gas := congrArg Prod.snd same
          rw [gas] at spent
          omega
      | paid paying _ =>
          have price := paying.price
          rw [reached] at price
          omega

theorem metered_performCreation {read : Run CreationRequest} (enters : Enters host enter)
    (cancun : host.schedule = .cancun) (sound : Memory.Sound machine.frame.memory.size)
    (unqueued : machine.frame.queuedHalt = none) (idles : Idles read)
    (needs : ∀ {request final}, read machine = .ok request final →
      needed = Memory.cover (request.codeOffset.toNat, request.codeSize.toNat))
    (excused : ∀ {entry ready cause closed},
      (do prepareCreation host (← read)) machine = .ok (some entry) ready →
      enter entry.transfer (ready.entering entry.child) = .error cause closed → excuse cause) :
    Metered needed early excuse machine ((do performCreation host enter (← read)) machine) := by
  refine .look idles fun request reads => ?_
  have pays : Prudent True False .pays (prepareCreation host request) :=
    prudent_prepareCreation request
  refine metered_performing enters cancun unqueued pays
    (metered_prepareCreation sound (needs reads)) ?_ ?_
  · intro entry ready prepares
    refine ⟨endows_of_prepareCreation cancun sound (needs reads) prepares,
      (prepareCreation_eq_some prepares).legal, fun outcome => .branch ?_ ?_⟩
    · exact (within_push _).bind fun _ => within_pure _
    · exact (within_setReturnData _).bind fun _ => (within_push _).bind fun _ => within_pure _
  · intro entry ready cause closed prepares ended
    refine excused ?_ ended
    rw [bind_of_ok reads]
    exact prepares

/-- The price of a child is paid before it is entered, whatever instruction starts it. -/
theorem endows_of_preparation {opcode : Opcode} (cancun : host.schedule = .cancun)
    (sound : Memory.Sound machine.frame.memory.size)
    (prepares : preparation host opcode machine = .ok (some entry) ready) :
    machine.Endows (opcode.needed machine.frame.stack) ready entry := by
  have calls : ∀ {read : Run CallRequest} {needed}, Idles read →
      (∀ {request final}, read machine = .ok request final → request.Needs needed) →
      (do prepareCall host (← read)) machine = .ok (some entry) ready →
      machine.Endows needed ready entry := by
    intro read needed idles needs done
    obtain ⟨request, middle, reads, prepared⟩ := bind_eq_ok.mp done
    rw [idles.looks reads] at prepared
    exact (endows_of_prepareCall cancun sound (needs reads) prepared).1
  have creates : ∀ {read : Run CreationRequest} {needed}, Idles read →
      (∀ {request final}, read machine = .ok request final →
        needed = Memory.cover (request.codeOffset.toNat, request.codeSize.toNat)) →
      (do prepareCreation host (← read)) machine = .ok (some entry) ready →
      machine.Endows needed ready entry := by
    intro read needed idles needs done
    obtain ⟨request, middle, reads, prepared⟩ := bind_eq_ok.mp done
    rw [idles.looks reads] at prepared
    exact endows_of_prepareCreation cancun sound (needs reads) prepared
  cases opcode
  case call => exact calls idles_readCall needs_of_readCall prepares
  case callcode => exact calls idles_readCallcode needs_of_readCallcode prepares
  case delegatecall => exact calls idles_readDelegatecall needs_of_readDelegatecall prepares
  case staticcall => exact calls idles_readStaticcall needs_of_readStaticcall prepares
  case create => exact creates idles_readCreate needs_of_readCreate prepares
  case create2 => exact creates idles_readCreate2 needs_of_readCreate2 prepares
  all_goals cases prepares

end Instruction

end CancunMachine
