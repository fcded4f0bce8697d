import Mathlib.Tactic
import CancunMachine.Proofs.Evolution.Run
import CancunMachine.Proofs.Settlement

/-!
# Every message terminates

Neither gas nor position alone falls from one instruction to the next: a call that fails early is
free, and a callee gets a stipend on top of what its caller pays. `Frame.weight`, twice the gas plus
the number of operands, falls all the same, and what a child starts with is taken out of it. So a
step budget above the weight of a frame is never spent, and the weight also bounds the number of
instructions that the frame and all frames below it execute.
-/

namespace CancunMachine

open Ending

namespace Interpreter

variable {host : Host} {transfer : Transfer}

/-- A frame depends on what runs its instructions only at the machine where they begin. -/
theorem runFrame_congr (plain : host.Plain) {body other : Run Outcome} {machine : Machine}
    (same : ∀ {started}, startFrame host transfer (machine.opened host) = .ok none started →
      body started = other started) :
    runFrame host body transfer machine = runFrame host other transfer machine := by
  have concludes : concluding host body transfer (machine.opened host) =
      concluding host other transfer (machine.opened host) := by
    cases starts : startFrame host transfer (machine.opened host) with
    | error cause started => rw [concluding_of_error starts, concluding_of_error starts]
    | ok shown started =>
        rw [concluding_of_ok starts, concluding_of_ok starts]
        cases shown with
        | some outcome => rfl
        | none => exact same starts
  rw [runFrame_of_plain plain, runFrame_of_plain plain]
  simp only [bind, EStateM.bind, concludes]

/-- A child begins with less than the gas of its parent and without operands. -/
theorem weight_of_child {machine ready started : Machine} {entry : Entry}
    (prepared : Instruction.Prepared host machine 3 entry ready)
    (starts : startFrame host entry.transfer ((ready.entering entry.child).opened host) =
      .ok none started) :
    started.frame.weight = 2 * entry.child.invocation.gasLimit.toNat := by
  have fresh := prepared.legal.fresh
  have granted : entry.child.gas = entry.child.invocation.gasLimit := by
    rw [fresh.start]
    rfl
  rw [frame_of_startFrame starts]
  change 2 * entry.child.gas.toNat + entry.child.stack.size = _
  rw [granted, fresh.stack, Nat.add_zero]

/-- The instructions of a frame, run with `otherwise` in place of a spent budget. -/
def runOr (host : Host) (otherwise : Run Outcome) : Nat → Run Outcome
  | 0 => otherwise
  | budget + 1 => do
      let opcode ← fetch
      match ← Run.attempt
        (Instruction.execute host (runFrame host (runOr host otherwise budget)) opcode) with
      | .ok .proceed => runOr host otherwise budget
      | .ok .stop => stopFrame host
      | .error cause => failFrame cause

/-- The interpreter's own runs are those that fail once their budget is spent. -/
theorem runOr_throw (host : Host) (budget : Nat) :
    runOr host (throw (.internal .stepBudgetSpent)) budget = run host budget := by
  induction budget with
  | zero => rfl
  | succ budget inductionHypothesis =>
      rw [runOr, inductionHypothesis]
      rfl

theorem runOr_succ (host : Host) (otherwise : Run Outcome) (budget : Nat) (machine : Machine) :
    runOr host otherwise (budget + 1) machine =
      match Instruction.execute host (runFrame host (runOr host otherwise budget))
        machine.nextOpcode machine.fetched with
      | .ok .proceed next => runOr host otherwise budget next
      | .ok .stop next => stopFrame host next
      | .error cause next => failFrame cause next := by
  rw [runOr, bind_of_ok (fetch_apply machine)]
  cases ended : Instruction.execute host (runFrame host (runOr host otherwise budget))
      machine.nextOpcode machine.fetched with
  | error cause next => rw [bind_of_ok (Run.attempt_of_error ended)]
  | ok signal next =>
      rw [bind_of_ok (Run.attempt_of_ok ended)]
      cases signal <;> rfl

/-- A budget above the weight of the frame is never spent: whatever would happen then, and however
much larger the budget is, the run is the same. -/
theorem runOr_eq_run (plain : host.Plain) (cancun : host.schedule = .cancun)
    {otherwise : Run Outcome} {budget otherBudget : Nat} {machine : Machine}
    (enough : machine.frame.weight < budget) (otherEnough : machine.frame.weight < otherBudget) :
    runOr host otherwise budget machine = run host otherBudget machine := by
  induction budget generalizing machine otherBudget with
  | zero => omega
  | succ budget inductionHypothesis =>
      obtain ⟨otherBudget, rfl⟩ : ∃ smaller, otherBudget = smaller + 1 :=
        ⟨otherBudget - 1, by omega⟩
      have enters := enters_runFrame plain (concludes_run plain otherBudget)
      -- The weight of a child is below that of its parent, so the children agree.
      have children : Instruction.execute host (runFrame host (runOr host otherwise budget))
            machine.nextOpcode machine.fetched =
          Instruction.execute host (runFrame host (run host otherBudget))
            machine.nextOpcode machine.fetched := by
        apply Instruction.execute_congr
        intro entry ready prepares
        have prepared := (Instruction.preparation_eq_some prepares).2
        apply runFrame_congr plain
        intro started starts
        have weight := weight_of_child prepared starts
        have paid := prepared.gas cancun
        rw [Machine.gas_fetched] at paid
        unfold Frame.weight at enough otherEnough
        apply inductionHypothesis <;> omega
      rw [runOr_succ, children, run_succ]
      cases ended : Instruction.execute host (runFrame host (run host otherBudget))
          machine.nextOpcode machine.fetched with
      | error cause next => rfl
      | ok signal next =>
          cases signal with
          | stop => rfl
          | proceed =>
              have advanced := (Instruction.execute_behaves plain enters _).advances cancun ended
              rw [Machine.weight_fetched] at advanced
              apply inductionHypothesis <;> omega

/-- The machine at the first instruction of the child that an instruction starts, if it starts one
that has instructions. -/
def childStart? (host : Host) (opcode : Opcode) (machine : Machine) : Option Machine :=
  match Instruction.preparation host opcode machine with
  | .ok (some entry) ready =>
      match startFrame host entry.transfer ((ready.entering entry.child).opened host) with
      | .ok none started => some started
      | _ => none
  | _ => none

/-- A count of the rest of the frame, if the frame goes on. -/
def countRest (count : Machine → Nat) : EStateM.Result Failure Machine Signal → Nat
  | .ok .proceed next => count next
  | _ => 0

/-- The number of instructions that the frame and all frames below it execute. -/
def instructionCount (host : Host) : Nat → Machine → Nat
  | 0, _ => 0
  | budget + 1, machine =>
      1 + (childStart? host machine.nextOpcode machine.fetched).elim 0
          (instructionCount host budget) +
        countRest (instructionCount host budget)
          (Instruction.execute host (runFrame host (run host budget)) machine.nextOpcode
            machine.fetched)

/-- The gas that is left of a frame after its run. -/
def gasLeft : EStateM.Result Failure Machine Outcome → Nat
  | .ok outcome _ => outcome.gasRemaining.toNat
  | .error _ _ => 0

theorem childStart?_eq_some {opcode : Opcode} {machine started : Machine}
    (shown : childStart? host opcode machine = some started) :
    ∃ entry ready, Instruction.preparation host opcode machine = .ok (some entry) ready ∧
      startFrame host entry.transfer ((ready.entering entry.child).opened host) =
        .ok none started := by
  unfold childStart? at shown
  split at shown
  · rename_i entry ready prepares
    split at shown
    · rename_i first starts
      cases shown
      exact ⟨entry, ready, prepares, starts⟩
    · cases shown
  · cases shown

/-- The outcome of a frame with instructions is the outcome of its instructions. -/
theorem body_of_runFrame (plain : host.Plain) {body : Run Outcome} {machine started closed : Machine}
    {outcome : Outcome} (starts : startFrame host transfer (machine.opened host) = .ok none started)
    (done : runFrame host body transfer machine = .ok outcome closed) :
    ∃ ended, body started = .ok outcome ended := by
  rw [runFrame_of_plain plain] at done
  obtain ⟨shown, ended, concluded, rest⟩ := bind_eq_ok.mp done
  obtain ⟨_, left, _, returned⟩ := bind_eq_ok.mp rest
  cases returned
  rw [concluding_of_ok starts] at concluded
  exact ⟨ended, concluded⟩

theorem gasLeft_of_concludes {body : Run Outcome} (concludes : Concludes host body)
    (cancun : host.schedule = .cancun) (machine : Machine) :
    gasLeft (body machine) ≤ machine.frame.gas.toNat := by
  cases ended : body machine with
  | error cause final => exact Nat.zero_le _
  | ok outcome final => exact concludes.spends cancun ended

section counting

variable {budget : Nat} {opcode : Opcode} {machine next : Machine}

/-- The number of instructions below an instruction. -/
def countWithin (host : Host) (budget : Nat) (opcode : Opcode) (machine : Machine) : Nat :=
  (childStart? host opcode machine).elim 0 (instructionCount host budget)

/-- A bound on what the frames below can do with a budget. -/
def Counted (host : Host) (budget : Nat) : Prop :=
  ∀ machine, instructionCount host budget machine + 2 * gasLeft (run host budget machine) ≤
    machine.frame.weight + 1

/-- What a child costs its parent pays for the instructions of the child. -/
theorem countWithin_add_gas_le (plain : host.Plain) (cancun : host.schedule = .cancun)
    (counted : Counted host budget) {started : Machine}
    (shown : childStart? host opcode machine = some started)
    (collects : ∀ {entry ready},
      Instruction.preparation host opcode machine = .ok (some entry) ready →
        Instruction.Collects (runFrame host (run host budget)) entry ready next) :
    countWithin host budget opcode machine + 2 * next.frame.gas.toNat + 199 ≤
      2 * machine.frame.gas.toNat := by
  obtain ⟨entry, ready, prepares, starts⟩ := childStart?_eq_some shown
  have prepared := (Instruction.preparation_eq_some prepares).2
  have paid := prepared.gas cancun
  have weight := weight_of_child prepared starts
  obtain ⟨outcome, closed, entered, gas⟩ := collects prepares
  obtain ⟨ended, ran⟩ := body_of_runFrame plain starts entered
  have bound := counted started
  rw [ran, gasLeft] at bound
  rw [countWithin, shown, Option.elim_some]
  omega

theorem countWithin_le (cancun : host.schedule = .cancun) (counted : Counted host budget) :
    countWithin host budget opcode machine ≤ 2 * machine.frame.gas.toNat := by
  cases shown : childStart? host opcode machine with
  | none =>
      rw [countWithin, shown]
      exact Nat.zero_le _
  | some started =>
      obtain ⟨entry, ready, prepares, starts⟩ := childStart?_eq_some shown
      have prepared := (Instruction.preparation_eq_some prepares).2
      have paid := prepared.gas cancun
      have weight := weight_of_child prepared starts
      have bound := counted started
      rw [countWithin, shown, Option.elim_some]
      omega

/-- What ends a frame leaves it no more than the instruction has left. -/
theorem countWithin_add_left_le (plain : host.Plain) (cancun : host.schedule = .cancun)
    (counted : Counted host budget)
    (spent : next.frame.gas.toNat ≤ machine.frame.gas.toNat)
    (collects : ∀ {entry ready},
      Instruction.preparation host opcode machine = .ok (some entry) ready →
        Instruction.Collects (runFrame host (run host budget)) entry ready next) :
    countWithin host budget opcode machine + 2 * next.frame.gas.toNat ≤
      2 * machine.frame.gas.toNat := by
  cases shown : childStart? host opcode machine with
  | none =>
      rw [countWithin, shown, Option.elim_none]
      omega
  | some started =>
      have paid := countWithin_add_gas_le plain cancun counted shown collects
      omega

/-- An instruction after which the frame goes on pays for itself and for everything below it. -/
theorem countWithin_add_weight_lt (plain : host.Plain) (cancun : host.schedule = .cancun)
    (counted : Counted host budget)
    (done : Instruction.execute host (runFrame host (run host budget)) opcode machine =
      .ok .proceed next) :
    countWithin host budget opcode machine + next.frame.weight < machine.frame.weight := by
  have enters := enters_runFrame plain (concludes_run plain budget)
  have advanced := (Instruction.execute_behaves plain enters opcode).advances cancun done
  cases shown : childStart? host opcode machine with
  | none =>
      rw [countWithin, shown, Option.elim_none]
      omega
  | some started =>
      obtain ⟨entry, ready, prepares, _⟩ := childStart?_eq_some shown
      have goesOn := Instruction.execute_goesOn enters prepares
      have stack := (goesOn.done done).2
      have dropped := (Instruction.preparation_eq_some prepares).2.stack
      have paid := countWithin_add_gas_le plain cancun counted shown
        fun prepares => ((Instruction.execute_goesOn enters prepares).done done).1
      unfold Frame.weight
      omega

end counting

/-- Every instruction takes something from the weight of the frame, and what is left of the gas has
not been used by any instruction. -/
theorem counted_of_plain (plain : host.Plain) (cancun : host.schedule = .cancun) (budget : Nat) :
    Counted host budget := by
  induction budget with
  | zero =>
      intro machine
      simp only [instructionCount, run, throw_apply, gasLeft]
      omega
  | succ budget counted =>
      intro machine
      have enters := enters_runFrame plain (concludes_run plain budget)
      have behaves := Instruction.execute_behaves plain enters machine.nextOpcode
      have gasBound : 2 * machine.frame.gas.toNat ≤ machine.frame.weight := Nat.le_add_right _ _
      have gasSame := machine.gas_fetched
      rw [run_succ, instructionCount, ← countWithin]
      cases ended : Instruction.execute host (runFrame host (run host budget)) machine.nextOpcode
          machine.fetched with
      | error cause next =>
          simp only [countRest]
          cases fatal : cause.endsMessage with
          | true =>
              have within : countWithin host budget machine.nextOpcode machine.fetched ≤ _ :=
                countWithin_le cancun counted
              rw [failFrame_of_fatal fatal, gasLeft]
              rw [gasSame] at within
              omega
          | false =>
              have left := gasLeft_of_concludes (concludes_failFrame cause) cancun next
              have paid := countWithin_add_left_le plain cancun counted
                (behaves.failedSpends cancun ended)
                fun prepares => (Instruction.execute_goesOn enters prepares).failed ended fatal
              rw [gasSame] at paid
              omega
      | ok signal next =>
          cases signal with
          | stop =>
              simp only [countRest]
              have left : gasLeft (stopFrame host next) ≤ _ :=
                gasLeft_of_concludes concludes_stopFrame cancun next
              have paid := countWithin_add_left_le plain cancun counted
                (behaves.spends cancun ended)
                fun prepares => ((Instruction.execute_goesOn enters prepares).done ended).1
              rw [gasSame] at paid
              omega
          | proceed =>
              simp only [countRest]
              have paid := countWithin_add_weight_lt plain cancun counted ended
              have rest := counted next
              rw [machine.weight_fetched] at paid
              omega

/-- The budget that a frame gets is above its weight. -/
theorem weight_lt_stepBudget (frame : Frame) : frame.weight < stepBudget frame.gas := by
  have bounded : frame.stack.size ≤ 1024 := frame.stack.bounded
  unfold Frame.weight stepBudget
  omega

theorem runOr_eq_runInstructions (plain : host.Plain) (cancun : host.schedule = .cancun)
    {otherwise : Run Outcome} {budget : Nat} {machine : Machine}
    (enough : machine.frame.weight < budget) :
    runOr host otherwise budget machine = runInstructions host machine := by
  rw [runInstructions_apply]
  exact runOr_eq_run plain cancun enough (weight_lt_stepBudget machine.frame)

theorem runFrame_runOr_eq_runOutermost (plain : host.Plain) (cancun : host.schedule = .cancun)
    {otherwise : Run Outcome} {budget : Nat} {machine : Machine}
    (enough : machine.frame.weight < budget) :
    runFrame host (runOr host otherwise budget) transfer machine =
      runOutermost host transfer machine := by
  apply runFrame_congr plain
  intro started starts
  apply runOr_eq_runInstructions plain cancun
  rw [frame_of_startFrame starts]
  exact enough

end Interpreter

/-- Every message terminates. A budget above the weight of a frame is never spent, so nothing
depends on what would happen then; the instructions of a frame and of all frames below it are at
most one more than its weight, which is twice the gas limit for a message; a call that fails early
is free but makes the weight smaller; and a child gets less gas than its parent had. -/
theorem every_message_terminates (host : Host) (plain : host.Plain)
    (cancun : host.schedule = .cancun) :
    (∀ otherwise budget transfer machine, machine.frame.weight < budget →
      Interpreter.runOr host otherwise budget machine =
        Interpreter.runInstructions host machine ∧
      Interpreter.runFrame host (Interpreter.runOr host otherwise budget) transfer machine =
        Interpreter.runOutermost host transfer machine) ∧
    (∀ budget machine, Interpreter.instructionCount host budget machine ≤
      machine.frame.weight + 1) ∧
    (∀ world cache machine, Transaction.boot host world cache = .ok machine →
      machine.frame.weight = 2 * host.message.gasLimit.toNat) ∧
    (∀ opcode machine final, opcode ∈ [Opcode.call, .callcode, .delegatecall, .staticcall] →
      Instruction.preparation host opcode machine = .ok none final →
      final.frame.gas = machine.frame.gas ∧ final.frame.weight < machine.frame.weight) ∧
    (∀ opcode machine ready entry,
      Instruction.preparation host opcode machine = .ok (some entry) ready →
      entry.child.invocation.gasLimit.toNat < machine.frame.gas.toNat) := by
  refine ⟨?_, ?_, ?_, ?_, ?_⟩
  · intro otherwise budget transfer machine enough
    exact ⟨Interpreter.runOr_eq_runInstructions plain cancun enough,
      Interpreter.runFrame_runOr_eq_runOutermost plain cancun enough⟩
  · intro budget machine
    have counted := Interpreter.counted_of_plain plain cancun budget machine
    omega
  · intro world cache machine booted
    have fresh := Transaction.boot_eq_ok booted
    rw [fresh.fresh, ← fresh.gasLimit]
    rfl
  · intro opcode machine final calls early
    obtain ⟨gas, stack⟩ := Instruction.preparation_eq_none calls early
    refine ⟨gas, ?_⟩
    unfold Frame.weight
    rw [gas]
    omega
  · intro opcode machine ready entry prepares
    have paid := (Instruction.preparation_eq_some prepares).2.gas cancun
    omega

/-- A frame whose code jumps back to its start for ever. -/
def loopingMachine : Machine where
  frame := .start
    { kind := .call
      sender := .zero
      recipient := .zero
      codeAddress := .zero
      value := .zero
      calldata := ByteArray.empty
      isStatic := false
      gasLimit := 100
      depth := 0
      returnOffset := 0
      returnSize := 0 }
    ⟨0, .ofCode ⟨#[0x5b, 0x60, 0, 0x56]⟩⟩ .empty .empty
  suspended := []
  substate := .empty
  world := .empty
  warmth := .empty
  cache := default
  pool := .empty
  events := []

theorem looping_frame_terminates :
    ∃ outcome final,
      Interpreter.runInstructions (.standard .blank default .standard) loopingMachine =
        .ok outcome final ∧
      outcome.verdict = .failure (.halt .outOfGas) ∧
      Interpreter.instructionCount (.standard .blank default .standard) 1000 loopingMachine ≤
        201 := by
  have terminates := every_message_terminates (.standard .blank default .standard) ⟨rfl, rfl⟩ rfl
  have same := (terminates.1 (throw (.internal .stepBudgetSpent)) 201 ⟨.zero, .zero, .zero⟩
    loopingMachine (by decide)).1
  have shown : (match Interpreter.run (.standard .blank default .standard) 201 loopingMachine with
      | .ok outcome _ => some outcome.verdict
      | .error _ _ => none) = some (.failure (.halt .outOfGas)) := by decide +kernel
  rw [← Interpreter.runOr_throw, same] at shown
  split at shown
  · rename_i outcome final done
    injection shown with verdict
    exact ⟨outcome, final, done, verdict, terminates.2.1 1000 loopingMachine⟩
  · cases shown

end CancunMachine
