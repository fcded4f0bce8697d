import Mathlib.Tactic
import CancunMachine.Proofs.Evolution.Moments
import CancunMachine.Proofs.Likeness.Moments
import CancunMachine.Proofs.Memory.Returned
import CancunMachine.Proofs.Order.Resumption

/-!
# What a call changes in the frame of its caller

When a callee is back, the frame of its caller is as it was but for the operands, the gas, the
return data and the memory over the two ranges of the call, whatever the callee has executed.
-/

namespace CancunMachine

open Ending Instruction

/-- What a call that has run its callee has made of the frame of its caller. -/
structure CallChanges (host : Host) (opcode : Opcode) (request : CallRequest) (entry : Entry)
    (outcome : Outcome) (machine final : Machine) : Prop where
  /-- All but these fields are as they were. -/
  frame : final.frame = { machine.frame with
    stack := final.frame.stack
    memory := final.frame.memory
    gas := final.frame.gas
    returnData := outcome.output
    queuedHalt := none }
  /-- The operands are replaced by whether the callee has succeeded. -/
  stack : final.frame.stack.toList =
    .ofBool outcome.isSuccess :: machine.frame.stack.toList.drop opcode.arity.1
  /-- The memory has the size that was paid for. -/
  size : final.frame.memory.size =
    max machine.frame.memory.size (opcode.needed machine.frame.stack)
  /-- The last two operands name the range that the output replaces, cut or filled up with zeros;
  all other bytes are the old ones, and zero beyond the old size. -/
  memory : ∀ position, Bytes.get final.frame.memory.contents position =
    let offset := machine.frame.stack.operand (opcode.arity.1 - 2)
    if offset ≤ position ∧
        position < offset + machine.frame.stack.operand (opcode.arity.1 - 1) then
      Bytes.get outcome.output (position - offset)
    else Bytes.get machine.frame.memory.contents position
  /-- The price and what was handed to the callee are gone, what the callee has left is back; the
  stipend that the callee was given on top is not taken from the caller. -/
  gas : ∃ price handed, request.price host machine = .ok price ∧
    handed = Gas.forChild (machine.frame.gas - price) request.operands.gas.toLimbSaturating ∧
    entry.child.invocation.gasLimit.toNat =
      handed.toNat + request.target.stipend host.schedule ∧
    final.frame.gas.toNat + price.toNat + handed.toNat =
      machine.frame.gas.toNat + outcome.gasRemaining.toNat

namespace Instruction

variable {host : Host} {enter : Transfer → Run Outcome} {opcode : Opcode} {read : Run CallRequest}
  {machine ready final : Machine} {entry : Entry} {signal : Signal}

/-- A call that enters a callee is done when the callee is back and its outcome was taken up. -/
theorem course_of_call (spares : Spares enter) (reads : callReader? host opcode = some read)
    (prepares : preparation host opcode machine = .ok (some entry) ready)
    (done : execute host enter opcode machine = .ok signal final) :
    ∃ request outcome closed halts, read machine = .ok request machine ∧
      prepareCall host request machine = .ok (some entry) ready ∧
      enter entry.transfer (ready.entering entry.child) = .ok outcome closed ∧
      finishCall outcome request.operands
        (closed.resumed host (ready.frame.queueing halts) ready.suspended) = .ok signal final := by
  rw [execute_of_callReader? enter reads] at done
  rw [preparation_of_callReader? reads] at prepares
  obtain ⟨request, _, started, rest⟩ := bind_eq_ok.mp done
  have looks : Looks read := looks_of_callReader? reads
  cases looks started
  rw [bind_of_ok started] at prepares
  obtain ⟨answer, _, prepared, rest⟩ := bind_eq_ok.mp rest
  rw [prepares] at prepared
  cases prepared
  obtain ⟨outcome, returned, ran, finished⟩ := bind_eq_ok.mp rest
  obtain ⟨halts, course⟩ := runChild_of_spares host spares entry ready
  rw [ran] at course
  cases ended : enter entry.transfer (ready.entering entry.child) with
  | ok outcome closed =>
      rw [ended] at course
      cases course
      exact ⟨request, outcome, closed, halts, started, prepares, rfl, finished⟩
  | error cause closed =>
      rw [ended] at course
      cases course

/-- Whatever a callee does, its caller resumes changed in the expected places. -/
theorem changes_of_call (spares : Spares enter) (reads : callReader? host opcode = some read)
    (clean : ∀ position, machine.frame.memory.size ≤ position →
      Bytes.get machine.frame.memory.buffer position = 0)
    (prepares : preparation host opcode machine = .ok (some entry) ready)
    (done : execute host enter opcode machine = .ok signal final) :
    ∃ request outcome closed, read machine = .ok request machine ∧
      enter entry.transfer (ready.entering entry.child) = .ok outcome closed ∧
      CallChanges host opcode request entry outcome machine final := by
  obtain ⟨request, outcome, closed, halts, started, prepared, ended, finished⟩ :=
    course_of_call spares reads prepares done
  obtain ⟨⟨_, _, _, left⟩, ⟨needed, grown, calldata, reaches, grows, loads⟩,
    price, handed, priced, share, limit, paid⟩ := leaves_of_prepareCall prepared
  obtain ⟨gas, memory, stack, collected, stored, pushed, changed⟩ := finishCall_eq_ok finished
  have needs := (needed_eq_cover reaches).trans (needs_of_callReader? reads started)
  have returns := returns_of_callReader? reads started
  have measures := measures_of_needed reaches
  have resumed : (closed.resumed host (ready.frame.queueing halts) ready.suspended).frame =
      ready.frame.queueing halts := rfl
  rw [resumed] at collected stored pushed changed
  rw [left] at pushed changed
  rw [needs] at grows measures
  -- The arguments lie within the memory that was just grown, so loading them changes nothing.
  have kept : ready.frame.memory = grown :=
    Memory.eq_of_load (measures.arguments.imp_right fun covered =>
      covered.trans (Memory.le_size_of_grow grows)) loads
  rw [← kept] at grows
  have covered : request.operands.returnSize = 0 ∨
      request.operands.returnOffset + request.operands.returnSize ≤
        opcode.needed machine.frame.stack := measures.returned
  obtain ⟨size, contents⟩ := Memory.contents_of_returned measures.aligned clean covered grows stored
  have given : opcode.arity.2 = 1 := by cases opcode <;> cases reads <;> rfl
  have exchanged := execute_exchanges host spares opcode _ _ _ done
  have shown : final.frame.stack = stack := congrArg Frame.stack changed
  refine ⟨request, outcome, closed, started, ended, ?_⟩
  constructor
  case frame =>
    rw [changed]
    rfl
  case stack =>
    have top := Stack.toList_push pushed
    have below := exchanged.below
    rw [given, shown, top, List.drop_one, List.tail_cons] at below
    rw [shown, top, below]
  case size =>
    rw [changed]
    exact size
  case memory =>
    intro position
    rw [changed, ← returns.sized]
    rcases returns.placed with none | placed
    · rw [contents, returns.sized, none]
      exact (if_neg (by omega)).trans (if_neg (by omega)).symm
    · rw [← placed]
      exact contents position
  case gas =>
    have gone : final.frame.gas = gas := congrArg Frame.gas changed
    have same : (ready.frame.queueing halts).gas = ready.frame.gas := rfl
    rw [same] at collected
    refine ⟨price, handed, priced, share, limit, ?_⟩
    rw [gone]
    omega

end Instruction

/-- Whatever a callee executes, its call changes the frame of the caller in the expected places
only. -/
theorem calls_change_their_caller_in_place (host : Host) (world : World) (cache : Cache)
    (unsettled : host.overrides.outcome = none) {machine visited : Machine}
    (booted : Transaction.boot host world cache = .ok machine)
    (visits : Transaction.Visits host machine visited) {read : Run CallRequest}
    (calls : callReader? host visited.nextOpcode = some read) (budget : Nat) {entry : Entry}
    {ready final : Machine}
    (enters : preparation host visited.nextOpcode visited.fetched = .ok (some entry) ready)
    (done : execute host (Interpreter.runFrame host (Interpreter.run host budget))
      visited.nextOpcode visited.fetched = .ok .proceed final) :
    ∃ request outcome closed, read visited.fetched = .ok request visited.fetched ∧
      Interpreter.runFrame host (Interpreter.run host budget) entry.transfer
        (ready.entering entry.child) = .ok outcome closed ∧
      CallChanges host visited.nextOpcode request entry outcome visited.fetched final := by
  have blind : ∀ hook ∈ host.overrides.outcome, hook.Blind := by
    rw [unsettled]
    exact fun _ impossible => nomatch impossible
  have tidy := (visits.tidy blind booted).fetched
  exact changes_of_call (Interpreter.spares_children host budget) calls tidy.frame.memory.tidy.clean
    enters done

/-- What a call shows when its caller goes on: the size of the old memory and the memory that is
needed, the range that the output is wanted in, the size of the output and its first bytes. -/
def shownByCall? (host : Host) (budget : Nat) (machine : Machine) :
    Option (List Nat × List UInt8) :=
  match preparation host machine.nextOpcode machine.fetched,
    execute host (Interpreter.runFrame host (Interpreter.run host budget)) machine.nextOpcode
      machine.fetched with
  | .ok (some entry) ready, .ok .proceed _ =>
      match Interpreter.runFrame host (Interpreter.run host budget) entry.transfer
        (ready.entering entry.child) with
      | .ok outcome _ =>
          let stack := machine.fetched.frame.stack
          some ([machine.fetched.frame.memory.size, machine.nextOpcode.needed stack,
            stack.operand 5, stack.operand 6, outcome.output.size],
            [0, 1, 2].map (Bytes.get outcome.output))
      | .error _ _ => none
  | _, _ => none

theorem shownByCall?_eq_some {host : Host} {budget : Nat} {machine : Machine}
    {numbers : List Nat} {bytes : List UInt8}
    (shows : shownByCall? host budget machine = some (numbers, bytes)) :
    ∃ entry ready outcome closed final,
      preparation host machine.nextOpcode machine.fetched = .ok (some entry) ready ∧
      execute host (Interpreter.runFrame host (Interpreter.run host budget)) machine.nextOpcode
        machine.fetched = .ok .proceed final ∧
      Interpreter.runFrame host (Interpreter.run host budget) entry.transfer
        (ready.entering entry.child) = .ok outcome closed ∧
      [machine.fetched.frame.memory.size, machine.nextOpcode.needed machine.fetched.frame.stack,
        machine.fetched.frame.stack.operand 5, machine.fetched.frame.stack.operand 6,
        outcome.output.size] = numbers ∧
      [0, 1, 2].map (Bytes.get outcome.output) = bytes := by
  unfold shownByCall? at shows
  split at shows
  · rename_i entry ready final prepares done
    split at shows
    · rename_i outcome closed ended
      obtain ⟨numbers, bytes⟩ := Prod.mk.inj (Option.some.inj shows)
      exact ⟨entry, ready, outcome, closed, final, prepares, done, ended, numbers, bytes⟩
    · cases shows
  · cases shows

/-- A contract that fills a word of its memory with ones, and wants three bytes of output at the
beginning of the word from another one, which gives a single byte. -/
def fillingWorld : World :=
  (World.empty.setCode (.ofNat 1000)
    ⟨#[0x5f, 0x19, 0x60, 0x20, 0x52, 0x60, 3, 0x60, 0x20, 0x5f, 0x5f, 0x5f, 0x61, 0x07, 0xd0, 0x61,
      0xff, 0xff, 0xf1]⟩).setCode
      (.ofNat 2000) ⟨#[0x60, 0x2a, 0x5f, 0x53, 0x60, 1, 0x5f, 0xf3]⟩

def fillingHost : Host :=
  .standard .blank ⟨.zero, .account (.ofNat 1000), .zero, ByteArray.empty, 200000, []⟩ .standard

theorem short_output_is_filled_up :
    ∃ machine visited final, Transaction.boot fillingHost fillingWorld default = .ok machine ∧
      Transaction.Visits fillingHost machine visited ∧
      execute fillingHost (Interpreter.runFrame fillingHost (Interpreter.run fillingHost 10))
        visited.nextOpcode visited.fetched = .ok .proceed final ∧
      final.frame.pc = visited.fetched.frame.pc ∧ final.frame.memory.size = 64 ∧
      [31, 32, 33, 34, 35].map (Bytes.get final.frame.memory.contents) = [0, 0x2a, 0, 0, 0xff] := by
  have shown : (Transaction.moment? fillingHost fillingWorld (List.replicate 11 .past)).map
      (fun moments => (moments.2.nextOpcode, shownByCall? fillingHost 10 moments.2,
        [31, 35].map (Bytes.get moments.2.fetched.frame.memory.contents))) =
      some (.call, some ([64, 64, 32, 3, 1], [0x2a, 0, 0]), [0, 0xff]) := by
    decide +kernel
  obtain ⟨machine, visited, booted, visits, answer⟩ := Transaction.moment?_shows
    (fun moment => (moment.nextOpcode, shownByCall? fillingHost 10 moment,
      [31, 35].map (Bytes.get moment.fetched.frame.memory.contents))) (by decide) shown
  simp only [Prod.mk.injEq] at answer
  obtain ⟨call, shows, bytes⟩ := answer
  obtain ⟨entry, ready, outcome, closed, final, enters, done, ended, numbers, output⟩ :=
    shownByCall?_eq_some shows
  have calls : callReader? fillingHost visited.nextOpcode = some (readCall fillingHost) := by
    rw [call]
    rfl
  obtain ⟨request, taken, _, _, ran, changes⟩ :=
    calls_change_their_caller_in_place fillingHost fillingWorld default rfl booted visits calls 10
      enters done
  rw [ended] at ran
  cases ran
  have pc := congrArg Frame.pc changes.frame
  have size := changes.size
  have memory := changes.memory
  have arity : Opcode.call.arity = (7, 1) := rfl
  simp only [List.map_cons, List.map_nil, List.cons.injEq, and_true] at numbers output bytes
  obtain ⟨old, needed, start, count, _⟩ := numbers
  rw [old, needed] at size
  simp only [call, arity, start, count] at memory
  refine ⟨machine, visited, final, booted, visits, done, pc, size, ?_⟩
  simp only [List.map_cons, List.map_nil, memory]
  simp [output, bytes]

end CancunMachine
