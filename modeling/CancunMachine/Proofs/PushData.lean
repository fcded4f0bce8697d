import Mathlib.Tactic
import CancunMachine.Proofs.Evolution.Moments
import CancunMachine.Proofs.Order.Frame
import CancunMachine.Proofs.Program.Starts

/-!
# Push data is never executed

A frame stands where an instruction starts, or beyond the end of its code. It comes there by going
on to the next instruction, by stepping over the immediate bytes of a push or by jumping, and a
child that returns finds its parent where it has left it.
-/

namespace CancunMachine

open Ending

/-- The frame stands at an instruction of its program or beyond the end. Programs that are too long
for a position do not count. -/
def Frame.OnInstruction (frame : Frame) : Prop :=
  frame.program.program.size < positionLimit → frame.program.program.OnInstruction frame.pc

theorem Frame.OnInstruction.of_place {frame next : Frame} (stands : frame.OnInstruction)
    (same : next.place = frame.place) : next.OnInstruction := by
  obtain ⟨program, pc⟩ := Prod.mk.inj same
  unfold OnInstruction
  rw [program, pc]
  exact stands

/-- A frame that has been started anew stands at its first instruction. -/
theorem Frame.onInstruction_of_start {frame : Frame} (begins : frame.pc = 0) :
    frame.OnInstruction := by
  intro _
  rw [begins]
  exact .inr .first

/-- Behind an instruction and its immediate bytes stands the next one. -/
theorem Frame.OnInstruction.advance {frame : Frame} (stands : frame.OnInstruction) :
    ((frame.advance 1).advance (Opcode.ofByte frame.nextByte).width).OnInstruction := by
  intro small
  have follows := (stands small).next small
  have reached : ((frame.advance 1).advance (Opcode.ofByte frame.nextByte).width).pc =
      min (frame.pc + 1 + (Opcode.ofByte frame.nextByte).width) (positionLimit - 1) := by
    simp only [Frame.advance]
    omega
  rw [reached]
  exact follows

theorem Frame.place_advance_advance_zero (frame : Frame) (count : Nat) :
    ((frame.advance count).advance 0).place = (frame.advance count).place := by
  have same : min (min (frame.pc + count) (positionLimit - 1) + 0) (positionLimit - 1) =
      min (frame.pc + count) (positionLimit - 1) := by
    omega
  exact congrArg (Prod.mk frame.program) same

/-- What does not move has no immediate bytes. -/
theorem Opcode.width_eq_zero {opcode : Opcode} (stands : opcode.moves = false) :
    opcode.width = 0 := by
  cases opcode with
  | push width =>
      have zero : width = 0 := by simpa [Opcode.moves] using stands
      rw [zero]
      rfl
  | _ => rfl

theorem Opcode.eq_of_moves {opcode : Opcode} (moves : opcode.moves = true) :
    (∃ width, opcode = .push width ∧ width ≠ 0) ∨ opcode = .jump ∨ opcode = .jumpi := by
  cases opcode with
  | push width => exact .inl ⟨width, rfl, by simpa [Opcode.moves] using moves⟩
  | jump => exact .inr (.inl rfl)
  | jumpi => exact .inr (.inr rfl)
  | _ => cases moves

namespace Instruction

variable {host : Host} {enter : Transfer → Run Outcome} {machine next : Machine} {signal : Signal}

theorem place_of_pushImmediate {width : Nat}
    (done : pushImmediate host width machine = .ok signal next) :
    next.frame.place = (machine.frame.advance width).place := by
  obtain ⟨_, paid, charged, rest⟩ := bind_eq_ok.mp done
  obtain ⟨_, _, rfl⟩ := Run.charge_eq_ok.mp charged
  obtain ⟨word, _, read, rest⟩ := bind_eq_ok.mp rest
  cases read
  obtain ⟨_, pushed, pushes, rest⟩ := bind_eq_ok.mp rest
  obtain ⟨stack, _, rfl⟩ := Run.updateStack_eq_ok.mp pushes
  cases rest
  rfl

/-- A jump that is made leads to an instruction. -/
theorem onInstruction_of_jump {destination : Word}
    (done : Run.updateFrame (·.jump destination) machine = .ok () next) :
    next.frame.OnInstruction := by
  obtain ⟨frame, jumped, rfl⟩ := Run.updateFrame_eq_ok.mp done
  unfold Frame.jump at jumped
  split at jumped
  · rename_i target
    cases jumped
    exact fun _ => .inr (Program.instructionStart_of_isJumpTarget target)
  · cases jumped

theorem onInstruction_of_jumpInstruction (done : jump host machine = .ok signal next) :
    next.frame.OnInstruction := by
  obtain ⟨_, paid, _, rest⟩ := bind_eq_ok.mp done
  obtain ⟨destination, popped, _, rest⟩ := bind_eq_ok.mp rest
  obtain ⟨_, jumped, jumps, rest⟩ := bind_eq_ok.mp rest
  cases rest
  exact onInstruction_of_jump jumps

/-- A conditional jump that is not made stays where it is. -/
theorem onInstruction_of_jumpi (stands : machine.frame.OnInstruction)
    (done : jumpi host machine = .ok signal next) : next.frame.OnInstruction := by
  have pays : Prudent True True .pays (Run.charge (host.schedule.tier .high)) := prudent_charge _
  have pops : Prudent True True .works Run.popTwo := prudent_popTwo
  obtain ⟨_, paid, charged, rest⟩ := bind_eq_ok.mp done
  obtain ⟨⟨destination, condition⟩, popped, operands, rest⟩ := bind_eq_ok.mp rest
  have places : popped.places = machine.places :=
    (pops.places.of_ok operands).trans (pays.places.of_ok charged)
  by_cases jumps : (!condition.isZero) = true
  · simp only [if_pos jumps] at rest
    obtain ⟨_, jumped, jumping, rest⟩ := bind_eq_ok.mp rest
    cases rest
    exact onInstruction_of_jump jumping
  · simp only [if_neg jumps] at rest
    cases rest
    exact stands.of_place (List.cons.inj places).1

/-- An instruction leads from its own byte to an instruction. -/
theorem onInstruction_of_execute {machine : Machine}
    (enters : ∀ transfer, Keeps Machine.waiting (enter transfer))
    (stands : machine.frame.OnInstruction)
    (done : execute host enter machine.nextOpcode machine.fetched = .ok signal next) :
    next.frame.OnInstruction := by
  have follows : (machine.fetched.frame.advance machine.nextOpcode.width).OnInstruction :=
    stands.advance
  cases moves : machine.nextOpcode.moves with
  | false =>
      have places := (places_of_execute moves enters).of_ok done
      have place : next.frame.place = machine.fetched.frame.place := (List.cons.inj places).1
      rw [Opcode.width_eq_zero moves] at follows
      exact follows.of_place (place.trans (Frame.place_advance_advance_zero _ _).symm)
  | true =>
      rcases Opcode.eq_of_moves moves with ⟨width, pushes, immediate⟩ | jumps | jumps
      · rw [pushes] at done follows
        simp only [execute, if_neg immediate] at done
        exact follows.of_place (place_of_pushImmediate done)
      · rw [jumps] at done
        exact onInstruction_of_jumpInstruction done
      · rw [jumps] at done follows
        have still : machine.fetched.frame.OnInstruction :=
          follows.of_place (Frame.place_advance_advance_zero _ _).symm
        exact onInstruction_of_jumpi still done

end Instruction

/-- A frame starts at its first instruction. -/
theorem Interpreter.onInstruction_of_startFrame {host : Host} {transfer : Transfer}
    {opening started : Machine} (begins : opening.frame.pc = 0)
    (starts : startFrame host transfer (opening.opened host) = .ok none started) :
    started.frame.OnInstruction := by
  apply Frame.onInstruction_of_start
  rw [frame_of_startFrame starts]
  exact begins

/-- From an instruction on, a run fetches nothing but instructions, in all its frames. -/
theorem Interpreter.Visits.onInstruction {host : Host} {budget : Nat} {machine visited : Machine}
    (visits : Interpreter.Visits host budget machine visited)
    (stands : machine.frame.OnInstruction) : visited.frame.OnInstruction := by
  apply visits.preserves _ _ stands
  · intro budget machine next stands done
    have enters : ∀ transfer, Keeps Machine.waiting (runFrame host (run host budget) transfer) :=
      fun transfer => waiting_of_runFrame transfer (waiting_of_run budget)
    exact Instruction.onInstruction_of_execute enters stands done
  · intro machine ready started entry _ prepares starts
    have begins : (ready.entering entry.child).frame.pc = 0 :=
      congrArg Frame.pc (Instruction.preparation_eq_some prepares).2.legal.fresh.start
    exact onInstruction_of_startFrame begins starts

/-- Push data is never executed. Whatever code a message runs and however its host answers, every
frame fetches its instructions where the code, read from its beginning, has an instruction, or beyond
the end of the code. No collaborator of a host sets the position of a frame. -/
theorem push_data_is_never_executed (host : Host) (world : World) (cache : Cache)
    (machine visited : Machine) (booted : Transaction.boot host world cache = .ok machine)
    (visits : Transaction.Visits host machine visited)
    (small : visited.frame.program.program.size < positionLimit) :
    visited.frame.program.program.size ≤ visited.frame.pc ∨
      Program.InstructionStart visited.frame.program.program.code visited.frame.pc := by
  obtain ⟨started, first, visits⟩ := visits
  obtain ⟨ready, prepares, starts⟩ := Transaction.firstFetch?_eq_some first
  have fresh : machine.frame.pc = 0 := congrArg Frame.pc (Transaction.boot_eq_ok booted).fresh
  have begins : ready.frame.pc = 0 := by
    rw [(Transaction.frame_of_prepareAll prepares).1]
    exact fresh
  exact visits.onInstruction (Interpreter.onInstruction_of_startFrame begins starts) small

/-- The machine at which a frame fetches once as many of its own instructions have been executed. -/
def Interpreter.later? (host : Host) : Nat → Nat → Machine → Option Machine
  | 0, _, machine => some machine
  | count + 1, budget, machine =>
      (after? host (budget - 1) machine).bind (later? host count (budget - 1))

theorem Interpreter.visits_of_later? {host : Host} {count budget : Nat} {machine visited : Machine}
    (enough : count < budget) (later : later? host count budget machine = some visited) :
    Interpreter.Visits host budget machine visited := by
  induction count generalizing budget machine with
  | zero =>
      obtain ⟨rest, rfl⟩ := Nat.exists_eq_add_of_lt enough
      cases later
      exact .here visited
  | succ count inductionHypothesis =>
      obtain ⟨rest, rfl⟩ := Nat.exists_eq_add_of_lt enough
      obtain ⟨next, after, later⟩ := Option.bind_eq_some_iff.mp later
      exact .next (after?_eq_some after) (inductionHypothesis (by omega) later)

/-- A contract that jumps over two pushed bytes, of which the second looks like a jump target. -/
def jumpingWorld : World :=
  (World.empty.setCode (.ofNat 1000) ⟨#[0x60, 6, 0x56, 0x61, 1, 0x5b, 0x5b, 0]⟩).setBalance .zero
    (.ofLimb 10)

def jumpingHost : Host :=
  .standard .blank ⟨.zero, .account (.ofNat 1000), .zero, ByteArray.empty, 50000, []⟩ .standard

/-- The machine after two instructions of the contract, and what it was booted as. -/
def jumped? : Option (Machine × Machine) := do
  let machine ← (Transaction.boot jumpingHost jumpingWorld default).toOption
  let started ← Transaction.firstFetch? jumpingHost machine
  let visited ← Interpreter.later? jumpingHost 2 (Interpreter.stepBudget started.frame.gas) started
  return (machine, visited)

theorem jump_lands_behind_push_data :
    ∃ machine visited, Transaction.boot jumpingHost jumpingWorld default = .ok machine ∧
      Transaction.Visits jumpingHost machine visited ∧ visited.frame.pc = 6 ∧
      Program.InstructionStart visited.frame.program.program.code 6 := by
  have shown : jumped?.map (fun moments =>
      (moments.2.frame.pc, moments.2.frame.program.program.size)) = some (6, 8) := by
    decide +kernel
  obtain ⟨⟨machine, visited⟩, jumps, answer⟩ := Option.map_eq_some_iff.mp shown
  obtain ⟨pc, size⟩ := Prod.mk.inj answer
  simp only at pc size
  unfold jumped? at jumps
  obtain ⟨booted, boots, jumps⟩ := Option.bind_eq_some_iff.mp jumps
  obtain ⟨started, first, jumps⟩ := Option.bind_eq_some_iff.mp jumps
  obtain ⟨jumped, later, same⟩ := Option.bind_eq_some_iff.mp jumps
  cases same
  have visits : Transaction.Visits jumpingHost machine visited :=
    ⟨started, first, Interpreter.visits_of_later? (by rw [Interpreter.stepBudget]; omega) later⟩
  have boots : Transaction.boot jumpingHost jumpingWorld default = .ok machine := by
    cases answered : Transaction.boot jumpingHost jumpingWorld default with
    | error cause =>
        rw [answered] at boots
        cases boots
    | ok booted =>
        rw [answered] at boots
        rw [Option.some.inj boots]
  rcases push_data_is_never_executed jumpingHost jumpingWorld default machine visited boots visits
    (by rw [size]; decide) with beyond | starts
  · omega
  · rw [pc] at starts
    exact ⟨machine, visited, boots, visits, pc, starts⟩

end CancunMachine
