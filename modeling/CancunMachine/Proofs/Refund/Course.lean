import Mathlib.Tactic
import CancunMachine.Proofs.History.Record
import CancunMachine.Proofs.Lockstep
import CancunMachine.Proofs.Refund.Clearing

/-!
# The refund counter along a run

The writes to slots are counted along the history of a run. An instruction withstands the writes
that it does itself and those of the child that it starts; a child that fails gives back both the
slots and the counter that it was entered with.
-/

namespace CancunMachine

open Ending

variable {host : Host} {machine final : Machine} {writes : Nat}

def Deed.writesSlot : Deed → Bool
  | .slotWritten _ _ _ => true
  | _ => false

/-- How many writes to slots are told, whether they survive or not. -/
def slotWrites (told : List Happening) : Nat := told.countP (·.deed.writesSlot)

theorem slotWrites_append (early late : List Happening) :
    slotWrites (early ++ late) = slotWrites early + slotWrites late := List.countP_append

theorem Machine.Reversible.initialSlots (reversible : machine.Reversible final) :
    final.world.initialSlot = machine.world.initialSlot := reversible.world.initialSlots

theorem Evolves.initialSlots (evolves : Evolves host machine final) :
    final.world.initialSlot = machine.world.initialSlot := by
  have reversible : machine.Reversible final := evolves.reversible
  exact reversible.initialSlots

/-- A step that leaves the slots and the counter aside and lets the machine evolve. -/
theorem Machine.Withstands.evolved (withstands : machine.Withstands writes)
    (evolves : Evolves host machine final)
    (shown : final.shown shownTally = machine.shown shownTally) : final.Withstands writes :=
  withstands.of_shown shown evolves.initialSlots

namespace Instruction

variable {enter : Transfer → Run Outcome} {opcode : Opcode} {signal : Signal}

/-- The only instruction that writes to slots and changes the counter. -/
theorem withstands_of_sstore (cancun : host.schedule = .cancun)
    (initials : final.world.initialSlot = machine.world.initialSlot)
    (done : sstore host machine = .ok signal final)
    (withstands : machine.Withstands (writes + 1)) : final.Withstands writes := by
  obtain ⟨key, value, _, _, shown⟩ := shown_of_sstore shownTally
    (fun change tally => (tally.1, clampInt64 (tally.2 + change)))
    (fun address key value tally =>
      (Function.update tally.1 address (Function.update (tally.1 address) key value), tally.2))
    (fun _ _ _ => rfl)
    (fun world _ address key value => by simp only [shownTally, World.slot_of_setSlot]) done
  obtain ⟨slots, refund⟩ := Prod.mk.inj shown
  rw [cancun] at refund
  exact withstands.write slots initials refund

theorem leaves_tstore : Leaves shownTally (tstore host) := by
  refine (Leaves.of_work prudent_forbidStatic).bind fun _ =>
    (Leaves.of_payment (prudent_charge _)).bind fun _ =>
    (Leaves.of_work prudent_popTwo).bind fun _ => (Leaves.frame _).bind fun _ =>
    (Leaves.modifySubstate ?_).bind fun _ => .pure _
  exact fun _ _ => rfl

theorem leaves_log (topicCount : Nat) : Leaves shownTally (log host topicCount) := by
  refine (Leaves.of_work prudent_forbidStatic).bind fun _ =>
    (Leaves.of_work (prudent_peek _)).bind fun _ => (Leaves.of_work prudent_peekTwo).bind fun _ =>
    (Leaves.of_payment (prudent_ofHalting _ nofun)).bind fun _ =>
    (Leaves.of_payment (prudent_ofHalting _ nofun)).bind fun _ => (Leaves.frame _).bind fun _ =>
    (Leaves.of_payment (prudent_chargeCost _)).bind fun _ =>
    (Leaves.of_work (prudent_drop 2)).bind fun _ =>
    (Leaves.of_work (prudent_pop topicCount)).bind fun _ => (Leaves.frame _).bind fun _ =>
    (Leaves.of_work (prudent_load _ _)).bind fun _ =>
    (Leaves.modifySubstate ?_).bind fun _ => .pure _
  exact fun _ _ => rfl

/-- An instruction that neither writes to slots nor starts a child leaves the tally aside. -/
theorem shownTally_of_execute (plain : host.Plain) (alone : opcode.startsChild = false)
    (quiet : opcode ≠ .sstore) (done : execute host enter opcode machine = .ok signal final) :
    final.shown shownTally = machine.shown shownTally := by
  rcases opcode.regular_or_startsChild with regular | rfl | starts
  · have silent : opcode.writes = false → final.shown shownTally = machine.shown shownTally := by
      intro writes
      have prudent : Prudent False True .pays (execute host enter opcode) :=
        prudent_execute regular False.elim fun _ => writes
      exact Leaves.of_prudent prudent _ _ _ done
    cases opcode with
    | sstore => exact absurd rfl quiet
    | tstore => exact leaves_tstore _ _ _ done
    | log topicCount => exact leaves_log topicCount _ _ _ done
    | _ => exact silent rfl
  · exact leaves_selfdestruct aside_shownTally plain.destruction _ _ _ done
  · rw [alone] at starts
    cases starts

/-- An instruction that starts no child withstands the write that it does, if it does one. -/
theorem withstands_of_alone (plain : host.Plain) (cancun : host.schedule = .cancun)
    (enters : Enters host enter) (alone : opcode.startsChild = false)
    (name : FrameName) (done : execute host enter opcode machine = .ok signal final)
    (withstands : machine.Withstands
      (slotWrites (Interpreter.ownHistory name opcode machine (.ok signal final)) + writes)) :
    final.Withstands writes := by
  have evolves := (execute_behaves plain enters opcode).evolves done
  by_cases quiet : opcode = .sstore
  · subst quiet
    obtain ⟨key, value, top, below, _⟩ := sstore_eq_ok done
    have once : slotWrites (Interpreter.ownHistory name .sstore machine (.ok signal final)) = 1 := by
      simp [Interpreter.ownHistory, Opcode.deed?, top, below, slotWrites, Deed.writesSlot]
    rw [once, Nat.add_comm] at withstands
    exact withstands_of_sstore cancun evolves.initialSlots done withstands
  · exact (withstands.mono (Nat.le_add_left _ _)).evolved evolves
      (shownTally_of_execute plain alone quiet done)

end Instruction

theorem Interpreter.initialSlots_of_startFrame {transfer : Transfer} {answer : Option Outcome}
    {started : Machine}
    (starts : startFrame host transfer (machine.opened host) = .ok answer started) :
    started.world.initialSlot = machine.world.initialSlot := by
  obtain ⟨_, begun, evolved, _⟩ := startFrame_eq_ok starts
  exact (begun.reversible.trans evolved.reversible).initialSlots

/-- The start of a frame moves value and founds accounts at most. -/
theorem Machine.Withstands.started {transfer : Transfer} {answer : Option Outcome}
    {started : Machine} (withstands : machine.Withstands writes)
    (starts : Interpreter.startFrame host transfer (machine.opened host) = .ok answer started) :
    started.Withstands writes := by
  have shown : started.shown shownTally = (machine.opened host).shown shownTally :=
    Interpreter.leaves_startFrame aside_shownTally transfer _ _ _ starts
  exact withstands.of_shown (shown.trans (machine.shown_opened aside_shownTally))
    (Interpreter.initialSlots_of_startFrame starts)

namespace Interpreter

variable {budget : Nat} {name : FrameName} {outcome : Outcome}

/-- The writes of the instructions of a frame are among those of the frame. -/
theorem withstands_below {below : Machine → List Happening} {body : Run Outcome}
    {transfer : Transfer} {entered started : Machine}
    (withstands : entered.Withstands
      (slotWrites (frameHistory host name below body transfer entered) + writes))
    (starts : startFrame host transfer (entered.opened host) = .ok none started) :
    started.Withstands (slotWrites (below started) + writes) := by
  refine (withstands.mono ?_).started starts
  simp only [frameHistory, slotWrites_append, bodyHistory, starts]
  omega

/-- A frame withstands what its instructions do. -/
theorem withstands_of_runFrame (plain : host.Plain) {body : Run Outcome}
    (concludes : Concludes host body) {below : Machine → List Happening} {transfer : Transfer}
    {entered closed : Machine}
    (runs : ∀ {started ended}, body started = .ok outcome ended → outcome.isSuccess = true →
      started.Withstands (slotWrites (below started) + writes) → ended.Withstands writes)
    (ran : runFrame host body transfer entered = .ok outcome closed)
    (withstands : entered.Withstands
      (slotWrites (frameHistory host name below body transfer entered) + writes)) :
    closed.Withstands writes := by
  have course := (enters_runFrame plain concludes).runs ran
  have fewer := withstands.mono (Nat.le_add_left _ _)
  cases succeeds : outcome.isSuccess with
  | false =>
      exact fewer.of_shown (course.shown aside_shownTally succeeds) course.reversible.initialSlots
  | true =>
      obtain ⟨ended, concluded, shown⟩ := shown_of_success plain aside_shownTally ran succeeds
      cases starts : startFrame host transfer (entered.opened host) with
      | error cause started =>
          rw [concluding_of_error starts] at concluded
          rw [failFrame_fails concluded] at succeeds
          cases succeeds
      | ok answer started =>
          rw [concluding_of_ok starts] at concluded
          have initials : started.world.initialSlot = closed.world.initialSlot :=
            (initialSlots_of_startFrame starts).trans course.reversible.initialSlots.symm
          cases answer with
          | some answer =>
              cases concluded
              exact (fewer.started starts).of_shown shown initials.symm
          | none =>
              have evolves := concludes.evolves concluded
              exact (runs concluded succeeds (withstands_below withstands starts)).of_shown shown
                (evolves.initialSlots.trans initials).symm

/-- The writes of a child are among those of the instruction that starts it. -/
theorem withstands_entering {below : Machine → List Happening} {body : Run Outcome}
    {opcode : Opcode} {ready : Machine} {entry : Entry}
    (prepares : Instruction.preparation host opcode machine = .ok (some entry) ready)
    (withstands : machine.Withstands
      (slotWrites (childHistory host name below body (Instruction.preparation host opcode machine)) +
        writes)) :
    (ready.entering entry.child).Withstands
      (slotWrites (frameHistory host name below body entry.transfer
        (ready.entering entry.child)) + writes) := by
  have leaves : Leaves shownTally (Instruction.preparation host opcode) :=
    Instruction.leaves_preparation aside_shownTally opcode
  have shown : ready.shown shownTally = machine.shown shownTally := leaves _ _ _ prepares
  rw [prepares] at withstands
  exact withstands.of_shown shown (Instruction.preparation_eq_some prepares).1.initialSlots

/-- An instruction withstands the writes that it does and those of the child that it starts. -/
theorem withstands_of_execute (plain : host.Plain) (cancun : host.schedule = .cancun)
    (name : FrameName) {opcode : Opcode} {signal : Signal}
    (runs : ∀ {started outcome ended}, run host budget started = .ok outcome ended →
      outcome.isSuccess = true →
      started.Withstands (slotWrites (history host budget (budget :: name) started) + writes) →
      ended.Withstands writes)
    (done : Instruction.execute host (runFrame host (run host budget)) opcode machine =
      .ok signal final)
    (withstands : machine.Withstands
      (slotWrites (childHistory host (budget :: name) (history host budget (budget :: name))
          (run host budget) (Instruction.preparation host opcode machine)) +
        slotWrites (ownHistory name opcode machine (.ok signal final)) + writes)) :
    final.Withstands writes := by
  have concludes := concludes_run plain budget
  have enters := enters_runFrame plain concludes
  have evolves := (Instruction.execute_behaves plain enters opcode).evolves done
  have leaves : Leaves shownTally (Instruction.preparation host opcode) :=
    Instruction.leaves_preparation aside_shownTally opcode
  cases starts : opcode.startsChild with
  | false =>
      refine Instruction.withstands_of_alone plain cancun enters starts name done
        (withstands.mono ?_)
      omega
  | true =>
      rcases Instruction.shown_of_startsChild shownTally starts enters done with
        ⟨ready, prepares, same⟩ | ⟨entry, ready, outcome, closed, prepares, entered, same⟩
      · exact (withstands.mono (by omega)).evolved evolves (same.trans (leaves _ _ _ prepares))
      · have prepared := (Instruction.preparation_eq_some prepares).1
        have few : machine.Withstands (slotWrites (childHistory host (budget :: name)
            (history host budget (budget :: name)) (run host budget)
            (Instruction.preparation host opcode machine)) + writes) := withstands.mono (by omega)
        have entering := withstands_entering prepares few
        have left := withstands_of_runFrame plain concludes runs entered entering
        have returned : closed.world.initialSlot = ready.world.initialSlot :=
          (enters.runs entered).reversible.initialSlots
        exact left.of_shown same
          (evolves.initialSlots.trans (returned.trans prepared.initialSlots).symm)

/-- The writes of a run are those of its first instruction and those of the rest. -/
theorem withstands_of_next (plain : host.Plain) (cancun : host.schedule = .cancun)
    {signal : Signal}
    (runs : ∀ {name writes started outcome ended}, run host budget started = .ok outcome ended →
      outcome.isSuccess = true →
      started.Withstands (slotWrites (history host budget name started) + writes) →
      ended.Withstands writes)
    (done : Instruction.execute host (runFrame host (run host budget)) machine.nextOpcode
      machine.fetched = .ok signal final)
    (withstands : machine.Withstands
      (slotWrites (history host (budget + 1) name machine) + writes)) :
    final.Withstands
      (slotWrites (laterHistory (history host budget name) (.ok signal final)) + writes) := by
  have fetched : machine.fetched.Withstands
      (slotWrites (history host (budget + 1) name machine) + writes) := withstands.of_shown rfl rfl
  refine withstands_of_execute plain cancun name runs done (fetched.mono ?_)
  simp only [history, slotWrites_append, done]
  omega

/-- A run that succeeds withstands the writes that its history tells. -/
theorem withstands_of_run (plain : host.Plain) (cancun : host.schedule = .cancun)
    (done : run host budget machine = .ok outcome final) (succeeds : outcome.isSuccess = true)
    (withstands : machine.Withstands (slotWrites (history host budget name machine) + writes)) :
    final.Withstands writes := by
  induction budget generalizing name machine outcome final writes with
  | zero => cases done
  | succ budget inductionHypothesis =>
      rw [run_succ] at done
      cases executed : Instruction.execute host (runFrame host (run host budget))
          machine.nextOpcode machine.fetched with
      | error cause next =>
          rw [executed] at done
          rw [failFrame_fails done] at succeeds
          cases succeeds
      | ok signal next =>
          have rest := withstands_of_next plain cancun inductionHypothesis executed withstands
          rw [executed] at done
          cases signal with
          | proceed => exact inductionHypothesis done succeeds rest
          | stop =>
              have evolves := concludes_stopFrame.evolves done
              exact (rest.mono (Nat.le_add_left _ _)).evolved evolves
                (shown_of_stopFrame aside_shownTally done succeeds)

theorem withstands_later (plain : host.Plain) (cancun : host.schedule = .cancun)
    (done : Instruction.execute host (runFrame host (run host budget)) machine.nextOpcode
      machine.fetched = .ok .proceed final)
    (withstands : machine.Withstands
      (slotWrites (history host (budget + 1) name machine) + writes)) :
    final.Withstands (slotWrites (history host budget name final) + writes) :=
  withstands_of_next plain cancun (withstands_of_run plain cancun) done withstands

theorem withstands_child {ready : Machine} {entry : Entry}
    (prepares : Instruction.preparation host machine.nextOpcode machine.fetched =
      .ok (some entry) ready)
    (withstands : machine.Withstands
      (slotWrites (history host (budget + 1) name machine) + writes)) :
    (ready.entering entry.child).Withstands
      (slotWrites (frameHistory host (budget :: name) (history host budget (budget :: name))
        (run host budget) entry.transfer (ready.entering entry.child)) + writes) := by
  have fetched : machine.fetched.Withstands
      (slotWrites (history host (budget + 1) name machine) + writes) := withstands.of_shown rfl rfl
  refine withstands_entering prepares (fetched.mono ?_)
  simp only [history, slotWrites_append]
  omega

/-- At every moment of a run the counter covers the cleared slots. -/
theorem Visits.refundsClearing (plain : host.Plain) (cancun : host.schedule = .cancun)
    {visited : Machine} (visits : Visits host budget machine visited)
    (withstands : machine.Withstands (slotWrites (history host budget name machine) + writes)) :
    visited.RefundsClearing := by
  induction visits generalizing name with
  | here => exact withstands.refunds
  | next done _ inductionHypothesis =>
      exact inductionHypothesis (withstands_later plain cancun done withstands)
  | child prepares starts _ inductionHypothesis =>
      exact inductionHypothesis (withstands_below (withstands_child prepares withstands) starts)

/-- And so it does when a frame below is left, whether it has succeeded or failed. -/
theorem Exits.refundsClearing (plain : host.Plain) (cancun : host.schedule = .cancun)
    {closed : Machine} (exits : Exits host budget machine closed)
    (withstands : machine.Withstands (slotWrites (history host budget name machine) + writes)) :
    closed.RefundsClearing := by
  induction exits generalizing name with
  | @here budget machine ready closed entry outcome prepares ran =>
      exact (withstands_of_runFrame plain (concludes_run plain budget)
        (withstands_of_run plain cancun) ran (withstands_child prepares withstands)).refunds
  | next done _ inductionHypothesis =>
      exact inductionHypothesis (withstands_later plain cancun done withstands)
  | child prepares starts _ inductionHypothesis =>
      exact inductionHypothesis (withstands_below (withstands_child prepares withstands) starts)

end Interpreter

end CancunMachine
