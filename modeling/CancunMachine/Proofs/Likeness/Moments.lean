import Mathlib.Tactic
import CancunMachine.Proofs.Evolution.Visits
import CancunMachine.Proofs.Transparency

/-!
# Every moment of a run is tidy

A machine looks like itself exactly if all its memories are tidy. What mirrors itself keeps that, so
no memory holds anything beyond its size whenever an instruction is fetched.
-/

namespace CancunMachine

open Ending

/-- The tuning that a host has. -/
def Host.tuning (host : Host) : Tuning :=
  ⟨host.isTraced, host.reusesBuffers, host.config.trackStateChanges, host.config.codeCacheCapacity⟩

theorem Host.tuned_tuning (host : Host) : host.tuned host.tuning = host := rfl

variable {host : Host} {tuning : Tuning}

/-- A machine looks like itself if all its memories are tidy. -/
def Machine.Tidy (machine : Machine) : Prop := machine.Alike machine

/-- What mirrors itself keeps a machine tidy. -/
theorem Mirrors.keepsTidy {Alpha : Type} {values : Alpha → Alpha → Prop} {action : Run Alpha}
    (mirrors : Mirrors values action action) {machine final : Machine} {value : Alpha}
    (tidy : machine.Tidy) (done : action machine = .ok value final) :
    values value value ∧ final.Tidy := by
  have ends := mirrors machine machine tidy
  rw [done] at ends
  cases ends with
  | ok agree alike => exact ⟨agree, alike⟩

theorem Instruction.mirrors_preparation (opcode : Opcode) :
    Mirrors (Option.Rel Entry.Alike) (preparation host opcode)
      (preparation (host.tuned tuning) opcode) := by
  cases opcode
  case call => exact mirrors_readCall.step fun request => mirrors_prepareCall request
  case callcode => exact mirrors_readCallcode.step fun request => mirrors_prepareCall request
  case delegatecall =>
    exact mirrors_readDelegatecall.step fun request => mirrors_prepareCall request
  case staticcall => exact mirrors_readStaticcall.step fun request => mirrors_prepareCall request
  case create =>
    exact (mirrors_peekThree.step fun _ => mirrors_same _).step fun request =>
      mirrors_prepareCreation request
  case create2 =>
    exact (mirrors_peekFour.step fun _ => mirrors_same _).step fun request =>
      mirrors_prepareCreation request
  all_goals exact mirrors_pure .none

namespace Machine.Tidy

variable {machine next ready begun : Machine}

theorem fetched (tidy : machine.Tidy) : machine.fetched.Tidy :=
  (Interpreter.mirrors_fetch.keepsTidy tidy rfl).2

theorem executed (blind : ∀ hook ∈ host.overrides.outcome, hook.Blind) {budget : Nat}
    {opcode : Opcode} {signal : Signal} (tidy : machine.Tidy)
    (done : Instruction.execute host (Interpreter.runFrame host (Interpreter.run host budget))
      opcode machine = .ok signal next) : next.Tidy := by
  have children : ∀ transfer, Mirrors Eq
      (Interpreter.runFrame host (Interpreter.run host budget) transfer)
      (Interpreter.runFrame (host.tuned host.tuning)
        (Interpreter.run (host.tuned host.tuning) budget) transfer) :=
    Interpreter.mirrors_runFrame blind (Interpreter.mirrors_run blind budget)
  have mirrors : Mirrors Eq
      (Instruction.execute host (Interpreter.runFrame host (Interpreter.run host budget)) opcode)
      (Instruction.execute (host.tuned host.tuning) (Interpreter.runFrame (host.tuned host.tuning)
        (Interpreter.run (host.tuned host.tuning) budget)) opcode) :=
    Instruction.mirrors_execute children opcode
  rw [host.tuned_tuning] at mirrors
  exact (mirrors.keepsTidy tidy done).2

theorem started {transfer : Transfer} (tidy : machine.Tidy)
    (starts : Interpreter.startFrame host transfer (machine.opened host) = .ok none begun) :
    begun.Tidy := by
  have opens : Mirrors Eq (Interpreter.openFrame host)
      (Interpreter.openFrame (host.tuned host.tuning)) := Interpreter.mirrors_openFrame
  have begins : Mirrors Eq (Interpreter.startFrame host transfer)
      (Interpreter.startFrame (host.tuned host.tuning) transfer) :=
    Interpreter.mirrors_startFrame transfer
  rw [host.tuned_tuning] at opens begins
  have opened := (opens.keepsTidy tidy (Interpreter.openFrame_apply machine)).2
  exact (begins.keepsTidy opened starts).2

theorem entered {opcode : Opcode} {entry : Entry} (tidy : machine.Tidy)
    (prepares : Instruction.preparation host opcode machine = .ok (some entry) ready)
    (starts : Interpreter.startFrame host entry.transfer
      ((ready.entering entry.child).opened host) = .ok none begun) : begun.Tidy := by
  have mirrors : Mirrors (Option.Rel Entry.Alike) (Instruction.preparation host opcode)
      (Instruction.preparation (host.tuned host.tuning) opcode) :=
    Instruction.mirrors_preparation opcode
  rw [host.tuned_tuning] at mirrors
  obtain ⟨entries, prepared⟩ := mirrors.keepsTidy tidy prepares
  cases entries with
  | some entries =>
      have entering := ((Instruction.mirrors_suspend entries.child).keepsTidy prepared rfl).2
      exact started entering starts

end Machine.Tidy

theorem Interpreter.Visits.tidy (blind : ∀ hook ∈ host.overrides.outcome, hook.Blind)
    {budget : Nat} {machine visited : Machine} (visits : Visits host budget machine visited)
    (first : machine.Tidy) : visited.Tidy := by
  refine visits.preserves ?_ ?_ first
  · intro budget machine next tidy done
    exact tidy.fetched.executed blind done
  · intro machine ready started entry tidy prepares starts
    exact tidy.fetched.entered prepares starts

/-- Every memory is tidy while an instruction is fetched. -/
theorem Transaction.Visits.tidy {world : World} {cache : Cache} {machine visited : Machine}
    (blind : ∀ hook ∈ host.overrides.outcome, hook.Blind)
    (booted : Transaction.boot host world cache = .ok machine)
    (visits : Transaction.Visits host machine visited) : visited.Tidy := by
  obtain ⟨started, first, visits⟩ := visits
  obtain ⟨ready, prepares, starts⟩ := firstFetch?_eq_some first
  have boots : Answers Machine.Alike (boot host world cache)
      (boot (host.tuned host.tuning) world cache) := boot_alike world cache cache
  have prepared : Mirrors Eq (prepareAll host) (prepareAll (host.tuned host.tuning)) :=
    mirrors_forM _ mirrors_prepare
  rw [host.tuned_tuning] at boots prepared
  rw [booted] at boots
  cases boots with
  | ok tidy => exact visits.tidy blind (((prepared.keepsTidy tidy prepares).2).started starts)

end CancunMachine
