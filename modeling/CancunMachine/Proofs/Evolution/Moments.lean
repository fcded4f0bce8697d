import Mathlib.Tactic
import CancunMachine.Proofs.Evolution.Visits

/-!
# Finding the moments of a run

A moment of a run is found by the turns that lead to it: over an instruction, with all that it
starts, or into the frame that it enters.
-/

namespace CancunMachine

/-- How a path through a run goes on at an instruction. -/
inductive Turn
  | past
  | inside
deriving DecidableEq

namespace Interpreter

variable {host : Host} {budget : Nat} {machine next visited : Machine}

/-- The machine after an instruction that lets its frame go on. -/
def after? (host : Host) (budget : Nat) (machine : Machine) : Option Machine :=
  match Instruction.execute host (runFrame host (run host budget)) machine.nextOpcode
    machine.fetched with
  | .ok .proceed next => some next
  | _ => none

theorem after?_eq_some (after : after? host budget machine = some next) :
    Instruction.execute host (runFrame host (run host budget)) machine.nextOpcode
      machine.fetched = .ok .proceed next := by
  unfold after? at after
  split at after
  · rename_i done
    rw [done, Option.some.inj after]
  · cases after

/-- The machine at the first instruction of the frame that an instruction enters. -/
def inside? (host : Host) (machine : Machine) : Option Machine :=
  match Instruction.preparation host machine.nextOpcode machine.fetched with
  | .ok (some entry) ready =>
      match startFrame host entry.transfer ((ready.entering entry.child).opened host) with
      | .ok none started => some started
      | _ => none
  | _ => none

theorem visits_of_inside? (inside : inside? host machine = some next)
    (later : Visits host budget next visited) : Visits host (budget + 1) machine visited := by
  unfold inside? at inside
  split at inside
  · rename_i prepares
    split at inside
    · rename_i starts
      cases inside
      exact .child prepares starts later
    · cases inside
  · cases inside

/-- The moment of a run that turns lead to. -/
def moment? (host : Host) : List Turn → Nat → Machine → Option Machine
  | [], _, machine => some machine
  | .past :: turns, budget, machine =>
      (after? host (budget - 1) machine).bind (moment? host turns (budget - 1))
  | .inside :: turns, budget, machine =>
      (inside? host machine).bind (moment? host turns (budget - 1))

theorem visits_of_moment? {turns : List Turn} (enough : turns.length < budget)
    (found : moment? host turns budget machine = some visited) :
    Visits host budget machine visited := by
  induction turns generalizing budget machine with
  | nil =>
      obtain ⟨rest, rfl⟩ := Nat.exists_eq_add_of_lt enough
      cases found
      rw [List.length_nil, Nat.zero_add]
      exact .here visited
  | cons turn turns inductionHypothesis =>
      rw [List.length_cons] at enough
      obtain ⟨rest, rfl⟩ := Nat.exists_eq_add_of_lt enough
      cases turn with
      | past =>
          obtain ⟨next, after, later⟩ := Option.bind_eq_some_iff.mp found
          exact .next (after?_eq_some after) (inductionHypothesis (by omega) later)
      | inside =>
          obtain ⟨next, inside, later⟩ := Option.bind_eq_some_iff.mp found
          exact visits_of_inside? inside (inductionHypothesis (by omega) later)

end Interpreter

namespace Transaction

variable {host : Host} {world : World} {turns : List Turn}

/-- The machine that a message is booted as, and the moment of its execution that turns lead
to. -/
def moment? (host : Host) (world : World) (turns : List Turn) : Option (Machine × Machine) := do
  let machine ← (boot host world default).toOption
  let started ← firstFetch? host machine
  let visited ← Interpreter.moment? host turns (Interpreter.stepBudget started.frame.gas) started
  return (machine, visited)

theorem moment?_eq_some {moments : Machine × Machine} (few : turns.length < 0x10000000000)
    (found : moment? host world turns = some moments) :
    boot host world default = .ok moments.1 ∧ Visits host moments.1 moments.2 := by
  obtain ⟨machine, booted, found⟩ := Option.bind_eq_some_iff.mp found
  obtain ⟨started, first, found⟩ := Option.bind_eq_some_iff.mp found
  obtain ⟨visited, follows, same⟩ := Option.bind_eq_some_iff.mp found
  cases same
  constructor
  · cases answered : boot host world default with
    | error cause =>
        rw [answered] at booted
        cases booted
    | ok shown =>
        rw [answered] at booted
        rw [Option.some.inj booted]
  · exact ⟨started, first,
      Interpreter.visits_of_moment? (by rw [Interpreter.stepBudget]; omega) follows⟩

/-- What a moment of the execution of a message shows, if there is such a moment. -/
theorem moment?_shows {Alpha : Type} (question : Machine → Alpha) {answer : Alpha}
    (few : turns.length < 0x10000000000)
    (shown : (moment? host world turns).map (fun moments => question moments.2) = some answer) :
    ∃ machine visited, boot host world default = .ok machine ∧ Visits host machine visited ∧
      question visited = answer := by
  obtain ⟨⟨machine, visited⟩, found, same⟩ := Option.map_eq_some_iff.mp shown
  obtain ⟨booted, visits⟩ := moment?_eq_some few found
  exact ⟨machine, visited, booted, visits, same⟩

end Transaction

end CancunMachine
