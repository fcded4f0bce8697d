import Mathlib.Tactic
import CancunMachine.Proofs.Evolution.Basic

/-!
# The conduct of a step

What an orderly step of a frame promises: the frame acts by itself, the gas falls by at least `cost`
and the stack grows by at most `growth`. A step that fails leaves the frames that wait in their
place and has made no gas, even if it ends the message. A silent step leaves world and substate
alone, and a tame one never ends the message unless the store refuses something. These promises add
up along a sequence of steps, so that the conduct of an instruction is read off its steps.
-/

namespace CancunMachine

open Ending

variable {Alpha Beta : Type} {host : Host} {known : Invocation → Prop} {silent tame : Prop}

/-- What a step does to the machine, given what is known of the invocation. -/
structure Orderly (host : Host) (known : Invocation → Prop) (silent tame : Prop) (cost : Nat)
    (growth : Int) (action : Run Alpha) : Prop where
  acts : ∀ {machine value final}, known machine.frame.invocation →
    action machine = .ok value final → Acts host machine final
  keeps : ∀ {machine value final}, silent → known machine.frame.invocation →
    action machine = .ok value final →
      final.world = machine.world ∧ final.substate = machine.substate
  spends : ∀ {machine value final}, known machine.frame.invocation →
    action machine = .ok value final →
      final.frame.gas.toNat + cost ≤ machine.frame.gas.toNat
  grows : ∀ {machine value final}, known machine.frame.invocation →
    action machine = .ok value final →
      (final.frame.stack.size : Int) ≤ machine.frame.stack.size + growth
  failed : ∀ {machine cause final}, known machine.frame.invocation →
    action machine = .error cause final → cause.endsMessage = false → Evolves host machine final
  stays : ∀ {machine cause final}, known machine.frame.invocation →
    action machine = .error cause final →
      final.suspended = machine.suspended ∧ final.frame.gas.toNat ≤ machine.frame.gas.toNat
  settles : ∀ {machine cause final}, tame → known machine.frame.invocation →
    action machine = .error cause final → host.refusals = .none → cause.endsMessage = false

namespace Orderly

variable {cost laterCost : Nat} {growth laterGrowth : Int}

theorem evolves {action : Run Alpha} (orderly : Orderly host known silent tame cost growth action)
    {machine final : Machine} {value : Alpha} (holds : known machine.frame.invocation)
    (done : action machine = .ok value final) : Evolves host machine final :=
  (orderly.acts holds done).evolves

theorem weaken {action : Run Alpha} (orderly : Orderly host known silent tame cost growth action)
    (cheaper : laterCost ≤ cost) (higher : growth ≤ laterGrowth) :
    Orderly host known silent tame laterCost laterGrowth action where
  acts := orderly.acts
  keeps := orderly.keeps
  spends := fun holds done => by have := orderly.spends holds done; omega
  grows := fun holds done => by have := orderly.grows holds done; omega
  failed := orderly.failed
  stays := orderly.stays
  settles := orderly.settles

theorem strengthen {action : Run Alpha} {more : Invocation → Prop}
    (orderly : Orderly host known silent tame cost growth action)
    (stronger : ∀ invocation, more invocation → known invocation) :
    Orderly host more silent tame cost growth action where
  acts := fun holds => orderly.acts (stronger _ holds)
  keeps := fun isSilent holds => orderly.keeps isSilent (stronger _ holds)
  spends := fun holds => orderly.spends (stronger _ holds)
  grows := fun holds => orderly.grows (stronger _ holds)
  failed := fun holds => orderly.failed (stronger _ holds)
  stays := fun holds => orderly.stays (stronger _ holds)
  settles := fun isTame holds => orderly.settles isTame (stronger _ holds)

/-- Promises add up, and the later step may rely on what the first one has found out. The
invocation is the same after the first step, so what is known of it remains known. -/
theorem learn {first : Run Alpha} {next : Alpha → Run Beta}
    (before : Orderly host known silent tame cost growth first) (fact : Alpha → Invocation → Prop)
    (learns : ∀ {machine value final}, known machine.frame.invocation →
      first machine = .ok value final → fact value machine.frame.invocation)
    (after : ∀ value, Orderly host (fun invocation => known invocation ∧ fact value invocation)
      silent tame laterCost laterGrowth (next value)) :
    Orderly host known silent tame (cost + laterCost) (growth + laterGrowth) (first >>= next) := by
  have passes : ∀ {machine value middle}, known machine.frame.invocation →
      first machine = .ok value middle →
      known middle.frame.invocation ∧ fact value middle.frame.invocation := by
    intro machine value middle holds started
    rw [(before.evolves holds started).samePlace.context.invocation]
    exact ⟨holds, learns holds started⟩
  constructor
  case acts =>
    intro machine value final holds done
    obtain ⟨shown, middle, started, finished⟩ := bind_eq_ok.mp done
    have acted := before.acts holds started
    exact acted.trans ((after shown).acts (passes holds started) finished)
  case keeps =>
    intro machine value final isSilent holds done
    obtain ⟨shown, middle, started, finished⟩ := bind_eq_ok.mp done
    obtain ⟨sameWorld, sameSubstate⟩ := before.keeps isSilent holds started
    rcases (after shown).keeps isSilent (passes holds started) finished with
      ⟨sameWorldLater, sameSubstateLater⟩
    exact ⟨sameWorldLater.trans sameWorld, sameSubstateLater.trans sameSubstate⟩
  case spends =>
    intro machine value final holds done
    obtain ⟨shown, middle, started, finished⟩ := bind_eq_ok.mp done
    have spent := before.spends holds started
    have spentLater := (after shown).spends (passes holds started) finished
    omega
  case grows =>
    intro machine value final holds done
    obtain ⟨shown, middle, started, finished⟩ := bind_eq_ok.mp done
    have grown := before.grows holds started
    have grownLater := (after shown).grows (passes holds started) finished
    omega
  case failed =>
    intro machine cause final holds failed settled
    rcases bind_eq_error.mp failed with early | ⟨shown, middle, started, late⟩
    · exact before.failed holds early settled
    · exact (before.evolves holds started).trans
        ((after shown).failed (passes holds started) late settled)
  case stays =>
    intro machine cause final holds failed
    rcases bind_eq_error.mp failed with early | ⟨shown, middle, started, late⟩
    · exact before.stays holds early
    · have spent := before.spends holds started
      obtain ⟨waiting, spentLater⟩ := (after shown).stays (passes holds started) late
      have same := (before.evolves holds started).samePlace.suspended
      exact ⟨waiting.trans same, by omega⟩
  case settles =>
    intro machine cause final isTame holds failed granted
    rcases bind_eq_error.mp failed with early | ⟨shown, middle, started, late⟩
    · exact before.settles isTame holds early granted
    · exact (after shown).settles isTame (passes holds started) late granted

theorem bind {first : Run Alpha} {next : Alpha → Run Beta}
    (before : Orderly host known silent tame cost growth first)
    (after : ∀ value, Orderly host known silent tame laterCost laterGrowth (next value)) :
    Orderly host known silent tame (cost + laterCost) (growth + laterGrowth) (first >>= next) :=
  before.learn (fun _ _ => True) (fun _ _ => trivial)
    fun value => (after value).strengthen fun _ => And.left

/-- What is still to be promised after a first step. -/
theorem step {first : Run Alpha} {next : Alpha → Run Beta} {allCost : Nat} {allGrowth : Int}
    (before : Orderly host known silent tame cost growth first)
    (after : ∀ value, Orderly host known silent tame (allCost - cost) (allGrowth - growth) (next value)) :
    Orderly host known silent tame allCost allGrowth (first >>= next) :=
  (before.bind after).weaken (by omega) (by omega)

theorem branch {condition : Prop} [Decidable condition] {left right : Run Alpha}
    (yes : Orderly host known silent tame cost growth left)
    (no : Orderly host known silent tame cost growth right) :
    Orderly host known silent tame cost growth (if condition then left else right) := by
  split
  · exact yes
  · exact no

end Orderly

/-- A step that looks at the machine and leaves it as it is, or halts. -/
theorem orderly_of_looking {action : Run Alpha}
    (looks : ∀ {machine value final}, action machine = .ok value final → final = machine)
    (halts : ∀ {machine cause final}, action machine = .error cause final →
      cause.endsMessage = false ∧ final = machine) :
    Orderly host known silent tame 0 0 action where
  acts := fun _ done => by rw [looks done]
  keeps := fun _ _ done => by rw [looks done]; exact ⟨rfl, rfl⟩
  spends := fun _ done => by rw [looks done]; omega
  grows := fun _ done => by rw [looks done]; omega
  failed := fun _ failed _ => by rw [(halts failed).2]; exact .refl _
  stays := fun _ failed => by rw [(halts failed).2]; exact ⟨rfl, le_refl _⟩
  settles := fun _ _ failed _ => (halts failed).1

theorem orderly_pure (value : Alpha) : Orderly host known silent tame 0 0 (pure value : Run Alpha) :=
  orderly_of_looking (fun done => by cases done; rfl) (fun failed => by cases failed)

theorem orderly_get : Orderly host known silent tame 0 0 (get : Run Machine) :=
  orderly_of_looking (fun done => by cases done; rfl) (fun failed => by cases failed)

theorem orderly_frame (question : Frame → Alpha) :
    Orderly host known silent tame 0 0 (Run.frame question) :=
  orderly_of_looking (fun done => by cases done; rfl) (fun failed => by cases failed)

theorem orderly_ofHalting (answer : Except Halt Alpha) :
    Orderly host known silent tame 0 0 (Run.ofHalting answer) := by
  refine orderly_of_looking ?_ ?_
  · intro machine value final done
    exact (Run.ofHalting_eq_ok.mp done).2
  · intro machine cause final failed
    obtain ⟨reason, _, rfl, rfl⟩ := Run.ofHalting_eq_error.mp failed
    exact ⟨rfl, rfl⟩

/-- A halt promises anything of the machines it never reaches. -/
theorem orderly_halt (reason : Halt) (cost : Nat) (growth : Int) :
    Orderly host known silent tame cost growth (Run.halt reason : Run Alpha) where
  acts := fun _ done => by cases done
  keeps := fun _ _ done => by cases done
  spends := fun _ done => by cases done
  grows := fun _ done => by cases done
  failed := fun _ failed _ => by cases failed; exact .refl _
  stays := fun _ failed => by cases failed; exact ⟨rfl, le_refl _⟩
  settles := fun _ _ failed _ => by cases failed; rfl

/-- A step that ends the message never goes on, and its frame does not settle it. -/
theorem orderly_abort {cause : Failure} (fatal : cause.endsMessage = true) (cost : Nat)
    (growth : Int) : Orderly host known silent False cost growth (throw cause : Run Alpha) where
  acts := fun _ done => by cases done
  keeps := fun _ _ done => by cases done
  spends := fun _ done => by cases done
  grows := fun _ done => by cases done
  failed := fun _ failed settled => by cases failed; rw [fatal] at settled; cases settled
  stays := fun _ failed => by cases failed; exact ⟨rfl, le_refl _⟩
  settles := fun impossible => impossible.elim

namespace Orderly

variable {cost : Nat} {growth : Int}

/-- Stops with a halt if a condition holds. -/
theorem guard {condition : Prop} [Decidable condition] {reason : Halt} {rest : Unit → Run Alpha}
    (after : ¬condition → Orderly host known silent tame cost growth (rest ())) :
    Orderly host known silent tame cost growth
      (if condition then do rest (← Run.halt reason) else rest ()) := by
  split
  · exact orderly_halt reason cost growth
  · exact after ‹_›

/-- What follows a computation may rely on its result. -/
theorem given {answer : Except Halt Alpha} {next : Alpha → Run Beta}
    (after : ∀ value, answer = .ok value → Orderly host known silent tame cost growth (next value)) :
    Orderly host known silent tame cost growth (Run.ofHalting answer >>= next) := by
  cases answer with
  | error reason => exact orderly_halt reason cost growth
  | ok value => exact after value rfl

/-- A question about the invocation has the same answer for the rest of the frame. -/
theorem asking {next : Alpha → Run Beta} (question : Invocation → Alpha)
    (after : ∀ answer, Orderly host
      (fun invocation => known invocation ∧ answer = question invocation)
      silent tame cost growth (next answer)) :
    Orderly host known silent tame cost growth
      (Run.frame (fun frame => question frame.invocation) >>= next) := by
  refine Orderly.weaken (Orderly.learn (orderly_frame _) _ ?_ after) (by omega) (by omega)
  intro machine answer final _ asked
  cases asked
  rfl

end Orderly

theorem orderly_forbidStatic : Orderly host known silent tame 0 0 Run.forbidStatic :=
  ((orderly_frame _).bind fun _ =>
    .branch (orderly_halt _ 0 0) (orderly_pure _)).weaken (by omega) (by omega)

theorem isStatic_of_forbidStatic {machine final : Machine}
    (done : Run.forbidStatic machine = .ok () final) :
    machine.frame.invocation.isStatic = false ∧ final = machine := by
  obtain ⟨static, middle, asked, rest⟩ := bind_eq_ok.mp done
  cases asked
  by_cases isStatic : machine.frame.invocation.isStatic = true
  · simp only [if_pos isStatic, Run.halt_apply, reduceCtorEq] at rest
  · simp only [if_neg isStatic] at rest
    cases rest
    exact ⟨by simpa using isStatic, rfl⟩

/-- What comes after the question whether the frame is static happens in one that is not. -/
theorem Orderly.unlessStatic {next : Unit → Run Alpha} {cost : Nat} {growth : Int}
    (after : Orderly host (fun invocation => known invocation ∧ invocation.isStatic = false)
      silent tame cost growth (next ())) :
    Orderly host known silent tame cost growth (Run.forbidStatic >>= next) := by
  refine Orderly.weaken (Orderly.learn orderly_forbidStatic
    (fun _ invocation => invocation.isStatic = false) ?_ fun _ => after) (by omega) (by omega)
  intro machine _ final _ done
  exact (isStatic_of_forbidStatic done).1

/-- A computation that, if it succeeds, leaves the machine as it is. -/
def Looks (action : Run Alpha) : Prop :=
  ∀ {machine value final}, action machine = .ok value final → final = machine

theorem looks_pure (value : Alpha) : Looks (pure value : Run Alpha) := by
  intro machine shown final done
  cases done
  rfl

theorem looks_halt (reason : Halt) : Looks (Run.halt reason : Run Alpha) := by
  intro machine shown final done
  cases done

theorem looks_frame (question : Frame → Alpha) : Looks (Run.frame question) := by
  intro machine shown final done
  cases done
  rfl

theorem looks_ofHalting (answer : Except Halt Alpha) : Looks (Run.ofHalting answer) :=
  fun done => (Run.ofHalting_eq_ok.mp done).2

theorem looks_reading {access : Access Alpha} {view : World → Alpha}
    (reads : Access.Reads host.refusals access view) : Looks (Run.onWorld access) := by
  intro machine shown final done
  obtain ⟨world, looked, rfl⟩ := Run.onWorld_eq_ok.mp done
  rw [(reads.shows looked).2]

theorem looks_bind {first : Run Alpha} {next : Alpha → Run Beta} (early : Looks first)
    (late : ∀ value, Looks (next value)) : Looks (first >>= next) := by
  intro machine shown final done
  obtain ⟨value, middle, started, rest⟩ := bind_eq_ok.mp done
  rw [late value rest, early started]

theorem looks_branch {condition : Prop} [Decidable condition] {left right : Run Alpha}
    (first : Looks left) (second : Looks right) : Looks (if condition then left else right) := by
  split
  · exact first
  · exact second

end CancunMachine
