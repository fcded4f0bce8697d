import Mathlib.Tactic
import CancunMachine.Proofs.Evolution.Step

/-!
# First look, then pay, then work

An instruction goes through three phases: it looks at the machine, it pays, and it works. Looking
changes nothing but the return data, paying can only run out of gas while nothing else has changed,
and working never runs out of gas. A prudent step also leaves the frames that wait and the program
of its own frame alone, and if it is steady it does not move within that program.
-/

namespace CancunMachine

open Ending

variable {Alpha Beta : Type} {host : Host}

/-- A computation that leaves a view of the machine as it was, however it ends. -/
def Keeps {View : Type} (view : Machine → View) (action : Run Alpha) : Prop :=
  ∀ machine, view (reached (action machine)) = view machine

namespace Keeps

variable {View : Type} {view : Machine → View}

theorem bind {first : Run Alpha} {next : Alpha → Run Beta} (early : Keeps view first)
    (late : ∀ value, Keeps view (next value)) : Keeps view (first >>= next) := by
  intro machine
  have started := early machine
  cases ended : first machine with
  | error cause middle =>
      rw [bind_of_error ended]
      rw [ended] at started
      exact started
  | ok value middle =>
      rw [bind_of_ok ended]
      rw [ended] at started
      exact (late value middle).trans started

theorem attempt {action : Run Alpha} (keeps : Keeps view action) :
    Keeps view (Run.attempt action) := by
  intro machine
  have kept := keeps machine
  cases ended : action machine with
  | error cause middle =>
      rw [Run.attempt_of_error ended]
      rw [ended] at kept
      exact kept
  | ok value middle =>
      rw [Run.attempt_of_ok ended]
      rw [ended] at kept
      exact kept

theorem branch {condition : Prop} [Decidable condition] {left right : Run Alpha}
    (yes : Keeps view left) (no : Keeps view right) :
    Keeps view (if condition then left else right) := by
  split
  · exact yes
  · exact no

theorem of_ok {action : Run Alpha} {machine final : Machine} {value : Alpha}
    (keeps : Keeps view action) (done : action machine = .ok value final) :
    view final = view machine := by
  have kept := keeps machine
  rw [done] at kept
  exact kept

end Keeps

/-- The phases of an instruction; nothing is said about the order of a mixed step. -/
inductive Phase
  | looks
  | pays
  | works
  | mixed

/-- The frames that wait, the program of the running one and the halt queued there. -/
def Machine.setting (machine : Machine) : List Frame × Interned × Option Halt :=
  (machine.suspended, machine.frame.program, machine.frame.queuedHalt)

/-- Nothing has happened to a machine, except that the return data may have been replaced. -/
def Machine.Untouched (machine final : Machine) : Prop :=
  ∃ returnData, final = { machine with frame.returnData := returnData }

namespace Machine.Untouched

variable {machine middle final : Machine}

theorem refl (machine : Machine) : machine.Untouched machine := ⟨machine.frame.returnData, rfl⟩

theorem trans (early : machine.Untouched middle) (late : middle.Untouched final) :
    machine.Untouched final := by
  obtain ⟨_, rfl⟩ := early
  obtain ⟨returnData, rfl⟩ := late
  exact ⟨returnData, rfl⟩

end Machine.Untouched

/-- What a step in a phase promises. A silent step leaves world and substate alone. -/
structure Prudent (steady silent : Prop) (phase : Phase) (action : Run Alpha) : Prop where
  stays : Keeps Machine.setting action
  stands : steady → Keeps (·.frame.pc) action
  keeps : silent → Keeps (fun machine => (machine.world, machine.substate)) action
  looks : phase = .looks → ∀ {machine value final}, action machine = .ok value final →
    machine.Untouched final
  starves : phase = .looks ∨ phase = .pays → ∀ {machine final},
    action machine = .error (.halt .outOfGas) final → machine.Untouched final
  affords : phase = .works → ∀ {machine final}, action machine ≠ .error (.halt .outOfGas) final

namespace Prudent

variable {steady silent : Prop} {phase : Phase} {first : Run Alpha} {next : Alpha → Run Beta}

theorem mix {earlyPhase latePhase : Phase} (early : Prudent steady silent earlyPhase first)
    (late : ∀ value, Prudent steady silent latePhase (next value)) :
    Prudent steady silent .mixed (first >>= next) where
  stays := early.stays.bind fun value => (late value).stays
  stands := fun isSteady => (early.stands isSteady).bind fun value => (late value).stands isSteady
  keeps := fun isSilent => (early.keeps isSilent).bind fun value => (late value).keeps isSilent
  looks := nofun
  starves := by simp
  affords := nofun

/-- After a look anything may follow. -/
theorem look (early : Prudent steady silent .looks first) (unpaid : phase ≠ .works)
    (late : ∀ value, Prudent steady silent phase (next value)) :
    Prudent steady silent phase (first >>= next) :=
  { mix early late with
    looks := by
      intro isLook machine value final done
      obtain ⟨shown, middle, started, finished⟩ := bind_eq_ok.mp done
      exact (early.looks rfl started).trans ((late shown).looks isLook finished)
    starves := by
      intro isEarly machine final failed
      rcases bind_eq_error.mp failed with starved | ⟨shown, middle, started, starved⟩
      · exact early.starves (.inl rfl) starved
      · exact (early.looks rfl started).trans ((late shown).starves isEarly starved)
    affords := fun isWork => absurd isWork unpaid }

/-- After paying there is only work left. -/
theorem pay (early : Prudent steady silent .pays first)
    (late : ∀ value, Prudent steady silent .works (next value)) :
    Prudent steady silent .pays (first >>= next) :=
  { mix early late with
    looks := nofun
    starves := by
      intro _ machine final failed
      rcases bind_eq_error.mp failed with starved | ⟨shown, middle, _, starved⟩
      · exact early.starves (.inr rfl) starved
      · exact absurd starved ((late shown).affords rfl)
    affords := nofun }

theorem work (early : Prudent steady silent .works first)
    (late : ∀ value, Prudent steady silent .works (next value)) :
    Prudent steady silent .works (first >>= next) :=
  { mix early late with
    looks := nofun
    starves := by simp
    affords := by
      intro _ machine final failed
      rcases bind_eq_error.mp failed with starved | ⟨shown, middle, _, starved⟩
      · exact early.affords rfl starved
      · exact (late shown).affords rfl starved }

/-- A look that never runs out of gas fits into every phase. -/
theorem ask (early : ∀ {phase}, Prudent steady silent phase first)
    (late : ∀ value, Prudent steady silent phase (next value)) :
    Prudent steady silent phase (first >>= next) := by
  cases phase with
  | looks => exact look early nofun late
  | pays => exact look early nofun late
  | works => exact work early late
  | mixed => exact look early nofun late

theorem relax {action : Run Alpha} {lessSteady lessSilent : Prop}
    (prudent : Prudent steady silent phase action) (steadier : lessSteady → steady)
    (quieter : lessSilent → silent) : Prudent lessSteady lessSilent phase action :=
  { prudent with
    stands := fun isSteady => prudent.stands (steadier isSteady)
    keeps := fun isSilent => prudent.keeps (quieter isSilent) }

/-- Whoever only looks or only works does not pay more than once. -/
theorem atMostPays {action : Run Alpha} (prudent : Prudent steady silent phase action)
    (ordered : phase ≠ .mixed) : Prudent steady silent .pays action :=
  { prudent with
    looks := nofun
    starves := by
      intro _ machine final starved
      cases phase with
      | looks => exact prudent.starves (.inl rfl) starved
      | pays => exact prudent.starves (.inr rfl) starved
      | works => exact absurd starved (prudent.affords rfl)
      | mixed => exact absurd rfl ordered
    affords := nofun }

theorem branch {condition : Prop} [Decidable condition] {left right : Run Alpha}
    (yes : Prudent steady silent phase left) (no : Prudent steady silent phase right) :
    Prudent steady silent phase (if condition then left else right) := by
  split
  · exact yes
  · exact no

end Prudent

variable {steady silent : Prop} {phase : Phase}

/-- A step that changes nothing and runs out of gas in its time only. -/
theorem prudent_of_looking {action : Run Alpha}
    (looks : ∀ {machine value final}, action machine = .ok value final → final = machine)
    (fails : ∀ {machine cause final}, action machine = .error cause final → final = machine)
    (affords : phase = .works → ∀ {machine final},
      action machine ≠ .error (.halt .outOfGas) final) :
    Prudent steady silent phase action := by
  have same : ∀ machine, reached (action machine) = machine := by
    intro machine
    cases ended : action machine with
    | ok value final => exact looks ended
    | error cause final => exact fails ended
  constructor
  case stays => exact fun machine => by rw [same]
  case stands => exact fun _ machine => by rw [same]
  case keeps => exact fun _ machine => by rw [same]
  case looks => exact fun _ _ _ _ done => by rw [looks done]; exact .refl _
  case starves => exact fun _ _ _ starved => by rw [fails starved]; exact .refl _
  case affords => exact affords

theorem prudent_pure (value : Alpha) : Prudent steady silent phase (pure value : Run Alpha) :=
  prudent_of_looking (fun done => by cases done; rfl) (fun failed => by cases failed)
    fun _ _ _ failed => by cases failed

theorem prudent_get : Prudent steady silent phase (get : Run Machine) :=
  prudent_of_looking (fun done => by cases done; rfl) (fun failed => by cases failed)
    fun _ _ _ failed => by cases failed

theorem prudent_frame (question : Frame → Alpha) :
    Prudent steady silent phase (Run.frame question) :=
  prudent_of_looking (fun done => by cases done; rfl) (fun failed => by cases failed)
    fun _ _ _ failed => by cases failed

theorem prudent_throw {cause : Failure} (affords : phase = .works → cause ≠ .halt .outOfGas) :
    Prudent steady silent phase (throw cause : Run Alpha) := by
  refine prudent_of_looking (fun done => by cases done) (fun failed => by cases failed; rfl) ?_
  intro isWork machine final failed
  cases failed
  exact affords isWork rfl

/-- Only somebody who works may not run out of gas. -/
theorem prudent_halt {reason : Halt} (affords : phase = .works → reason ≠ .outOfGas) :
    Prudent steady silent phase (Run.halt reason : Run Alpha) :=
  prudent_throw fun isWork same => affords isWork (Failure.halt.inj same)

theorem prudent_ofHalting (answer : Except Halt Alpha) (unpaid : phase ≠ .works) :
    Prudent steady silent phase (Run.ofHalting answer) := by
  refine prudent_of_looking ?_ ?_ fun isWork => absurd isWork unpaid
  · exact fun done => (Run.ofHalting_eq_ok.mp done).2
  · intro machine cause final failed
    obtain ⟨_, _, _, same⟩ := Run.ofHalting_eq_error.mp failed
    exact same

/-- Before anything is paid, a price may turn out to be beyond all means. -/
theorem Prudent.measure {answer : Except Halt Alpha} {next : Alpha → Run Beta}
    (late : ∀ value, Prudent steady silent .pays (next value)) :
    Prudent steady silent .pays (Run.ofHalting answer >>= next) :=
  .look (prudent_ofHalting answer nofun) nofun late

theorem Prudent.examine {answer : Except Halt Alpha} {next : Alpha → Run Beta}
    (late : ∀ value, Prudent steady silent .looks (next value)) :
    Prudent steady silent .looks (Run.ofHalting answer >>= next) :=
  .look (prudent_ofHalting answer nofun) nofun late

/-- Whoever cannot go on stops before anything was paid. -/
theorem Prudent.guard {condition : Prop} [Decidable condition] {reason : Halt}
    {rest : Unit → Run Alpha} (late : Prudent steady silent .pays (rest ())) :
    Prudent steady silent .pays
      (if condition then do rest (← Run.halt reason) else rest ()) := by
  apply Prudent.branch
  · exact .look (prudent_halt nofun) nofun fun _ => late
  · exact late

/-- An answer that is not that the gas has run out. -/
theorem prudent_answer {answer : Machine → Except Halt Alpha}
    (affords : ∀ machine, answer machine ≠ .error .outOfGas) :
    Prudent steady silent phase (do Run.ofHalting (answer (← get)) : Run Alpha) := by
  have opened : ∀ machine : Machine, (do Run.ofHalting (answer (← get)) : Run Alpha) machine =
      Run.ofHalting (answer machine) machine := fun machine => bind_of_ok (get_apply machine)
  refine prudent_of_looking ?_ ?_ ?_
  · intro machine value final done
    rw [opened] at done
    exact (Run.ofHalting_eq_ok.mp done).2
  · intro machine cause final failed
    rw [opened] at failed
    obtain ⟨_, _, _, same⟩ := Run.ofHalting_eq_error.mp failed
    exact same
  · intro _ machine final failed
    rw [opened] at failed
    obtain ⟨reason, answered, same, _⟩ := Run.ofHalting_eq_error.mp failed
    cases same
    exact affords machine answered

theorem prudent_peek (count : Nat) : Prudent steady silent phase (Run.peek count) := by
  refine prudent_answer fun machine => ?_
  unfold Stack.peek
  split <;> simp

theorem prudent_peekOne : Prudent steady silent phase Run.peekOne :=
  .ask (prudent_peek 1) fun _ => prudent_pure _

theorem prudent_peekTwo : Prudent steady silent phase Run.peekTwo :=
  .ask (prudent_peek 2) fun _ => prudent_pure _

theorem prudent_peekThree : Prudent steady silent phase Run.peekThree :=
  .ask (prudent_peek 3) fun _ => prudent_pure _

theorem prudent_peekFour : Prudent steady silent phase Run.peekFour :=
  .ask (prudent_peek 4) fun _ => prudent_pure _

theorem prudent_forbidStatic : Prudent steady silent phase Run.forbidStatic :=
  .ask (prudent_frame _) fun _ => .branch (prudent_halt fun _ => nofun) (prudent_pure _)

theorem prudent_isColdAddress (address : Address) :
    Prudent steady silent phase (Run.isColdAddress address) :=
  .ask prudent_get fun _ => prudent_pure _

theorem prudent_isColdSlot (address : Address) (key : Word) :
    Prudent steady silent phase (Run.isColdSlot address key) :=
  .ask prudent_get fun _ => prudent_pure _

/-- A store that refuses to be looked at has not taken the gas. -/
theorem prudent_reading {access : Access Alpha} {view : World → Alpha}
    (reads : Access.Reads host.refusals access view) :
    Prudent steady silent phase (Run.onWorld access) := by
  refine prudent_of_looking (looks_reading reads) ?_ ?_
  · intro machine cause final failed
    obtain ⟨_, world, refused, _, rfl⟩ := Run.onWorld_eq_error.mp failed
    rw [reads.refuses refused]
  · intro _ machine final failed
    obtain ⟨_, _, _, impossible, _⟩ := Run.onWorld_eq_error.mp failed
    cases impossible

/-- Replacing the return data counts as nothing. -/
theorem prudent_setReturnData (data : ByteArray) :
    Prudent steady silent phase
      (Run.modifyFrame fun frame => { frame with returnData := data }) where
  stays := fun _ => rfl
  stands := fun _ _ => rfl
  keeps := fun _ _ => rfl
  looks := fun _ _ _ _ done => by cases done; exact ⟨data, rfl⟩
  starves := fun _ _ _ failed => by cases failed
  affords := fun _ _ _ failed => by cases failed

theorem prudent_charge (cost : UInt64) : Prudent steady silent .pays (Run.charge cost) where
  stays := by
    intro machine
    cases ended : Run.charge cost machine with
    | ok value final => rw [(Run.charge_eq_ok.mp ended).2]; rfl
    | error cause final =>
        obtain ⟨_, _, _, rfl⟩ := Run.updateFrame_eq_error.mp ended
        rfl
  stands := by
    intro _ machine
    cases ended : Run.charge cost machine with
    | ok value final => rw [(Run.charge_eq_ok.mp ended).2]; rfl
    | error cause final =>
        obtain ⟨_, _, _, rfl⟩ := Run.updateFrame_eq_error.mp ended
        rfl
  keeps := by
    intro _ machine
    cases ended : Run.charge cost machine with
    | ok value final => rw [(Run.charge_eq_ok.mp ended).2]; rfl
    | error cause final =>
        obtain ⟨_, _, _, rfl⟩ := Run.updateFrame_eq_error.mp ended
        rfl
  looks := nofun
  starves := by
    intro _ machine final failed
    obtain ⟨_, _, _, rfl⟩ := Run.updateFrame_eq_error.mp failed
    exact .refl _
  affords := nofun

theorem prudent_chargeCost (cost : Except Halt UInt64) :
    Prudent steady silent .pays (Run.chargeCost cost) :=
  .look (prudent_ofHalting _ nofun) nofun fun price => prudent_charge price

/-- A part of the gas that is left can always be paid, whatever else it costs. -/
theorem prudent_chargeShare {share : UInt64 → UInt64} {rest : UInt64 → Run Alpha}
    (within : ∀ gas, share gas ≤ gas)
    (late : ∀ gas, Prudent steady silent .works (rest gas)) :
    Prudent steady silent .works (do
      let gas ← Run.frame (·.gas)
      Run.charge (share gas)
      rest gas) := by
  have asked : Prudent steady silent .mixed (Run.frame (·.gas)) := prudent_frame _
  have charges := asked.mix fun gas => (prudent_charge (share gas)).mix fun _ => late gas
  exact { charges with
    looks := nofun
    starves := by simp
    affords := by
      intro _ machine final failed
      rcases bind_eq_error.mp failed with unasked | ⟨gas, _, asked, failed⟩
      · cases unasked
      cases asked
      rcases bind_eq_error.mp failed with unpaid | ⟨_, _, _, starved⟩
      · obtain ⟨reason, refused, _, _⟩ := Run.updateFrame_eq_error.mp unpaid
        rw [Frame.charge, if_pos (within _)] at refused
        cases refused
      · exact (late _).affords rfl starved }

/-- Work that changes what it may and does not fail for want of gas. -/
theorem prudent_of_working {action : Run Alpha}
    (done : ∀ {machine value final}, action machine = .ok value final →
      final.setting = machine.setting ∧ (steady → final.frame.pc = machine.frame.pc) ∧
        (silent → final.world = machine.world ∧ final.substate = machine.substate))
    (failed : ∀ {machine cause final}, action machine = .error cause final →
      final.setting = machine.setting ∧ final.frame.pc = machine.frame.pc ∧
        (silent → final.world = machine.world ∧ final.substate = machine.substate) ∧
        cause ≠ .halt .outOfGas) :
    Prudent steady silent .works action where
  stays := by
    intro machine
    cases ended : action machine with
    | ok value final => exact (done ended).1
    | error cause final => exact (failed ended).1
  stands := by
    intro isSteady machine
    cases ended : action machine with
    | ok value final => exact (done ended).2.1 isSteady
    | error cause final => exact (failed ended).2.1
  keeps := by
    intro isSilent machine
    cases ended : action machine with
    | ok value final =>
        obtain ⟨world, substate⟩ := (done ended).2.2 isSilent
        exact Prod.ext world substate
    | error cause final =>
        obtain ⟨world, substate⟩ := (failed ended).2.2.1 isSilent
        exact Prod.ext world substate
  looks := nofun
  starves := by simp
  affords := fun _ _ _ starved => (failed starved).2.2.2 rfl

theorem prudent_updateStack (change : Stack → Except Halt Stack)
    (affords : ∀ stack, change stack ≠ .error .outOfGas) :
    Prudent steady silent .works (Run.updateStack change) := by
  refine prudent_of_working ?_ ?_
  · intro machine _ final done
    obtain ⟨stack, _, rfl⟩ := Run.updateStack_eq_ok.mp done
    exact ⟨rfl, fun _ => rfl, fun _ => ⟨rfl, rfl⟩⟩
  · intro machine cause final failed
    obtain ⟨reason, refused, rfl, rfl⟩ := Run.updateStack_eq_error.mp failed
    refine ⟨rfl, rfl, fun _ => ⟨rfl, rfl⟩, ?_⟩
    rintro ⟨⟩
    exact affords _ refused

theorem prudent_push (word : Word) : Prudent steady silent .works (Run.push word) := by
  refine prudent_updateStack _ fun stack => ?_
  unfold Stack.push
  split <;> simp

theorem prudent_drop (count : Nat) : Prudent steady silent .works (Run.drop count) := by
  refine prudent_updateStack _ fun stack => ?_
  unfold Stack.drop
  split <;> simp

theorem prudent_dup (index : Nat) :
    Prudent steady silent .works (Run.updateStack (·.dup index)) := by
  refine prudent_updateStack _ fun stack => ?_
  unfold Stack.dup Stack.push
  split
  · split <;> simp
  · simp

theorem prudent_swap (index : Nat) :
    Prudent steady silent .works (Run.updateStack (·.swap index)) := by
  refine prudent_updateStack _ fun stack => ?_
  unfold Stack.swap
  split <;> simp

theorem prudent_pop (count : Nat) : Prudent steady silent .works (Run.pop count) :=
  .ask (prudent_peek count) fun _ => (prudent_drop count).work fun _ => prudent_pure _

theorem prudent_popOne : Prudent steady silent .works Run.popOne :=
  .ask prudent_peekOne fun _ => (prudent_drop 1).work fun _ => prudent_pure _

theorem prudent_popTwo : Prudent steady silent .works Run.popTwo :=
  .ask prudent_peekTwo fun _ => (prudent_drop 2).work fun _ => prudent_pure _

theorem prudent_popThree : Prudent steady silent .works Run.popThree :=
  .ask prudent_peekThree fun _ => (prudent_drop 3).work fun _ => prudent_pure _

theorem prudent_onMemory {action : Memory.Action Alpha}
    (affords : ∀ memory left, action memory ≠ .error (.halt .outOfGas) left) :
    Prudent steady silent .works (Run.onMemory action) := by
  refine prudent_of_working ?_ ?_
  · intro machine value final done
    obtain ⟨memory, _, rfl⟩ := Run.onMemory_eq_ok.mp done
    exact ⟨rfl, fun _ => rfl, fun _ => ⟨rfl, rfl⟩⟩
  · intro machine cause final failed
    obtain ⟨left, refused, rfl⟩ := Run.onMemory_eq_error.mp failed
    refine ⟨rfl, rfl, fun _ => ⟨rfl, rfl⟩, ?_⟩
    rintro rfl
    exact affords _ _ refused

/-- An action that fails only where the memory cannot grow does not want for gas. -/
theorem prudent_haltsUnchanged {action : Memory.Action Alpha} (halts : action.HaltsUnchanged) :
    Prudent steady silent .works (Run.onMemory action) :=
  prudent_onMemory fun _ _ failed => nomatch (halts failed).1

theorem prudent_load (offset size : Nat) :
    Prudent steady silent .works (Run.onMemory (Memory.load offset size)) :=
  prudent_haltsUnchanged (Memory.haltsUnchanged_load offset size)

theorem prudent_grow (needed : Nat) :
    Prudent steady silent .works (Run.onMemory (Memory.grow needed)) :=
  prudent_haltsUnchanged (Memory.haltsUnchanged_grow needed)

theorem prudent_store (offset : Nat) (data : ByteArray) :
    Prudent steady silent .works (Run.onMemory (Memory.store offset data)) :=
  prudent_haltsUnchanged (Memory.haltsUnchanged_store offset data)

theorem prudent_storePadded (offset size : Nat) (data : ByteArray) :
    Prudent steady silent .works (Run.onMemory (Memory.storePadded offset data size)) :=
  prudent_haltsUnchanged (Memory.haltsUnchanged_storePadded offset data size)

/-- A copy that cannot be measured is a fault of the machine, and not a want of gas. -/
theorem prudent_copyWithin (source target size : Nat) :
    Prudent steady silent .works (Run.onMemory (Memory.copyWithin source target size)) := by
  refine prudent_onMemory fun memory left failed => ?_
  by_cases within : size = 0 ∨ max source target + size < positionLimit
  · cases (Memory.haltsUnchanged_copyWithin within failed).1
  · obtain ⟨_, beyond⟩ := not_or.mp within
    have known := (Memory.copyWithin_eq_error failed).2
    rw [if_neg beyond] at known
    cases known.1

theorem prudent_modifyFrame (change : Frame → Frame)
    (program : ∀ frame, (change frame).program = frame.program)
    (queuedHalt : ∀ frame, (change frame).queuedHalt = frame.queuedHalt)
    (stands : steady → ∀ frame, (change frame).pc = frame.pc) :
    Prudent steady silent .works (Run.modifyFrame change) := by
  refine prudent_of_working ?_ ?_
  · intro machine _ final done
    cases done
    refine ⟨?_, fun isSteady => stands isSteady _, fun _ => ⟨rfl, rfl⟩⟩
    rw [Machine.setting, Machine.setting, program, queuedHalt]
  · intro machine cause final failed
    cases failed

theorem prudent_advance (count : Nat) :
    Prudent False silent .works (Run.modifyFrame (·.advance count)) :=
  prudent_modifyFrame _ (fun _ => rfl) (fun _ => rfl) False.elim

/-- A jump leaves the place where its frame stood. -/
theorem prudent_jump (destination : Word) :
    Prudent False silent .works (Run.updateFrame (·.jump destination)) := by
  refine prudent_of_working ?_ ?_
  · intro machine _ final done
    obtain ⟨next, jumped, rfl⟩ := Run.updateFrame_eq_ok.mp done
    unfold Frame.jump at jumped
    split at jumped
    · cases jumped
      exact ⟨rfl, False.elim, fun _ => ⟨rfl, rfl⟩⟩
    · cases jumped
  · intro machine cause final failed
    obtain ⟨reason, refused, rfl, rfl⟩ := Run.updateFrame_eq_error.mp failed
    refine ⟨rfl, rfl, fun _ => ⟨rfl, rfl⟩, ?_⟩
    rintro ⟨⟩
    unfold Frame.jump at refused
    split at refused <;> cases refused

/-- Any access to the world is work; what it does there is not said. -/
theorem prudent_onWorld (access : Access Alpha) :
    Prudent steady False .works (Run.onWorld access) := by
  refine prudent_of_working ?_ ?_
  · intro machine value final done
    obtain ⟨world, _, rfl⟩ := Run.onWorld_eq_ok.mp done
    exact ⟨rfl, fun _ => rfl, False.elim⟩
  · intro machine cause final failed
    obtain ⟨_, world, _, rfl, rfl⟩ := Run.onWorld_eq_error.mp failed
    exact ⟨rfl, rfl, False.elim, nofun⟩

/-- Work beside the frame, the world and the substate. -/
theorem prudent_of_recording {action : Run Alpha}
    (done : ∀ machine, ∃ value warmth cache pool events, action machine =
      .ok value { machine with warmth, cache, pool, events }) :
    Prudent steady silent .works action := by
  refine prudent_of_working ?_ ?_
  · intro machine value final ended
    obtain ⟨_, _, _, _, _, same⟩ := done machine
    rw [same] at ended
    cases ended
    exact ⟨rfl, fun _ => rfl, fun _ => ⟨rfl, rfl⟩⟩
  · intro machine cause final failed
    obtain ⟨_, _, _, _, _, same⟩ := done machine
    rw [same] at failed
    cases failed

theorem prudent_warmAddress (address : Address) :
    Prudent steady silent .works (Run.warmAddress address) :=
  prudent_of_recording fun _ => ⟨_, _, _, _, _, rfl⟩

theorem prudent_warmSlot (address : Address) (key : Word) :
    Prudent steady silent .works (Run.warmSlot address key) :=
  prudent_of_recording fun _ => ⟨_, _, _, _, _, rfl⟩

theorem prudent_record (event : Event) : Prudent steady silent .works (Run.record event) :=
  prudent_of_recording fun _ => ⟨_, _, _, _, _, rfl⟩

theorem prudent_trace (event : Event) : Prudent steady silent .works (Run.trace host event) :=
  .branch (prudent_record event) (prudent_pure _)

theorem prudent_makeProgram (code : ByteArray) :
    Prudent steady silent .works (Run.makeProgram code) :=
  prudent_of_recording fun _ => ⟨_, _, _, _, _, rfl⟩

theorem prudent_takeBuffers : Prudent steady silent .works (Run.takeBuffers host) := by
  refine prudent_of_recording fun machine => ?_
  unfold Run.takeBuffers
  split
  · exact ⟨_, _, _, _, _, rfl⟩
  · exact ⟨_, _, _, _, _, rfl⟩

theorem prudent_modifySubstate (change : Substate → Substate) :
    Prudent steady False .works (Run.modifySubstate change) := by
  refine prudent_of_working ?_ ?_
  · intro machine _ final done
    cases done
    exact ⟨rfl, fun _ => rfl, False.elim⟩
  · intro machine cause final failed
    cases failed

end CancunMachine
