import Mathlib.Tactic
import CancunMachine.Proofs.Evolution.Conduct
import CancunMachine.Proofs.Memory
import CancunMachine.Proofs.Warmth

/-!
# The conduct of the elementary steps

Every step that instructions are made of is orderly: it computes within the frame, or makes one of
the changes that a frame can make, and it fails only with a halt.
-/

namespace CancunMachine

open Ending

variable {Alpha : Type} {host : Host} {known : Invocation → Prop} {silent tame : Prop}

/-- A step that changes the frame and nothing else, or halts. -/
theorem orderly_of_computing {action : Run Alpha} {cost : Nat} {growth : Int}
    (computes : ∀ {machine value final}, action machine = .ok value final →
      ∃ next, machine.frame.SameContext next ∧ final = { machine with frame := next } ∧
        next.gas.toNat + cost ≤ machine.frame.gas.toNat ∧
        (next.stack.size : Int) ≤ machine.frame.stack.size + growth)
    (halts : ∀ {machine cause final}, action machine = .error cause final →
      cause.endsMessage = false ∧ final = machine) :
    Orderly host known silent tame cost growth action := by
  constructor
  case settles => exact fun _ _ failed _ => (halts failed).1
  case acts =>
    intro machine value final _ done
    obtain ⟨next, same, rfl, _⟩ := computes done
    exact .single (.compute next same)
  case keeps =>
    intro machine value final _ _ done
    obtain ⟨next, _, rfl, _⟩ := computes done
    exact ⟨rfl, rfl⟩
  case spends =>
    intro machine value final _ done
    obtain ⟨next, _, rfl, spent, _⟩ := computes done
    exact spent
  case grows =>
    intro machine value final _ done
    obtain ⟨next, _, rfl, _, grown⟩ := computes done
    exact grown
  case failed =>
    intro machine cause final _ failed _
    rw [(halts failed).2]
    exact .refl _
  case stays =>
    intro machine cause final _ failed
    rw [(halts failed).2]
    exact ⟨rfl, le_refl _⟩

theorem orderly_modifyFrame (change : Frame → Frame)
    (same : ∀ frame : Frame, frame.SameContext (change frame))
    (sameGas : ∀ frame : Frame, (change frame).gas = frame.gas)
    (sameStack : ∀ frame : Frame, (change frame).stack = frame.stack) :
    Orderly host known silent tame 0 0 (Run.modifyFrame change) := by
  refine orderly_of_computing ?_ ?_
  · intro machine _ final done
    cases done
    refine ⟨change machine.frame, same _, rfl, ?_, ?_⟩
    · rw [sameGas]
      omega
    · rw [sameStack]
      omega
  · intro machine cause final failed
    cases failed

theorem orderly_advance (count : Nat) :
    Orderly host known silent tame 0 0 (Run.modifyFrame (·.advance count)) :=
  orderly_modifyFrame _ (fun _ => ⟨rfl, rfl, rfl⟩) (fun _ => rfl) (fun _ => rfl)

theorem orderly_setReturnData (data : ByteArray) :
    Orderly host known silent tame 0 0
      (Run.modifyFrame fun frame => { frame with returnData := data }) :=
  orderly_modifyFrame _ (fun _ => ⟨rfl, rfl, rfl⟩) (fun _ => rfl) (fun _ => rfl)

theorem orderly_setFrameOutput (output : ByteArray) :
    Orderly host known silent tame 0 0 (Run.modifyFrame fun frame => { frame with output }) :=
  orderly_modifyFrame _ (fun _ => ⟨rfl, rfl, rfl⟩) (fun _ => rfl) (fun _ => rfl)

theorem orderly_setLastWrite (write : Option (Word × Word)) :
    Orderly host known silent tame 0 0
      (Run.modifyFrame fun frame => { frame with lastWrite := write }) :=
  orderly_modifyFrame _ (fun _ => ⟨rfl, rfl, rfl⟩) (fun _ => rfl) (fun _ => rfl)

theorem orderly_clearQueuedHalt :
    Orderly host known silent tame 0 0
      (Run.modifyFrame fun frame => { frame with queuedHalt := none }) :=
  orderly_modifyFrame _ (fun _ => ⟨rfl, rfl, rfl⟩) (fun _ => rfl) (fun _ => rfl)

theorem orderly_charge (cost : UInt64) :
    Orderly host known silent tame cost.toNat 0 (Run.charge cost) := by
  refine orderly_of_computing ?_ ?_
  · intro machine _ final done
    obtain ⟨enough, rfl⟩ := Run.charge_eq_ok.mp done
    refine ⟨{ machine.frame with gas := machine.frame.gas - cost }, ⟨rfl, rfl, rfl⟩, rfl, ?_, ?_⟩
    · simp only [UInt64.toNat_sub_of_le _ _ enough]
      have := UInt64.le_iff_toNat_le.mp enough
      omega
    · simp
  · intro machine cause final failed
    obtain ⟨reason, _, rfl, rfl⟩ := Run.updateFrame_eq_error.mp failed
    exact ⟨rfl, rfl⟩

/-- A computed cost is at least any of its lower bounds. -/
theorem orderly_chargeCost (cost : Except Halt UInt64) (least : Nat)
    (bounded : ∀ price, cost = .ok price → least ≤ price.toNat) :
    Orderly host known silent tame least 0 (Run.chargeCost cost) := by
  cases cost with
  | error reason => exact orderly_halt reason least 0
  | ok price => exact (orderly_charge price).weaken (bounded price rfl) (le_refl _)

theorem orderly_updateStack (change : Stack → Except Halt Stack) (growth : Int)
    (bounded : ∀ stack next, change stack = .ok next → (next.size : Int) ≤ stack.size + growth) :
    Orderly host known silent tame 0 growth (Run.updateStack change) := by
  refine orderly_of_computing ?_ ?_
  · intro machine _ final done
    obtain ⟨stack, changed, rfl⟩ := Run.updateStack_eq_ok.mp done
    exact ⟨{ machine.frame with stack }, ⟨rfl, rfl, rfl⟩, rfl, le_refl _, bounded _ _ changed⟩
  · intro machine cause final failed
    obtain ⟨reason, _, rfl, rfl⟩ := Run.updateStack_eq_error.mp failed
    exact ⟨rfl, rfl⟩

theorem orderly_push (word : Word) : Orderly host known silent tame 0 1 (Run.push word) := by
  refine orderly_updateStack _ 1 ?_
  intro stack next pushed
  unfold Stack.push at pushed
  split at pushed
  · cases pushed
    simp [Stack.size]
  · cases pushed

/-- Dropping operands really makes the stack smaller. -/
theorem orderly_drop (count : Nat) : Orderly host known silent tame 0 (-count) (Run.drop count) := by
  refine orderly_updateStack _ (-count) ?_
  intro stack next dropped
  unfold Stack.drop at dropped
  split at dropped
  · cases dropped
    simp only [Stack.size, Array.size_shrink]
    omega
  · cases dropped

theorem orderly_dup (index : Nat) :
    Orderly host known silent tame 0 1 (Run.updateStack (·.dup index)) := by
  refine orderly_updateStack _ 1 ?_
  intro stack next duplicated
  unfold Stack.dup at duplicated
  split at duplicated
  · unfold Stack.push at duplicated
    split at duplicated
    · cases duplicated
      simp [Stack.size]
    · cases duplicated
  · cases duplicated

theorem orderly_swap (index : Nat) :
    Orderly host known silent tame 0 0 (Run.updateStack (·.swap index)) := by
  refine orderly_updateStack _ 0 ?_
  intro stack next swapped
  unfold Stack.swap at swapped
  split at swapped
  · cases swapped
    simp [Stack.size]
  · cases swapped

theorem orderly_peek (count : Nat) : Orderly host known silent tame 0 0 (Run.peek count) :=
  (orderly_get.bind fun _ => orderly_ofHalting _).weaken (by omega) (by omega)

theorem orderly_peekOne : Orderly host known silent tame 0 0 Run.peekOne :=
  ((orderly_peek 1).bind fun _ => orderly_pure _).weaken (by omega) (by omega)

theorem orderly_peekTwo : Orderly host known silent tame 0 0 Run.peekTwo :=
  ((orderly_peek 2).bind fun _ => orderly_pure _).weaken (by omega) (by omega)

theorem orderly_peekThree : Orderly host known silent tame 0 0 Run.peekThree :=
  ((orderly_peek 3).bind fun _ => orderly_pure _).weaken (by omega) (by omega)

theorem orderly_peekFour : Orderly host known silent tame 0 0 Run.peekFour :=
  ((orderly_peek 4).bind fun _ => orderly_pure _).weaken (by omega) (by omega)

theorem orderly_pop (count : Nat) : Orderly host known silent tame 0 (-count) (Run.pop count) :=
  ((orderly_peek count).bind fun _ => (orderly_drop count).bind fun _ =>
    orderly_pure _).weaken (by omega) (by omega)

theorem orderly_popOne : Orderly host known silent tame 0 (-1) Run.popOne :=
  (orderly_peekOne.bind fun _ => (orderly_drop 1).bind fun _ =>
    orderly_pure _).weaken (by omega) (by omega)

theorem orderly_popTwo : Orderly host known silent tame 0 (-2) Run.popTwo :=
  (orderly_peekTwo.bind fun _ => (orderly_drop 2).bind fun _ =>
    orderly_pure _).weaken (by omega) (by omega)

theorem orderly_popThree : Orderly host known silent tame 0 (-3) Run.popThree :=
  (orderly_peekThree.bind fun _ => (orderly_drop 3).bind fun _ =>
    orderly_pure _).weaken (by omega) (by omega)

theorem orderly_onMemory {action : Memory.Action Alpha} (halts : action.HaltsUnchanged) :
    Orderly host known silent tame 0 0 (Run.onMemory action) := by
  refine orderly_of_computing ?_ ?_
  · intro machine value final done
    obtain ⟨memory, _, rfl⟩ := Run.onMemory_eq_ok.mp done
    exact ⟨{ machine.frame with memory }, ⟨rfl, rfl, rfl⟩, rfl, le_refl _, by simp⟩
  · intro machine cause final failed
    obtain ⟨left, refused, rfl⟩ := Run.onMemory_eq_error.mp failed
    obtain ⟨rfl, rfl⟩ := halts refused
    exact ⟨rfl, rfl⟩

theorem orderly_memorySize : Orderly host known silent tame 0 0 Run.memorySize := orderly_frame _

theorem orderly_position (word : Word) : Orderly host known silent tame 0 0 (Run.position word) :=
  orderly_ofHalting _

theorem orderly_range (size offset : Word) :
    Orderly host known silent tame 0 0 (Run.range size offset) :=
  orderly_ofHalting _

theorem orderly_reach (offset size : Nat) :
    Orderly host known silent tame 0 0 (Run.reach offset size) :=
  orderly_ofHalting _

theorem orderly_jump (destination : Word) :
    Orderly host known silent tame 0 0 (Run.updateFrame (·.jump destination)) := by
  refine orderly_of_computing ?_ ?_
  · intro machine _ final done
    obtain ⟨next, jumped, rfl⟩ := Run.updateFrame_eq_ok.mp done
    unfold Frame.jump at jumped
    split at jumped
    · cases jumped
      exact ⟨{ machine.frame with pc := destination.toNatSaturating }, ⟨rfl, rfl, rfl⟩, rfl,
        le_refl _, by simp⟩
    · cases jumped
  · intro machine cause final failed
    obtain ⟨reason, _, rfl, rfl⟩ := Run.updateFrame_eq_error.mp failed
    exact ⟨rfl, rfl⟩

/-- A step that acts beside the frame; if it is tame, it fails only when the store refuses
something. -/
theorem orderly_of_acting {action : Run Alpha}
    (acts : ∀ {machine value final}, known machine.frame.invocation →
      action machine = .ok value final → Acts host machine final ∧ final.frame = machine.frame)
    (keeps : silent → ∀ {machine value final}, action machine = .ok value final →
      final.world = machine.world ∧ final.substate = machine.substate)
    (refused : ∀ {machine cause final}, action machine = .error cause final →
      cause.endsMessage = true ∧ (tame → host.refusals ≠ .none) ∧
        final.frame = machine.frame ∧ final.suspended = machine.suspended) :
    Orderly host known silent tame 0 0 action := by
  constructor
  case settles =>
    exact fun isTame _ failed granted => absurd granted ((refused failed).2.1 isTame)
  case acts => exact fun holds done => (acts holds done).1
  case keeps => exact fun isSilent _ done => keeps isSilent done
  case spends =>
    intro machine value final holds done
    rw [(acts holds done).2]
    omega
  case grows =>
    intro machine value final holds done
    rw [(acts holds done).2]
    omega
  case failed =>
    intro machine cause final _ failed settled
    rw [(refused failed).1] at settled
    cases settled
  case stays =>
    intro machine cause final _ failed
    obtain ⟨_, _, sameFrame, waiting⟩ := refused failed
    rw [sameFrame]
    exact ⟨waiting, le_refl _⟩

/-- Looking at the world tells what it shows. -/
theorem orderly_reading {access : Access Alpha} {view : World → Alpha}
    (reads : Access.Reads host.refusals access view) :
    Orderly host known silent tame 0 0 (Run.onWorld access) := by
  have looks : ∀ {machine value final}, Run.onWorld access machine = .ok value final →
      final = machine := by
    intro machine value final done
    obtain ⟨world, looked, rfl⟩ := Run.onWorld_eq_ok.mp done
    rw [(reads.shows looked).2]
  refine orderly_of_acting ?_ ?_ ?_
  · intro machine value final _ done
    rw [looks done]
    exact ⟨.refl, rfl⟩
  · intro _ machine value final done
    rw [looks done]
    exact ⟨rfl, rfl⟩
  · intro machine cause final failed
    obtain ⟨error, world, refused, rfl, rfl⟩ := Run.onWorld_eq_error.mp failed
    refine ⟨rfl, fun _ granted => ?_, rfl, rfl⟩
    rw [reads.granted granted] at refused
    cases refused

/-- A write of the world is orderly where it is an act of the frame. -/
theorem orderly_writing {access : Access Unit} {change : World → World}
    (writes : Access.Writes host.refusals access change)
    (act : ∀ machine : Machine, known machine.frame.invocation →
      Act host machine { machine with world := change machine.world }) :
    Orderly host known False tame 0 0 (Run.onWorld access) := by
  refine orderly_of_acting ?_ False.elim ?_
  · intro machine value final holds done
    obtain ⟨world, wrote, rfl⟩ := Run.onWorld_eq_ok.mp done
    cases writes.changes wrote
    exact ⟨.single (act machine holds), rfl⟩
  · intro machine cause final failed
    obtain ⟨error, world, refused, rfl, rfl⟩ := Run.onWorld_eq_error.mp failed
    refine ⟨rfl, fun _ granted => ?_, rfl, rfl⟩
    rw [writes.granted granted] at refused
    cases refused

theorem orderly_modifySubstate (change : Substate → Substate)
    (act : ∀ machine : Machine, known machine.frame.invocation →
      Act host machine { machine with substate := change machine.substate }) :
    Orderly host known False tame 0 0 (Run.modifySubstate change) := by
  refine orderly_of_acting ?_ False.elim ?_
  · intro machine _ final holds done
    cases done
    exact ⟨.single (act machine holds), rfl⟩
  · intro machine cause final failed
    cases failed

/-- Warming a key that is warm already changes nothing. -/
theorem orderly_modifyWarmth (change : Warmth → Warmth)
    (touches : ∀ warmth, change warmth = warmth ∨ ∃ key, change warmth = warmth.touch key) :
    Orderly host known silent tame 0 0 (Run.modifyWarmth change) := by
  refine orderly_of_acting ?_ ?_ ?_
  · intro machine _ final _ done
    cases done
    refine ⟨?_, rfl⟩
    rcases touches machine.warmth with same | ⟨key, touched⟩
    · simp only [same]
      exact .refl
    · simp only [touched]
      exact .single (.warm key)
  · intro _ machine _ final done
    cases done
    exact ⟨rfl, rfl⟩
  · intro machine cause final failed
    cases failed

theorem orderly_warmAddress (address : Address) :
    Orderly host known silent tame 0 0 (Run.warmAddress address) := by
  refine orderly_modifyWarmth _ fun warmth => ?_
  simp only [Warmth.touchAddress_eq]
  split
  · exact .inl rfl
  · exact .inr ⟨_, rfl⟩

theorem orderly_warmSlot (address : Address) (key : Word) :
    Orderly host known silent tame 0 0 (Run.warmSlot address key) :=
  orderly_modifyWarmth _ fun _ => .inr ⟨_, rfl⟩

theorem orderly_isColdAddress (address : Address) :
    Orderly host known silent tame 0 0 (Run.isColdAddress address) :=
  (orderly_get.bind fun _ => orderly_pure _).weaken (by omega) (by omega)

theorem orderly_isColdSlot (address : Address) (key : Word) :
    Orderly host known silent tame 0 0 (Run.isColdSlot address key) :=
  (orderly_get.bind fun _ => orderly_pure _).weaken (by omega) (by omega)

theorem orderly_record (event : Event) : Orderly host known silent tame 0 0 (Run.record event) := by
  refine orderly_of_acting ?_ ?_ ?_
  · intro machine _ final _ done
    cases done
    exact ⟨.single (.report event), rfl⟩
  · intro _ machine _ final done
    cases done
    exact ⟨rfl, rfl⟩
  · intro machine cause final failed
    cases failed

theorem orderly_trace (event : Event) : Orderly host known silent tame 0 0 (Run.trace host event) :=
  .branch (orderly_record event) (orderly_pure _)

theorem orderly_makeProgram (code : ByteArray) :
    Orderly host known silent tame 0 0 (Run.makeProgram code) := by
  refine orderly_of_acting ?_ ?_ ?_
  · intro machine program final _ done
    cases done
    exact ⟨.single (.cache _), rfl⟩
  · intro _ machine program final done
    cases done
    exact ⟨rfl, rfl⟩
  · intro machine cause final failed
    cases failed

theorem takeBuffers_eq_ok {machine final : Machine} {buffers : Stack × Memory}
    (done : Run.takeBuffers host machine = .ok buffers final) :
    buffers.1.size = 0 ∧ buffers.2.size = 0 ∧ ∃ pool, final = { machine with pool } := by
  unfold Run.takeBuffers at done
  split at done
  · cases done
    refine ⟨?_, ?_, _, rfl⟩
    · have cleared := machine.pool.stacksCleared
      cases spare : machine.pool.spareStacks with
      | nil => rfl
      | cons stack rest => exact cleared stack (by rw [spare]; exact List.mem_cons_self)
    · have cleared := machine.pool.memoriesCleared
      cases spare : machine.pool.spareMemories with
      | nil => rfl
      | cons memory rest => exact cleared memory (by rw [spare]; exact List.mem_cons_self)
  · cases done
    exact ⟨rfl, rfl, machine.pool, rfl⟩

theorem orderly_takeBuffers : Orderly host known silent tame 0 0 (Run.takeBuffers host) := by
  refine orderly_of_acting ?_ ?_ ?_
  · intro machine buffers final _ done
    obtain ⟨_, _, pool, rfl⟩ := takeBuffers_eq_ok done
    exact ⟨.single (.pool pool), rfl⟩
  · intro _ machine buffers final done
    obtain ⟨_, _, pool, rfl⟩ := takeBuffers_eq_ok done
    exact ⟨rfl, rfl⟩
  · intro machine cause final failed
    unfold Run.takeBuffers at failed
    split at failed <;> cases failed

end CancunMachine
