import Mathlib.Tactic
import CancunMachine.Proofs.MemoryGas.Price
import CancunMachine.Proofs.Order.Child

/-!
# Work within a paid memory

Once the memory of a frame has been paid for up to a size, what its instruction does stays within
that size: the memory may grow up to it, the gas does not rise, and no access to the memory fails.
These three facts add up along a sequence of steps.
-/

namespace CancunMachine

open Ending

variable {Alpha Beta : Type} {host : Host}

/-- Whether a failure is one that accesses to memory end with. -/
def Failure.isMemoryFault : Failure → Bool
  | .halt .outOfBounds | .internal .overflow | .internal .indexOutOfRange => true
  | .internal (.custom text) => text = "memory slice out of range"
  | _ => false

/-- The end of a computation that stays within `size` bytes of memory; the accesses to memory that
fail have an `excuse`. -/
structure Contained (size : Nat) (excuse : Failure → Prop) (machine : Machine)
    (ending : EStateM.Result Failure Machine Alpha) : Prop where
  memory : machine.frame.memory.GrowsWithin size (reached ending).frame.memory
  gas : (reached ending).frame.gas.toNat ≤ machine.frame.gas.toNat
  faults : ∀ cause final, ending = .error cause final → cause.isMemoryFault = true → excuse cause

/-- A computation that stays within `size` bytes of memory, wherever it starts within them, and
needs no excuse. -/
def Within (size : Nat) (action : Run Alpha) : Prop :=
  ∀ excuse machine, machine.frame.memory.size ≤ size →
    Contained size excuse machine (action machine)

variable {size : Nat}

/-- What each of two steps stays within, both of them together stay within. -/
theorem Contained.bind {excuse : Failure → Prop} {machine : Machine} {first : Run Alpha}
    {next : Alpha → Run Beta} (early : Contained size excuse machine (first machine))
    (late : ∀ value middle, first machine = .ok value middle →
      middle.frame.memory.size ≤ size → Contained size excuse middle (next value middle)) :
    Contained size excuse machine ((first >>= next) machine) := by
  cases ended : first machine with
  | error cause middle =>
      rw [ended] at early
      rw [bind_of_error ended]
      exact ⟨early.memory, early.gas, fun _ _ same => by
        cases same
        exact early.faults cause middle rfl⟩
  | ok value middle =>
      rw [ended] at early
      rw [bind_of_ok ended]
      have rest := late value middle ended early.memory.within
      exact ⟨early.memory.trans rest.memory, rest.gas.trans early.gas, rest.faults⟩

namespace Within

theorem bind {first : Run Alpha} {next : Alpha → Run Beta} (early : Within size first)
    (late : ∀ value, Within size (next value)) : Within size (first >>= next) :=
  fun excuse machine within => (early excuse machine within).bind fun value middle _ kept =>
    late value excuse middle kept

theorem branch {condition : Prop} [Decidable condition] {left right : Run Alpha}
    (yes : Within size left) (no : Within size right) :
    Within size (if condition then left else right) := by
  split
  · exact yes
  · exact no

end Within

/-- A step that leaves the memory alone and makes no gas. -/
theorem within_of_aside {action : Run Alpha}
    (memory : ∀ machine, (reached (action machine)).frame.memory = machine.frame.memory)
    (gas : ∀ machine, (reached (action machine)).frame.gas.toNat ≤ machine.frame.gas.toNat)
    (faultless : ∀ {machine cause final}, action machine = .error cause final →
      cause.isMemoryFault = false) : Within size action := by
  intro excuse machine within
  refine ⟨?_, gas machine, fun cause final failed fault => ?_⟩
  · rw [memory]
    exact .refl within
  · rw [faultless failed] at fault
    cases fault

theorem within_pure (value : Alpha) : Within size (pure value : Run Alpha) :=
  within_of_aside (fun _ => rfl) (fun _ => le_refl _) fun failed => nomatch failed

theorem within_get : Within size (get : Run Machine) :=
  within_of_aside (fun _ => rfl) (fun _ => le_refl _) fun failed => nomatch failed

theorem within_frame (question : Frame → Alpha) : Within size (Run.frame question) :=
  within_of_aside (fun _ => rfl) (fun _ => le_refl _) fun failed => nomatch failed

theorem isMemoryFault_halt {reason : Halt} (other : reason ≠ .outOfBounds) :
    (Failure.halt reason).isMemoryFault = false := by
  cases reason with
  | outOfBounds => exact absurd rfl other
  | _ => rfl

theorem within_throw {cause : Failure} (faultless : cause.isMemoryFault = false) :
    Within size (throw cause : Run Alpha) :=
  within_of_aside (fun _ => rfl) (fun _ => le_refl _) fun failed => by
    cases failed
    exact faultless

theorem within_halt {reason : Halt} (other : reason ≠ .outOfBounds) :
    Within size (Run.halt reason : Run Alpha) :=
  within_throw (isMemoryFault_halt other)

theorem within_updateFrame {change : Frame → Except Halt Frame}
    (memory : ∀ {frame next}, change frame = .ok next → next.memory = frame.memory)
    (gas : ∀ {frame next}, change frame = .ok next → next.gas.toNat ≤ frame.gas.toNat)
    (halts : ∀ {frame}, change frame ≠ .error .outOfBounds) :
    Within size (Run.updateFrame change) := by
  refine within_of_aside ?_ ?_ ?_
  · intro machine
    cases ended : Run.updateFrame change machine with
    | ok value final =>
        obtain ⟨next, changed, rfl⟩ := Run.updateFrame_eq_ok.mp ended
        exact memory changed
    | error cause final =>
        obtain ⟨_, _, _, rfl⟩ := Run.updateFrame_eq_error.mp ended
        rfl
  · intro machine
    cases ended : Run.updateFrame change machine with
    | ok value final =>
        obtain ⟨next, changed, rfl⟩ := Run.updateFrame_eq_ok.mp ended
        exact gas changed
    | error cause final =>
        obtain ⟨_, _, _, rfl⟩ := Run.updateFrame_eq_error.mp ended
        exact le_refl _
  · intro machine cause final failed
    obtain ⟨reason, refused, rfl, _⟩ := Run.updateFrame_eq_error.mp failed
    exact isMemoryFault_halt fun same => halts (same ▸ refused)

theorem within_charge (cost : UInt64) : Within size (Run.charge cost) := by
  refine within_updateFrame ?_ ?_ ?_
  · intro frame next charged
    unfold Frame.charge at charged
    split at charged
    · cases charged
      rfl
    · cases charged
  · intro frame next charged
    unfold Frame.charge at charged
    split at charged
    · rename_i enough
      cases charged
      simp only [UInt64.toNat_sub_of_le _ _ enough]
      omega
    · cases charged
  · intro frame
    unfold Frame.charge
    split <;> simp

theorem within_jump (destination : Word) :
    Within size (Run.updateFrame (·.jump destination)) := by
  refine within_updateFrame ?_ ?_ ?_
  · intro frame next jumped
    unfold Frame.jump at jumped
    split at jumped
    · cases jumped
      rfl
    · cases jumped
  · intro frame next jumped
    unfold Frame.jump at jumped
    split at jumped
    · cases jumped
      exact le_refl _
    · cases jumped
  · intro frame
    unfold Frame.jump
    split <;> simp

theorem within_updateStack {change : Stack → Except Halt Stack}
    (halts : ∀ stack, change stack ≠ .error .outOfBounds) :
    Within size (Run.updateStack change) := by
  have same : ∀ machine, (reached (Run.updateStack change machine)).frame.memory =
        machine.frame.memory ∧
      (reached (Run.updateStack change machine)).frame.gas = machine.frame.gas := by
    intro machine
    cases ended : Run.updateStack change machine with
    | ok value final =>
        obtain ⟨stack, _, rfl⟩ := Run.updateStack_eq_ok.mp ended
        exact ⟨rfl, rfl⟩
    | error cause final =>
        obtain ⟨_, _, _, rfl⟩ := Run.updateStack_eq_error.mp ended
        exact ⟨rfl, rfl⟩
  refine within_of_aside (fun machine => (same machine).1) (fun machine => ?_) ?_
  · rw [(same machine).2]
  · intro machine cause final failed
    obtain ⟨reason, refused, rfl, _⟩ := Run.updateStack_eq_error.mp failed
    exact isMemoryFault_halt fun same => halts _ (same ▸ refused)

theorem within_push (word : Word) : Within size (Run.push word) := by
  refine within_updateStack fun stack => ?_
  unfold Stack.push
  split <;> simp

theorem within_drop (count : Nat) : Within size (Run.drop count) := by
  refine within_updateStack fun stack => ?_
  unfold Stack.drop
  split <;> simp

theorem within_dup (index : Nat) : Within size (Run.updateStack (·.dup index)) := by
  refine within_updateStack fun stack => ?_
  unfold Stack.dup Stack.push
  split
  · split <;> simp
  · simp

theorem within_swap (index : Nat) : Within size (Run.updateStack (·.swap index)) := by
  refine within_updateStack fun stack => ?_
  unfold Stack.swap
  split <;> simp

theorem within_peek (count : Nat) : Within size (Run.peek count) := by
  refine within_get.bind fun machine => ?_
  unfold Stack.peek
  split
  · exact within_pure _
  · exact within_halt nofun

theorem within_peekOne : Within size Run.peekOne := (within_peek 1).bind fun _ => within_pure _

theorem within_pop (count : Nat) : Within size (Run.pop count) :=
  (within_peek count).bind fun _ => (within_drop count).bind fun _ => within_pure _

theorem within_popOne : Within size Run.popOne :=
  within_peekOne.bind fun _ => (within_drop 1).bind fun _ => within_pure _

theorem within_popTwo : Within size Run.popTwo :=
  ((within_peek 2).bind fun _ => within_pure _).bind fun _ => (within_drop 2).bind fun _ =>
    within_pure _

theorem within_popThree : Within size Run.popThree :=
  ((within_peek 3).bind fun _ => within_pure _).bind fun _ => (within_drop 3).bind fun _ =>
    within_pure _

theorem within_forbidStatic : Within size Run.forbidStatic :=
  (within_frame _).bind fun _ => .branch (within_halt nofun) (within_pure _)

theorem within_modifyFrame {change : Frame → Frame}
    (memory : ∀ frame, (change frame).memory = frame.memory)
    (gas : ∀ frame, (change frame).gas = frame.gas) : Within size (Run.modifyFrame change) :=
  within_of_aside (fun machine => memory machine.frame)
    (fun machine => le_of_eq (congrArg UInt64.toNat (gas machine.frame)))
    fun failed => nomatch failed

theorem within_advance (count : Nat) : Within size (Run.modifyFrame (·.advance count)) :=
  within_modifyFrame (fun _ => rfl) fun _ => rfl

theorem within_setLastWrite (write : Option (Word × Word)) :
    Within size (Run.modifyFrame fun frame => { frame with lastWrite := write }) :=
  within_modifyFrame (fun _ => rfl) fun _ => rfl

theorem within_setFrameOutput (output : ByteArray) :
    Within size (Run.modifyFrame fun frame => { frame with output }) :=
  within_modifyFrame (fun _ => rfl) fun _ => rfl

theorem within_setReturnData (data : ByteArray) :
    Within size (Run.modifyFrame fun frame => { frame with returnData := data }) :=
  within_modifyFrame (fun _ => rfl) fun _ => rfl

theorem within_onWorld (access : Access Alpha) : Within size (Run.onWorld access) := by
  have same : ∀ machine, (reached (Run.onWorld access machine)).frame = machine.frame := by
    intro machine
    cases ended : Run.onWorld access machine with
    | ok value final =>
        obtain ⟨world, _, rfl⟩ := Run.onWorld_eq_ok.mp ended
        rfl
    | error cause final =>
        obtain ⟨_, world, _, _, rfl⟩ := Run.onWorld_eq_error.mp ended
        rfl
  refine within_of_aside (fun machine => ?_) (fun machine => ?_) ?_
  · rw [same]
  · rw [same]
  · intro machine cause final failed
    obtain ⟨_, _, _, rfl, _⟩ := Run.onWorld_eq_error.mp failed
    rfl

theorem within_modifySubstate (change : Substate → Substate) :
    Within size (Run.modifySubstate change) :=
  within_of_aside (fun _ => rfl) (fun _ => le_refl _) fun failed => nomatch failed

theorem within_warmAddress (address : Address) : Within size (Run.warmAddress address) :=
  within_of_aside (fun _ => rfl) (fun _ => le_refl _) fun failed => nomatch failed

theorem within_warmSlot (address : Address) (key : Word) :
    Within size (Run.warmSlot address key) :=
  within_of_aside (fun _ => rfl) (fun _ => le_refl _) fun failed => nomatch failed

theorem within_isColdAddress (address : Address) : Within size (Run.isColdAddress address) :=
  within_get.bind fun _ => within_pure _

theorem within_isColdSlot (address : Address) (key : Word) :
    Within size (Run.isColdSlot address key) :=
  within_get.bind fun _ => within_pure _

theorem within_trace (event : Event) : Within size (Run.trace host event) :=
  .branch (within_of_aside (fun _ => rfl) (fun _ => le_refl _) fun failed => nomatch failed)
    (within_pure _)

theorem within_makeProgram (code : ByteArray) : Within size (Run.makeProgram code) :=
  within_of_aside (fun _ => rfl) (fun _ => le_refl _) fun failed => nomatch failed

theorem within_takeBuffers : Within size (Run.takeBuffers host) := by
  have ends : ∀ machine, ∃ buffers pool,
      Run.takeBuffers host machine = .ok buffers { machine with pool } := by
    intro machine
    unfold Run.takeBuffers
    split
    · exact ⟨_, _, rfl⟩
    · exact ⟨_, _, rfl⟩
  refine within_of_aside (fun machine => ?_) (fun machine => ?_) ?_
  · obtain ⟨_, _, ended⟩ := ends machine
    rw [ended]
    rfl
  · obtain ⟨_, _, ended⟩ := ends machine
    rw [ended]
    exact le_refl _
  · intro machine cause final failed
    obtain ⟨_, _, ended⟩ := ends machine
    rw [ended] at failed
    cases failed

/-- An access to memory that succeeds wherever the memory stays within `size` bytes. -/
theorem within_onMemory {action : Memory.Action Alpha}
    (fits : ∀ memory : Memory, memory.size ≤ size →
      ∃ value grown, action memory = .ok value grown ∧ memory.GrowsWithin size grown) :
    Within size (Run.onMemory action) := by
  intro excuse machine within
  obtain ⟨value, grown, acted, grows⟩ := fits machine.frame.memory within
  have done : Run.onMemory action machine =
      .ok value { machine with frame.memory := grown } :=
    Run.onMemory_eq_ok.mpr ⟨grown, acted, rfl⟩
  rw [done]
  exact ⟨grows, le_refl _, fun _ _ failed => nomatch failed⟩

theorem within_load {offset length : Nat} (sound : Memory.Sound size)
    (covered : length = 0 ∨ offset + length ≤ size) :
    Within size (Run.onMemory (Memory.load offset length)) :=
  within_onMemory fun _ within => Memory.load_within sound within covered

theorem within_storePadded {offset length : Nat} (data : ByteArray) (sound : Memory.Sound size)
    (covered : length = 0 ∨ offset + length ≤ size) :
    Within size (Run.onMemory (Memory.storePadded offset data length)) :=
  within_onMemory fun _ within => ⟨(), Memory.storePadded_within sound within covered⟩

theorem within_store {offset : Nat} {data : ByteArray} (sound : Memory.Sound size)
    (covered : data.size = 0 ∨ offset + data.size ≤ size) :
    Within size (Run.onMemory (Memory.store offset data)) :=
  within_onMemory fun _ within => ⟨(), Memory.store_within sound within covered⟩

theorem within_grow {needed : Nat} (sound : Memory.Sound size) (covered : needed ≤ size) :
    Within size (Run.onMemory (Memory.grow needed)) :=
  within_onMemory fun _ within => ⟨(), Memory.grow_within sound within covered⟩

end CancunMachine
