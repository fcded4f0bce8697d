import Mathlib.Tactic
import CancunMachine.Proofs.Memory.Image
import CancunMachine.Proofs.Replay

/-!
# A memory is an array of zeros that is written to

`MemoryStep` lists what can be done to a memory. The reference does the same to an image, which has
no buffer and so cannot fail; it passes over the steps that failed on the memory. Both give the same
answers and the memory shows the image throughout. A step fails only if its range ends in the upper
half of all positions, and before it has changed anything.
-/

namespace CancunMachine

open Ending

/-- What can be done to a memory. -/
inductive MemoryStep
  | grow (needed : Nat)
  | load (offset size : Nat)
  | loadWord (offset : Nat)
  | storeWord (offset : Nat) (word : Word)
  | storeByte (offset : Nat) (byte : UInt8)
  | store (offset : Nat) (data : ByteArray)
  | storePadded (offset : Nat) (data : ByteArray) (size : Nat)
  | copyFrom (offset : Nat) (source : ByteArray) (sourceOffset size : Nat)
  | copyWithin (source target size : Nat)
  | reset

/-- What a step answers; a word is answered as its number. -/
inductive MemoryReply
  | done
  | bytes (content : ByteArray)
  | number (value : Nat)

/-- The offset and the size of what a step touches. -/
def MemoryStep.range : MemoryStep → Nat × Nat
  | .grow needed => (0, needed)
  | .load offset size => (offset, size)
  | .loadWord offset => (offset, 32)
  | .storeWord offset _ => (offset, 32)
  | .storeByte offset _ => (offset, 1)
  | .store offset data => (offset, data.size)
  | .storePadded offset _ size => (offset, size)
  | .copyFrom offset _ _ size => (offset, size)
  | .copyWithin source target size => (max source target, size)
  | .reset => (0, 0)

namespace Memory

/-- The action that a step stands for. -/
def action : MemoryStep → Action MemoryReply
  | .grow needed => (fun _ => .done) <$> grow needed
  | .load offset size => .bytes <$> load offset size
  | .loadWord offset => (.number ·.toNat) <$> loadWord offset
  | .storeWord offset word => (fun _ => .done) <$> storeWord offset word
  | .storeByte offset byte => (fun _ => .done) <$> storeByte offset byte
  | .store offset data => (fun _ => .done) <$> store offset data
  | .storePadded offset data size => (fun _ => .done) <$> storePadded offset data size
  | .copyFrom offset source sourceOffset size =>
      (fun _ => .done) <$> copyFrom offset source sourceOffset size
  | .copyWithin source target size => (fun _ => .done) <$> copyWithin source target size
  | .reset => (fun _ => .done) <$> modify reset

/-- What a step answers and the memory that it leaves, whether it succeeds or fails. -/
def perform (step : MemoryStep) (memory : Memory) : Except Failure MemoryReply × Memory :=
  match action step memory with
  | .ok reply next => (.ok reply, next)
  | .error cause left => (.error cause, left)

namespace Image

/-- One step on an image: reading touches a range, and writing replaces its bytes. -/
def perform (image : Image) : MemoryStep → MemoryReply × Image
  | .grow needed => (.done, image.reach 0 needed)
  | .load offset size => (.bytes (image.window offset size), image.reach offset size)
  | .loadWord offset => (.number (image.number offset), image.reach offset 32)
  | .storeWord offset word =>
      (.done, image.put offset 32 fun index => UInt8.ofNat (word.toNat / 256 ^ (31 - index)))
  | .storeByte offset byte => (.done, image.put offset 1 fun _ => byte)
  | .store offset data => (.done, image.put offset data.size (Bytes.get data))
  | .storePadded offset data size => (.done, image.put offset size (Bytes.get data))
  | .copyFrom offset source sourceOffset size =>
      (.done, image.put offset size fun index => Bytes.get source (sourceOffset + index))
  | .copyWithin source target size =>
      (.done, (image.reach (max source target) size).put target size
        fun index => image.byte (source + index))
  | .reset => (.done, empty)

/-- One step on an image, passed over if it failed. -/
def follow : MemoryStep × Except Failure MemoryReply → Image → Except Failure MemoryReply × Image
  | (step, .ok _), image => (.ok (image.perform step).1, (image.perform step).2)
  | (_, .error cause), image => (.error cause, image)

end Image

theorem map_eq_ok {Alpha Beta : Type} {view : Alpha → Beta} {act : Action Alpha}
    {memory next : Memory} {result : Beta} (acts : (view <$> act) memory = .ok result next) :
    ∃ value, act memory = .ok value next ∧ view value = result := by
  obtain ⟨value, middle, acted, returned⟩ := bind_eq_ok.mp (map_eq_pure_bind view act ▸ acts)
  cases returned
  exact ⟨value, acted, rfl⟩

theorem map_eq_error {Alpha Beta : Type} {view : Alpha → Beta} {act : Action Alpha}
    {memory left : Memory} {cause : Failure} (acts : (view <$> act) memory = .error cause left) :
    act memory = .error cause left := by
  rcases bind_eq_error.mp (map_eq_pure_bind view act ▸ acts) with failed | ⟨_, _, _, failed⟩
  · exact failed
  · cases failed

variable {memory next left : Memory} {image : Image} {step : MemoryStep} {reply : MemoryReply}

/-- A step that succeeds answers as the image does. -/
theorem Shows.action (shows : memory.Shows image)
    (succeeds : Memory.action step memory = .ok reply next) :
    reply = (image.perform step).1 ∧ next.Shows (image.perform step).2 := by
  cases step with
  | load offset size =>
      obtain ⟨bytes, loads, rfl⟩ := map_eq_ok succeeds
      obtain ⟨content, shown⟩ := shows.load loads
      exact ⟨congrArg _ content, shown⟩
  | loadWord offset =>
      obtain ⟨word, loads, rfl⟩ := map_eq_ok succeeds
      obtain ⟨number, shown⟩ := shows.loadWord loads
      exact ⟨congrArg _ number, shown⟩
  | reset =>
      cases succeeds
      exact ⟨rfl, shows.reset⟩
  | grow needed =>
      obtain ⟨_, grows, rfl⟩ := map_eq_ok succeeds
      exact ⟨rfl, shows.grow grows⟩
  | storeWord offset word =>
      obtain ⟨_, stores, rfl⟩ := map_eq_ok succeeds
      exact ⟨rfl, shows.storeWord stores⟩
  | storeByte offset byte =>
      obtain ⟨_, stores, rfl⟩ := map_eq_ok succeeds
      exact ⟨rfl, shows.storeByte stores⟩
  | store offset data =>
      obtain ⟨_, stores, rfl⟩ := map_eq_ok succeeds
      exact ⟨rfl, shows.store stores⟩
  | storePadded offset data size =>
      obtain ⟨_, stores, rfl⟩ := map_eq_ok succeeds
      exact ⟨rfl, shows.storePadded stores⟩
  | copyFrom offset source sourceOffset size =>
      obtain ⟨_, copies, rfl⟩ := map_eq_ok succeeds
      exact ⟨rfl, shows.copyFrom copies⟩
  | copyWithin source target size =>
      obtain ⟨_, copies, rfl⟩ := map_eq_ok succeeds
      exact ⟨rfl, shows.copyWithin copies⟩

/-- A failure of growing, at a range that ends in the upper half of all positions. -/
structure TooFar (memory : Memory) (step : MemoryStep) (cause : Failure) : Prop where
  cause : cause = .halt .outOfBounds ∨ cause = .internal .overflow
  stuck : memory.Stuck step.range.1 step.range.2
  far : positionLimit / 2 < step.range.1 + step.range.2

/-- A step that could not reach its range has changed nothing. -/
theorem tooFar_of_reach {cause : Failure} (nonempty : step.range.2 ≠ 0)
    (failed : reach step.range.1 step.range.2 memory = .error cause left) :
    memory.TooFar step cause ∧ left = memory := by
  have stuck := stuck_of_reach_eq_error nonempty failed
  obtain ⟨known, same⟩ := reach_eq_error failed
  exact ⟨⟨.inl known, stuck, stuck.far⟩, same⟩

/-- The ends of both ranges of a move are computed before anything is moved. -/
theorem tooFar_of_copyWithin {source target size : Nat} {cause : Failure}
    (failed : copyWithin source target size memory = .error cause left) :
    memory.TooFar (.copyWithin source target size) cause ∧ left = memory := by
  obtain ⟨nonempty, known⟩ := copyWithin_eq_error failed
  split at known
  · have stuck : memory.Stuck (max source target) size := ⟨nonempty, .inr ⟨_, _, known⟩⟩
    obtain ⟨cause, same⟩ := grow_eq_error known
    exact ⟨⟨.inl cause, stuck, stuck.far⟩, same⟩
  · rename_i beyond
    have stuck : memory.Stuck (max source target) size := ⟨nonempty, .inl (Nat.not_lt.mp beyond)⟩
    exact ⟨⟨.inr known.1, stuck, stuck.far⟩, known.2⟩

theorem tooFar_of_action {cause : Failure}
    (fails : Memory.action step memory = .error cause left) :
    memory.TooFar step cause ∧ left = memory := by
  cases step with
  | grow needed =>
      have failed := map_eq_error fails
      have stuck := stuck_of_grow_eq_error failed
      obtain ⟨known, same⟩ := grow_eq_error failed
      exact ⟨⟨.inl known, stuck, stuck.far⟩, same⟩
  | load offset size =>
      obtain ⟨nonempty, failed⟩ := load_eq_error (map_eq_error fails)
      exact tooFar_of_reach nonempty failed
  | loadWord offset => exact tooFar_of_reach nofun (loadWord_eq_error (map_eq_error fails))
  | storeWord offset word =>
      obtain ⟨_, failed⟩ := store_eq_error (map_eq_error fails)
      rw [word.toBytes_size] at failed
      exact tooFar_of_reach nofun failed
  | storeByte offset byte =>
      exact tooFar_of_reach nofun (store_eq_error (map_eq_error fails)).2
  | store offset data =>
      obtain ⟨nonempty, failed⟩ := store_eq_error (map_eq_error fails)
      exact tooFar_of_reach nonempty failed
  | storePadded offset data size =>
      obtain ⟨nonempty, failed⟩ := storePadded_eq_error (map_eq_error fails)
      exact tooFar_of_reach nonempty failed
  | copyFrom offset source sourceOffset size =>
      obtain ⟨nonempty, failed⟩ := storePadded_eq_error (map_eq_error fails)
      exact tooFar_of_reach nonempty failed
  | copyWithin source target size => exact tooFar_of_copyWithin (map_eq_error fails)
  | reset => cases fails

/-- A step that fails leaves the memory as it was. -/
theorem tooFar_of_perform {cause : Failure}
    (fails : (Memory.perform step memory).1 = .error cause) :
    memory.TooFar step cause ∧ (Memory.perform step memory).2 = memory := by
  unfold Memory.perform at fails ⊢
  cases acted : Memory.action step memory with
  | ok reply next =>
      rw [acted] at fails
      cases fails
  | error reason left =>
      rw [acted] at fails
      cases fails
      exact tooFar_of_action acted

/-- One step: the image answers the same and is still shown. -/
theorem Shows.perform (shows : memory.Shows image) (step : MemoryStep) :
    (Memory.perform step memory).1 = (Image.follow (step, (Memory.perform step memory).1) image).1 ∧
      (Memory.perform step memory).2.Shows
        (Image.follow (step, (Memory.perform step memory).1) image).2 := by
  unfold Memory.perform
  cases acted : Memory.action step memory with
  | ok reply next =>
      obtain ⟨answer, shown⟩ := shows.action acted
      exact ⟨congrArg _ answer, shown⟩
  | error reason left =>
      obtain ⟨_, rfl⟩ := tooFar_of_action acted
      exact ⟨rfl, shows⟩

/-- A sequence of steps: the image that passes over the steps that failed answers the same, and is
shown at the end. -/
theorem Shows.performAll (shows : memory.Shows image) (steps : List MemoryStep)
    {answers : List (Except Failure MemoryReply)} {final : Memory}
    (ran : CancunMachine.performAll Memory.perform steps memory = (answers, final)) :
    answers = (CancunMachine.performAll Image.follow (steps.zip answers) image).1 ∧
      final.Shows (CancunMachine.performAll Image.follow (steps.zip answers) image).2 := by
  induction steps generalizing memory image answers with
  | nil =>
      cases ran
      exact ⟨rfl, shows⟩
  | cons step steps inductionHypothesis =>
      cases ran
      obtain ⟨same, shown⟩ := shows.perform step
      obtain ⟨later, last⟩ := inductionHypothesis shown rfl
      exact ⟨congrArg₂ _ same later, last⟩

end Memory

/-- Whatever is done to a memory, it answers as an array of bytes does that is zero at first and is
extended word by word. A further step that fails has found the memory unable to grow, and leaves it
as it was. -/
theorem memory_is_zero_filled_array (capacity : Nat) (steps : List MemoryStep) :
    let (answers, memory) := performAll Memory.perform steps (Memory.withCapacity capacity)
    let (expected, image) :=
      performAll Memory.Image.follow (steps.zip answers) Memory.Image.empty
    answers = expected ∧ memory.Shows image ∧ 32 ∣ memory.size ∧
      memory.size ≤ memory.capacity ∧
      (∀ position, memory.size ≤ position → Bytes.get memory.buffer position = 0) ∧
      ∀ step cause, (Memory.perform step memory).1 = .error cause →
        memory.TooFar step cause ∧ (Memory.perform step memory).2 = memory := by
  obtain ⟨same, shown⟩ := (Memory.withCapacity_shows capacity).performAll steps rfl
  refine ⟨same, shown, shown.aligned, Memory.fits _, fun position beyond => ?_,
    fun _ _ => Memory.tooFar_of_perform⟩
  rw [shown.byte]
  exact Memory.Image.blank _ _ (shown.size ▸ beyond)

end CancunMachine
