import Mathlib.Tactic
import CancunMachine.Proofs.Machine.Ending

/-!
# How memory operations end

A memory that cannot grow far enough halts the frame, and is then as it was before: growing fails
before it changes anything, and nothing fails after it. Once the memory has grown, the range that was
asked for lies within its buffer.
-/

namespace CancunMachine

open Ending

namespace Memory

variable {memory grown left after : Memory} {offset size needed source target : Nat}
  {data : ByteArray} {cause : Failure}

theorem le_roundToWord? {rounded : Nat} (fits : roundToWord? size = some rounded) :
    size ≤ rounded := by
  unfold roundToWord? wordCount at fits
  split at fits
  · cases fits
    omega
  · cases fits

/-- How growing to `needed` bytes ends. -/
inductive Growth (memory : Memory) (needed : Nat) : EStateM.Result Failure Memory Unit → Prop
  | covered (covered : needed ≤ memory.size) : memory.Growth needed (.ok () memory)
  | stuck (short : memory.size < needed)
      (stuck : ∀ size, roundToWord? needed = some size → memory.grownCapacity? size = none) :
      memory.Growth needed (.error (.halt .outOfBounds) memory)
  | grown {size capacity : Nat} (short : memory.size < needed)
      (rounded : roundToWord? needed = some size)
      (reached : memory.grownCapacity? size = some capacity) :
      memory.Growth needed (.ok () (memory.extended size capacity (le_of_grownCapacity? reached)))

/-- The buffer and the size change one after the other, and only if both can. -/
theorem growth (memory : Memory) (needed : Nat) : memory.Growth needed (grow needed memory) := by
  unfold grow
  rw [bind_of_ok (get_apply memory)]
  split
  · rename_i covered
    exact .covered covered
  rename_i short
  cases rounded : roundToWord? needed with
  | none => exact .stuck (Nat.not_le.mp short) (by simp [rounded])
  | some size =>
      cases doubled : (memory.grownCapacity? size).attach with
      | none =>
          dsimp only
          rw [doubled]
          refine .stuck (Nat.not_le.mp short) fun other same => ?_
          cases rounded.symm.trans same
          exact Option.attach_eq_none_iff.mp doubled
      | some found =>
          dsimp only
          rw [doubled]
          exact .grown (Nat.not_le.mp short) rounded found.property

theorem grow_of_covered (covered : needed ≤ memory.size) :
    grow needed memory = .ok () memory := by
  unfold grow
  rw [bind_of_ok (get_apply memory), if_pos covered]
  rfl

theorem le_size_of_grow (grows : grow needed memory = .ok () grown) : needed ≤ grown.size := by
  have growth := memory.growth needed
  rw [grows] at growth
  cases growth with
  | covered covered => exact covered
  | grown _ rounded _ => exact le_roundToWord? rounded

theorem grow_eq_error (failed : grow needed memory = .error cause left) :
    cause = .halt .outOfBounds ∧ left = memory := by
  have growth := memory.growth needed
  rw [failed] at growth
  cases growth
  exact ⟨rfl, rfl⟩

/-- A memory that has grown covers what it was to reach. -/
theorem reach_eq (offset size : Nat) (memory : Memory) :
    reach offset size memory =
      if offset + size < positionLimit then grow (offset + size) memory
      else .error (.halt .outOfBounds) memory := by
  unfold reach
  split
  · cases grows : grow (offset + size) memory with
    | error cause left => exact bind_of_error grows
    | ok _ grown =>
        have covered : offset + size ≤ grown.capacity := (le_size_of_grow grows).trans grown.fits
        rw [bind_of_ok grows, bind_of_ok (get_apply grown), if_pos covered]
        rfl
  · rfl

theorem reach_eq_ok :
    reach offset size memory = .ok () grown ↔
      offset + size < positionLimit ∧ grow (offset + size) memory = .ok () grown := by
  rw [reach_eq]
  split
  · rename_i within
    exact (and_iff_right within).symm
  · rename_i beyond
    exact iff_of_false nofun fun reached => beyond reached.1

/-- A range within the memory is reached as it is. -/
theorem reach_of_covered (within : offset + size < positionLimit)
    (covered : offset + size ≤ memory.size) : reach offset size memory = .ok () memory := by
  rw [reach_eq, if_pos within, grow_of_covered covered]

theorem le_size_of_reach (reaches : reach offset size memory = .ok () grown) :
    offset + size ≤ grown.size :=
  le_size_of_grow (reach_eq_ok.mp reaches).2

theorem reach_eq_error (failed : reach offset size memory = .error cause left) :
    cause = .halt .outOfBounds ∧ left = memory := by
  rw [reach_eq] at failed
  split at failed
  · exact grow_eq_error failed
  · cases failed
    exact ⟨rfl, rfl⟩

theorem load_eq_ok {bytes : ByteArray} :
    load offset size memory = .ok bytes grown ↔
      (size = 0 ∧ bytes = ByteArray.empty ∧ grown = memory) ∨
        size ≠ 0 ∧ reach offset size memory = .ok () grown ∧
          bytes = grown.buffer.extract offset (offset + size) := by
  unfold load
  split
  · rename_i none
    simp only [pure_apply, EStateM.Result.ok.injEq, none, true_and, ne_eq, not_true_eq_false,
      false_and, or_false, eq_comm]
  · rename_i nonempty
    simp only [bind_eq_ok, get_apply, pure_apply, nonempty, false_and, false_or, ne_eq,
      not_false_eq_true, true_and]
    constructor
    · rintro ⟨_, reached, reaches, _, _, ⟨⟩, ⟨⟩⟩
      exact ⟨reaches, rfl⟩
    · rintro ⟨reaches, rfl⟩
      exact ⟨(), grown, reaches, grown, grown, rfl, rfl⟩

theorem loadWord_eq_ok {value : Word} :
    loadWord offset memory = .ok value grown ↔
      reach offset 32 memory = .ok () grown ∧
        value = Word.ofBytes (grown.buffer.extract offset (offset + 32)) := by
  simp only [loadWord, bind_eq_ok, get_apply, pure_apply]
  constructor
  · rintro ⟨_, reached, reaches, _, _, ⟨⟩, ⟨⟩⟩
    exact ⟨reaches, rfl⟩
  · rintro ⟨reaches, rfl⟩
    exact ⟨(), grown, reaches, grown, grown, rfl, rfl⟩

/-- What is changed once the memory has grown. -/
theorem bind_modify_eq_ok {first : Action Unit} {change : Memory → Memory} :
    (do first; modify change : Action Unit) memory = .ok () after ↔
      ∃ grown, first memory = .ok () grown ∧ after = change grown := by
  simp only [bind_eq_ok, modify_apply]
  constructor
  · rintro ⟨_, grown, grows, ⟨⟩⟩
    exact ⟨grown, grows, rfl⟩
  · rintro ⟨grown, grows, rfl⟩
    exact ⟨(), grown, grows, rfl⟩

theorem store_eq_ok :
    store offset data memory = .ok () after ↔
      (data.size = 0 ∧ after = memory) ∨
        data.size ≠ 0 ∧ ∃ grown, reach offset data.size memory = .ok () grown ∧
          after = grown.write offset data := by
  unfold store
  split
  · rename_i none
    simp [none, eq_comm]
  · rename_i nonempty
    simp [bind_modify_eq_ok, nonempty]

theorem storePadded_eq_ok :
    storePadded offset data size memory = .ok () after ↔
      (size = 0 ∧ after = memory) ∨
        size ≠ 0 ∧ ∃ grown, reach offset size memory = .ok () grown ∧
          after = grown.write offset (Bytes.resized data size) := by
  unfold storePadded
  split
  · rename_i none
    simp [none, eq_comm]
  · rename_i nonempty
    simp [bind_modify_eq_ok, nonempty]

/-- A memory that has grown covers both ranges of a move, and the end of the source is a position as
the end of the further range is. -/
theorem copyWithin_eq (source target size : Nat) (memory : Memory) :
    copyWithin source target size memory =
      if size = 0 then .ok () memory
      else if max source target + size < positionLimit then
        (do
          grow (max source target + size)
          modify fun grown =>
            grown.write target (grown.buffer.extract source (source + size)) : Action Unit) memory
      else .error (.internal .overflow) memory := by
  unfold copyWithin
  split
  · rfl
  split
  · rename_i within
    cases grows : grow (max source target + size) memory with
    | error cause left => rw [bind_of_error grows, bind_of_error grows]
    | ok _ grown =>
        have covered : max source target + size ≤ grown.capacity :=
          (le_size_of_grow grows).trans grown.fits
        rw [bind_of_ok grows, bind_of_ok grows, if_pos (by omega), bind_of_ok (get_apply grown),
          if_pos covered]
        rfl
  · rfl

theorem copyWithin_eq_ok :
    copyWithin source target size memory = .ok () after ↔
      (size = 0 ∧ after = memory) ∨
        size ≠ 0 ∧ max source target + size < positionLimit ∧
          ∃ grown, grow (max source target + size) memory = .ok () grown ∧
            after = grown.write target (grown.buffer.extract source (source + size)) := by
  rw [copyWithin_eq]
  split
  · rename_i none
    simp [none, eq_comm]
  split
  · rename_i nonempty within
    rw [bind_modify_eq_ok]
    exact ⟨fun moves => .inr ⟨nonempty, within, moves⟩,
      fun known => (known.resolve_left fun none => nonempty none.1).2.2⟩
  · rename_i nonempty beyond
    simp [nonempty, beyond]

/-- What uses a range once it was grown into fails only where growing does. -/
theorem reach_bind_eq_error {Alpha : Type} {use : Unit → Action Alpha}
    (failed : (reach offset size >>= use) memory = .error cause left)
    (uses : ∀ grown, ∃ value after, use () grown = .ok value after) :
    reach offset size memory = .error cause left := by
  rcases bind_eq_error.mp failed with failed | ⟨_, grown, _, failed⟩
  · exact failed
  · obtain ⟨value, after, used⟩ := uses grown
    cases used.symm.trans failed

theorem load_eq_error (failed : load offset size memory = .error cause left) :
    size ≠ 0 ∧ reach offset size memory = .error cause left := by
  unfold load at failed
  split at failed
  · cases failed
  · rename_i nonempty
    exact ⟨nonempty, reach_bind_eq_error failed fun _ => ⟨_, _, rfl⟩⟩

theorem loadWord_eq_error (failed : loadWord offset memory = .error cause left) :
    reach offset 32 memory = .error cause left :=
  reach_bind_eq_error failed fun _ => ⟨_, _, rfl⟩

theorem store_eq_error (failed : store offset data memory = .error cause left) :
    data.size ≠ 0 ∧ reach offset data.size memory = .error cause left := by
  unfold store at failed
  split at failed
  · cases failed
  · rename_i nonempty
    exact ⟨nonempty, reach_bind_eq_error failed fun _ => ⟨_, _, rfl⟩⟩

theorem storePadded_eq_error (failed : storePadded offset data size memory = .error cause left) :
    size ≠ 0 ∧ reach offset size memory = .error cause left := by
  unfold storePadded at failed
  split at failed
  · cases failed
  · rename_i nonempty
    exact ⟨nonempty, reach_bind_eq_error failed fun _ => ⟨_, _, rfl⟩⟩

/-- A move fails at the end of the further range, if this is no position, or where growing does. -/
theorem copyWithin_eq_error
    (failed : copyWithin source target size memory = .error cause left) :
    size ≠ 0 ∧
      if max source target + size < positionLimit then
        grow (max source target + size) memory = .error cause left
      else cause = .internal .overflow ∧ left = memory := by
  rw [copyWithin_eq] at failed
  split at failed
  · cases failed
  rename_i nonempty
  refine ⟨nonempty, ?_⟩
  split at failed
  · rename_i within
    rw [if_pos within]
    rcases bind_eq_error.mp failed with failed | ⟨_, grown, _, failed⟩
    · exact failed
    · cases failed
  · rename_i beyond
    rw [if_neg beyond]
    cases failed
    exact ⟨rfl, rfl⟩

/-- An action that fails halts the frame, with the memory as it was before. -/
def Action.HaltsUnchanged {Alpha : Type} (action : Action Alpha) : Prop :=
  ∀ {memory left : Memory} {cause : Failure}, action memory = .error cause left →
    cause = .halt .outOfBounds ∧ left = memory

theorem haltsUnchanged_grow (needed : Nat) : (grow needed).HaltsUnchanged := grow_eq_error

theorem haltsUnchanged_load (offset size : Nat) : (load offset size).HaltsUnchanged :=
  fun failed => reach_eq_error (load_eq_error failed).2

theorem haltsUnchanged_loadWord (offset : Nat) : (loadWord offset).HaltsUnchanged :=
  fun failed => reach_eq_error (loadWord_eq_error failed)

theorem haltsUnchanged_store (offset : Nat) (data : ByteArray) :
    (store offset data).HaltsUnchanged :=
  fun failed => reach_eq_error (store_eq_error failed).2

theorem haltsUnchanged_storePadded (offset : Nat) (data : ByteArray) (size : Nat) :
    (storePadded offset data size).HaltsUnchanged :=
  fun failed => reach_eq_error (storePadded_eq_error failed).2

/-- A copy whose ranges end below the position limit fails only as growing does. -/
theorem haltsUnchanged_copyWithin (within : size = 0 ∨ max source target + size < positionLimit) :
    (copyWithin source target size).HaltsUnchanged := by
  intro memory left cause failed
  obtain ⟨nonempty, known⟩ := copyWithin_eq_error failed
  rw [if_pos (within.resolve_left nonempty)] at known
  exact grow_eq_error known

/-- A range whose size can be paid for ends below the position limit. -/
theorem lt_positionLimit_of_sizeToReach {offset size needed : Nat}
    (reaches : sizeToReach offset size = .ok needed) :
    size = 0 ∨ offset + size < positionLimit := by
  unfold sizeToReach at reaches
  split at reaches
  · left; assumption
  · split at reaches
    · right; assumption
    · cases reaches

end Memory

end CancunMachine
