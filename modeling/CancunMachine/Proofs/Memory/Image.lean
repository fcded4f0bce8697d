import Mathlib.Tactic
import CancunMachine.Proofs.Gas
import CancunMachine.Proofs.Likeness.Memory
import CancunMachine.Proofs.Word.Bytes

/-!
# What a memory shows

A memory shows a size and a byte at every position, zero from the size on. The operations are those
of such an image: touching a range extends the size to the words that cover it, and writing replaces
the bytes of the range. The buffer behind the memory decides only how far it can grow.
-/

namespace CancunMachine

namespace Bytes

theorem get_resized {bytes : ByteArray} {size position : Nat} (within : position < size) :
    get (resized bytes size) position = get bytes position := by
  rw [resized, get_append, get_zeros, get_extract, ByteArray.size_extract, Nat.zero_add]
  split
  · exact if_pos (by omega)
  · exact (get_of_le (by omega)).symm

theorem get_dropFirst (bytes : ByteArray) (offset position : Nat) :
    get (dropFirst bytes offset) position = get bytes (offset + position) := by
  rw [dropFirst, get_extract]
  split
  · rfl
  · exact (get_of_le (by omega)).symm

end Bytes

namespace Memory

/-- A size and the bytes at all positions. -/
@[ext]
structure Image where
  size : Nat
  byte : Nat → UInt8
  blank : ∀ position, size ≤ position → byte position = 0

namespace Image

def empty : Image := ⟨0, fun _ => 0, fun _ _ => rfl⟩

/-- The image after `count` bytes from `offset` on were touched; nothing touches an empty range. -/
def reach (image : Image) (offset count : Nat) : Image where
  size := if count = 0 then image.size else max image.size (32 * wordCount (offset + count))
  byte := image.byte
  blank := by
    intro position beyond
    apply image.blank
    split at beyond <;> omega

/-- The image after the `count` bytes from `offset` on were replaced by those of `data`. -/
def put (image : Image) (offset count : Nat) (data : Nat → UInt8) : Image where
  size := (image.reach offset count).size
  byte position :=
    if offset ≤ position ∧ position < offset + count then data (position - offset)
    else image.byte position
  blank := by
    intro position beyond
    have untouched : ¬(offset ≤ position ∧ position < offset + count) := by
      rintro ⟨_, inside⟩
      simp only [reach, if_neg (show count ≠ 0 by omega), wordCount] at beyond
      omega
    rw [if_neg untouched]
    exact (image.reach offset count).blank position beyond

/-- The `count` bytes from `offset` on. -/
def window (image : Image) (offset count : Nat) : ByteArray :=
  Bytes.ofList ((List.range count).map fun index => image.byte (offset + index))

/-- The number with the 32 bytes from `offset` on as digits, the first one most significant. -/
def number (image : Image) (offset : Nat) : Nat :=
  ∑ index ∈ Finset.range 32, (image.byte (offset + index)).toNat * 256 ^ (31 - index)

theorem size_window (image : Image) (offset count : Nat) :
    (image.window offset count).size = count := by
  simp only [window, Bytes.ofList, ByteArray.size, List.size_toArray, List.length_map,
    List.length_range]

theorem get_window (image : Image) (offset count position : Nat) :
    Bytes.get (image.window offset count) position =
      if position < count then image.byte (offset + position) else 0 := by
  have size := image.size_window offset count
  split
  · rw [Bytes.get_of_lt (by omega), ByteArray.getElem_eq_getElem_data]
    simp only [window, Bytes.ofList, List.getElem_toArray, List.getElem_map, List.getElem_range]
  · exact Bytes.get_of_le (by omega)

theorem put_none (image : Image) (offset : Nat) (data : Nat → UInt8) :
    image.put offset 0 data = image := by
  refine Image.ext rfl (funext fun position => if_neg ?_)
  omega

theorem put_reach (image : Image) (offset count : Nat) (data : Nat → UInt8) :
    (image.reach offset count).put offset count data = image.put offset count data := by
  refine Image.ext ?_ rfl
  simp only [put, reach]
  split
  · rfl
  · rw [max_assoc, max_self]

/-- Touching a range touches all that is before it. -/
theorem reach_zero (image : Image) (offset : Nat) {count : Nat} (nonempty : count ≠ 0) :
    image.reach 0 (offset + count) = image.reach offset count := by
  have far : offset + count ≠ 0 := by omega
  simp only [reach, zero_add, if_neg nonempty, if_neg far]

theorem put_congr (image : Image) {offset count : Nat} {data other : Nat → UInt8}
    (same : ∀ index < count, data index = other index) :
    image.put offset count data = image.put offset count other := by
  refine Image.ext rfl (funext fun position => ?_)
  simp only [put]
  split
  · exact same _ (by omega)
  · rfl

end Image

/-- The memory has the size and the bytes of the image, and its size is a number of words. -/
structure Shows (memory : Memory) (image : Image) : Prop where
  size : memory.size = image.size
  byte : ∀ position, Bytes.get memory.buffer position = image.byte position
  aligned : 32 ∣ memory.size

theorem withCapacity_shows (capacity : Nat) : (withCapacity capacity).Shows Image.empty where
  size := rfl
  byte := Bytes.get_zeros capacity
  aligned := dvd_zero 32

/-- Doubling a buffer of at least one word stops short only of sizes beyond half of all
positions. -/
theorem lt_of_doubleUntil_eq_none {needed steps capacity : Nat}
    (large : positionLimit ≤ 2 ^ steps * capacity) (some : 1 ≤ steps)
    (failed : doubleUntil needed steps capacity = none) : positionLimit / 2 < needed := by
  induction steps generalizing capacity with
  | zero => omega
  | succ steps inductionHypothesis =>
      unfold doubleUntil at failed
      split at failed
      · cases failed
      rename_i short
      split at failed
      · rename_i room
        rcases Nat.eq_zero_or_pos steps with last | more
        · subst last
          omega
        · refine inductionHypothesis ?_ more failed
          rwa [pow_succ, mul_assoc] at large
      · omega

variable {memory : Memory} {image : Image}

/-- A buffer that cannot be made to hold `size` bytes. -/
theorem lt_of_grownCapacity?_eq_none {size : Nat} (none : memory.grownCapacity? size = none) :
    positionLimit / 2 < size := by
  unfold grownCapacity? at none
  split at none
  · cases none
  have large : positionLimit ≤ 2 ^ 65 * max memory.capacity 32 := by
    unfold positionLimit
    omega
  exact lt_of_doubleUntil_eq_none large (by decide) none

theorem lt_of_grow_eq_error {needed : Nat} {cause : Failure} {left : Memory}
    (failed : grow needed memory = .error cause left) : positionLimit / 2 < needed := by
  have growth := memory.growth needed
  rw [failed] at growth
  cases growth with
  | stuck _ stuck =>
      by_cases fits : 32 * wordCount needed < positionLimit
      · have beyond := lt_of_grownCapacity?_eq_none (stuck _ (if_pos fits))
        unfold wordCount positionLimit at *
        omega
      · unfold wordCount positionLimit at *
        omega

/-- A range that is not empty and that the memory cannot even grow to. -/
structure Stuck (memory : Memory) (offset count : Nat) : Prop where
  nonempty : count ≠ 0
  beyond : positionLimit ≤ offset + count ∨
    ∃ cause left, grow (offset + count) memory = .error cause left

theorem Stuck.far {offset count : Nat} (stuck : memory.Stuck offset count) :
    positionLimit / 2 < offset + count := by
  rcases stuck.beyond with beyond | ⟨cause, left, failed⟩
  · unfold positionLimit at *
    omega
  · exact lt_of_grow_eq_error failed

theorem stuck_of_grow_eq_error {needed : Nat} {cause : Failure} {left : Memory}
    (failed : grow needed memory = .error cause left) : memory.Stuck 0 needed := by
  have far := lt_of_grow_eq_error failed
  refine ⟨by omega, .inr ⟨cause, left, ?_⟩⟩
  rwa [Nat.zero_add]

theorem stuck_of_reach_eq_error {offset count : Nat} {cause : Failure} {left : Memory}
    (nonempty : count ≠ 0) (failed : reach offset count memory = .error cause left) :
    memory.Stuck offset count := by
  refine ⟨nonempty, ?_⟩
  rw [reach_eq] at failed
  split at failed
  · exact .inr ⟨cause, left, failed⟩
  · rename_i beyond
    exact .inl (Nat.not_lt.mp beyond)

namespace Shows

variable (shows : memory.Shows image)
include shows

theorem grow {needed : Nat} {grown : Memory} (grows : Memory.grow needed memory = .ok () grown) :
    grown.Shows (image.reach 0 needed) := by
  have size := shows.size
  have aligned := shows.aligned
  have growth := memory.growth needed
  rw [grows] at growth
  cases growth with
  | covered enough =>
      refine ⟨?_, shows.byte, aligned⟩
      simp only [Image.reach, wordCount]
      split <;> omega
  | @grown covering _ short rounded _ =>
      have exact_size : covering = 32 * wordCount needed := by
        unfold roundToWord? at rounded
        split at rounded <;> cases rounded
        rfl
      refine ⟨?_, fun position => (bytes_extended memory _ position).trans (shows.byte position),
        ?_⟩
      · simp only [extended, Image.reach, exact_size, wordCount, zero_add]
        rw [if_neg (by omega)]
        omega
      · simp only [extended, exact_size]
        exact dvd_mul_right _ _

/-- A range that is not empty lies within the memory once it was grown into. -/
theorem reach {offset count : Nat} {grown : Memory} (nonempty : count ≠ 0)
    (reaches : Memory.reach offset count memory = .ok () grown) :
    grown.Shows (image.reach offset count) ∧ offset + count ≤ grown.size :=
  ⟨image.reach_zero offset nonempty ▸ shows.grow (reach_eq_ok.mp reaches).2,
    le_size_of_reach reaches⟩

theorem extract {offset count : Nat} (covered : offset + count ≤ memory.size) :
    memory.buffer.extract offset (offset + count) = image.window offset count := by
  have fits := memory.fits
  refine Bytes.ext_get ?_ fun position => ?_
  · rw [ByteArray.size_extract, image.size_window]
    omega
  · rw [Bytes.get_extract, image.get_window, Nat.add_sub_cancel_left, shows.byte]

/-- Writing over a range within the memory. -/
theorem write {offset count : Nat} (covered : offset + count ≤ memory.size) {data : ByteArray}
    {value : Nat → UInt8} (size : data.size = count)
    (same : ∀ index < count, Bytes.get data index = value index) :
    (memory.write offset data).Shows (image.put offset count value) := by
  have sizes := shows.size
  have aligned := shows.aligned
  subst size
  refine ⟨?_, fun position => ?_, aligned⟩
  · simp only [Memory.write, Image.put, Image.reach, wordCount]
    split <;> omega
  · rw [Memory.write, Bytes.get_overwrite (covered.trans memory.fits), shows.byte]
    simp only [Image.put]
    split
    · exact same _ (by omega)
    · rfl

/-- A range that was grown into is replaced by its new bytes. -/
theorem reach_write {offset count : Nat} {grown : Memory} (nonempty : count ≠ 0)
    (reaches : Memory.reach offset count memory = .ok () grown) {data : ByteArray}
    {value : Nat → UInt8}
    (size : data.size = count) (same : ∀ index < count, Bytes.get data index = value index) :
    (grown.write offset data).Shows (image.put offset count value) := by
  obtain ⟨shown, covered⟩ := shows.reach nonempty reaches
  exact image.put_reach offset count value ▸ shown.write covered size same

theorem load {offset count : Nat} {bytes : ByteArray} {grown : Memory}
    (loads : Memory.load offset count memory = .ok bytes grown) :
    bytes = image.window offset count ∧ grown.Shows (image.reach offset count) := by
  obtain ⟨rfl, rfl, rfl⟩ | ⟨nonempty, reaches, rfl⟩ := load_eq_ok.mp loads
  · exact ⟨rfl, shows⟩
  · obtain ⟨shown, covered⟩ := shows.reach nonempty reaches
    exact ⟨shown.extract covered, shown⟩

theorem loadWord {offset : Nat} {word : Word} {grown : Memory}
    (loads : Memory.loadWord offset memory = .ok word grown) :
    word.toNat = image.number offset ∧ grown.Shows (image.reach offset 32) := by
  obtain ⟨reaches, rfl⟩ := loadWord_eq_ok.mp loads
  obtain ⟨shown, covered⟩ := shows.reach (by decide) reaches
  refine ⟨?_, shown⟩
  rw [shown.extract covered, Word.toNat_ofBytes_of_size (Image.size_window _ _ _) (le_refl 32)]
  refine Finset.sum_congr rfl fun index within => ?_
  rw [Image.get_window, if_pos (Finset.mem_range.mp within)]
  rfl

theorem store {offset : Nat} {data : ByteArray} {grown : Memory}
    (stores : Memory.store offset data memory = .ok () grown) :
    grown.Shows (image.put offset data.size (Bytes.get data)) := by
  obtain ⟨none, rfl⟩ | ⟨nonempty, reached, reaches, rfl⟩ := store_eq_ok.mp stores
  · rwa [none, image.put_none]
  · exact shows.reach_write nonempty reaches rfl fun _ _ => rfl

theorem storeWord {offset : Nat} {word : Word} {grown : Memory}
    (stores : Memory.storeWord offset word memory = .ok () grown) :
    grown.Shows
      (image.put offset 32 fun index => UInt8.ofNat (word.toNat / 256 ^ (31 - index))) := by
  have bytes := shows.store stores
  rw [word.toBytes_size] at bytes
  rwa [← image.put_congr fun index within => word.get_toBytes within]

theorem storeByte {offset : Nat} {byte : UInt8} {grown : Memory}
    (stores : Memory.storeByte offset byte memory = .ok () grown) :
    grown.Shows (image.put offset 1 fun _ => byte) := by
  have bytes := shows.store stores
  rw [show (Bytes.ofList [byte]).size = 1 from rfl] at bytes
  rwa [← image.put_congr fun index within => ?_]
  rw [Nat.lt_one_iff.mp within]
  rfl

theorem storePadded {offset size : Nat} {data : ByteArray} {grown : Memory}
    (stores : Memory.storePadded offset data size memory = .ok () grown) :
    grown.Shows (image.put offset size (Bytes.get data)) := by
  obtain ⟨none, rfl⟩ | ⟨nonempty, reached, reaches, rfl⟩ := storePadded_eq_ok.mp stores
  · rwa [none, image.put_none]
  · exact shows.reach_write nonempty reaches (Bytes.size_resized _ _) fun _ => Bytes.get_resized

theorem copyFrom {offset sourceOffset size : Nat} {source : ByteArray} {grown : Memory}
    (copies : Memory.copyFrom offset source sourceOffset size memory = .ok () grown) :
    grown.Shows (image.put offset size fun index => Bytes.get source (sourceOffset + index)) := by
  have bytes := shows.storePadded copies
  rwa [funext (Bytes.get_dropFirst source sourceOffset)] at bytes

/-- Moving bytes replaces the target by what the source held before. -/
theorem copyWithin {source target size : Nat} {grown : Memory}
    (copies : Memory.copyWithin source target size memory = .ok () grown) :
    grown.Shows ((image.reach (max source target) size).put target size
      fun index => image.byte (source + index)) := by
  obtain ⟨rfl, rfl⟩ | ⟨nonempty, _, grown, grows, rfl⟩ := copyWithin_eq_ok.mp copies
  · rwa [Image.put_none]
  · have shown := image.reach_zero (max source target) nonempty ▸ shows.grow grows
    have covered := le_size_of_grow grows
    have fits := grown.fits
    refine shown.write (by omega) ?_ fun index within => ?_
    · rw [ByteArray.size_extract]
      omega
    · rw [Bytes.get_extract, if_pos (by omega), shown.byte]
      rfl

theorem reset : memory.reset.Shows Image.empty where
  size := rfl
  byte position := by
    have fits : 0 + (Bytes.zeros memory.size).size ≤ memory.buffer.size := by
      rw [Bytes.size_zeros, Nat.zero_add]
      exact memory.fits
    rw [Memory.reset, Bytes.get_overwrite fits, Bytes.size_zeros]
    split
    · exact Bytes.get_zeros _ _
    · rw [shows.byte, image.blank _ (by have := shows.size; omega)]
      rfl
  aligned := dvd_zero 32

end Shows

end Memory

end CancunMachine
