import CancunMachine.Failure
import CancunMachine.Bytes

/-!
# The memory of a frame

The size is a multiple of 32; behind the memory stands a buffer that only grows, by doubling, and
whose bytes beyond the size are zero, so that growing is a change of size.
The operations work in place: one that fails leaves the memory as far as it had come.
-/

namespace CancunMachine

/-- Sizes and positions stay below this bound. -/
def positionLimit : Nat := 0x10000000000000000

/-- The number of 32-byte words that cover `size` bytes. -/
def wordCount (size : Nat) : Nat := (size + 31) / 32

/-- The next multiple of 32, if it is below the position limit. -/
def roundToWord? (size : Nat) : Option Nat :=
  if 32 * wordCount size < positionLimit then some (32 * wordCount size) else none

/-- An operand as a position; one beyond 64 bits can never be paid for. -/
def Word.position (word : Word) : Except Halt Nat :=
  match word.toPosition? with
  | some position => .ok position
  | none => .error .outOfGas

/-- Two operands as a size and an offset; the offset of an empty range does not matter. -/
def Word.range (size offset : Word) : Except Halt (Nat × Nat) :=
  if size.isZero then .ok (0, 0)
  else do
    let size ← size.position
    let offset ← offset.position
    pure (size, offset)

/-- Byte-addressed memory: the first `size` bytes of the buffer. -/
structure Memory where
  buffer : ByteArray
  size : Nat
  fits : size ≤ buffer.size

namespace Memory

def empty : Memory := ⟨ByteArray.empty, 0, Nat.zero_le _⟩

instance : Inhabited Memory := ⟨empty⟩

/-- An empty memory over a buffer of `capacity` zero bytes. -/
def withCapacity (capacity : Nat) : Memory := ⟨Bytes.zeros capacity, 0, Nat.zero_le _⟩

def isEmpty (memory : Memory) : Bool := memory.size == 0

def capacity (memory : Memory) : Nat := memory.buffer.size

def contents (memory : Memory) : ByteArray := memory.buffer.extract 0 memory.size

/-- Clears the memory and keeps its buffer. -/
def reset (memory : Memory) : Memory :=
  ⟨Bytes.overwrite memory.buffer 0 (Bytes.zeros memory.size), 0, Nat.zero_le _⟩

/-- Doubles `capacity` until it reaches `needed`, at most `steps` times. -/
def doubleUntil (needed : Nat) : Nat → Nat → Option Nat
  | 0, _ => none
  | steps + 1, capacity =>
      if needed ≤ capacity then some capacity
      else if 2 * capacity < positionLimit then doubleUntil needed steps (2 * capacity)
      else none

/-- The capacity of the buffer after growing to `needed` bytes. -/
def grownCapacity? (memory : Memory) (needed : Nat) : Option Nat :=
  if needed ≤ memory.capacity then some memory.capacity
  else doubleUntil needed 65 (max memory.capacity 32)

theorem le_of_doubleUntil {needed steps capacity grown : Nat}
    (doubled : doubleUntil needed steps capacity = some grown) : needed ≤ grown := by
  induction steps generalizing capacity with
  | zero => simp [doubleUntil] at doubled
  | succ steps inductionHypothesis =>
      simp only [doubleUntil] at doubled
      split at doubled
      · simp_all
      · split at doubled
        · exact inductionHypothesis doubled
        · simp at doubled

theorem le_of_grownCapacity? {memory : Memory} {needed grown : Nat}
    (reached : memory.grownCapacity? needed = some grown) : needed ≤ grown := by
  unfold grownCapacity? at reached
  split at reached
  · simp_all
  · exact le_of_doubleUntil reached

/-- The memory over a buffer of at least `capacity` bytes, filled up with zeros. -/
def allocated (memory : Memory) (capacity : Nat) : Memory where
  buffer := memory.buffer ++ Bytes.zeros (capacity - memory.capacity)
  size := memory.size
  fits := by
    have fits := memory.fits
    rw [ByteArray.size_append]
    omega

/-- The memory at a larger size, over a buffer that holds it. -/
def extended (memory : Memory) (size capacity : Nat) (enough : size ≤ capacity) : Memory where
  buffer := (memory.allocated capacity).buffer
  size
  fits := by
    simp only [allocated, ByteArray.size_append, Bytes.size_zeros, Memory.capacity]
    omega

/-- The memory after `data` was written at `offset`. -/
def write (memory : Memory) (offset : Nat) (data : ByteArray) : Memory where
  buffer := Bytes.overwrite memory.buffer offset data
  size := memory.size
  fits := Nat.le_trans memory.fits (Bytes.size_le_size_overwrite _ _ _)

/-- Answers or fails; either way the memory is left as far as the action had come. -/
abbrev Action := EStateM Failure Memory

/-- Grows the memory to hold at least `needed` bytes: the buffer first, then the size. -/
def grow (needed : Nat) : Action Unit := do
  let memory ← get
  if needed ≤ memory.size then
    pure ()
  else
    match roundToWord? needed with
    | none => throw (.halt .outOfBounds)
    | some size =>
        match (memory.grownCapacity? size).attach with
        | none => throw (.halt .outOfBounds)
        | some ⟨capacity, reached⟩ =>
            set (memory.allocated capacity)
            set (memory.extended size capacity (le_of_grownCapacity? reached))

/-- Grows the memory to reach `offset + size`; the range must then lie within the buffer. -/
def reach (offset size : Nat) : Action Unit := do
  if offset + size < positionLimit then
    grow (offset + size)
    let grown ← get
    if offset + size ≤ grown.capacity then
      pure ()
    else
      throw (.internal (.custom "memory slice out of range"))
  else
    throw (.halt .outOfBounds)

/-- Reads `size` bytes from `offset` on, growing the memory to cover them. -/
def load (offset size : Nat) : Action ByteArray := do
  if size = 0 then
    pure ByteArray.empty
  else
    reach offset size
    pure ((← get).buffer.extract offset (offset + size))

/-- Reads the big-endian word at `offset`. -/
def loadWord (offset : Nat) : Action Word := do
  reach offset 32
  pure (Word.ofBytes ((← get).buffer.extract offset (offset + 32)))

def store (offset : Nat) (data : ByteArray) : Action Unit := do
  if data.size = 0 then
    pure ()
  else
    reach offset data.size
    modify (·.write offset data)

def storeWord (offset : Nat) (word : Word) : Action Unit := store offset word.toBytes

def storeByte (offset : Nat) (byte : UInt8) : Action Unit := store offset (Bytes.ofList [byte])

/-- Writes `data`, cut or filled up with zeros to exactly `size` bytes, at `offset`. -/
def storePadded (offset : Nat) (data : ByteArray) (size : Nat) : Action Unit := do
  if size = 0 then
    pure ()
  else
    reach offset size
    modify (·.write offset (Bytes.resized data size))

/-- Writes `size` bytes of `source` from `sourceOffset` on at `offset`; the source reads as zero
beyond its end. -/
def copyFrom (offset : Nat) (source : ByteArray) (sourceOffset size : Nat) : Action Unit :=
  storePadded offset (Bytes.dropFirst source sourceOffset) size

/-- Moves `size` bytes within the memory; the ranges may overlap, and both are grown into. The end
of the source is computed only then. -/
def copyWithin (source target size : Nat) : Action Unit := do
  if size = 0 then
    pure ()
  else if max source target + size < positionLimit then
    grow (max source target + size)
    if source + size < positionLimit then
      let grown ← get
      if max source target + size ≤ grown.capacity then
        set (grown.write target (grown.buffer.extract source (source + size)))
      else
        throw (.internal .indexOutOfRange)
    else
      throw (.internal .overflow)
  else
    throw (.internal .overflow)

/-- The whole price of `size` bytes: `words ^ 2 / 512 + 3 * words`. -/
def price (size : Nat) : Except Halt UInt64 :=
  let words := wordCount size
  let total := words * words / 512 + 3 * words
  if words * words < positionLimit ∧ total < positionLimit then .ok (UInt64.ofNat total)
  else .error .outOfGas

/-- The price of growing from `current` bytes to `needed` bytes. -/
def expansionPrice (needed current : Nat) : Except Halt UInt64 :=
  if needed ≤ current then .ok 0
  else do
    let after ← price needed
    let before ← price current
    pure (after - before)

/-- The size that covers `size` bytes from `offset` on; nothing covers an empty range. -/
def sizeToReach (offset size : Nat) : Except Halt Nat :=
  if size = 0 then .ok 0
  else if offset + size < positionLimit then
    match roundToWord? (offset + size) with
    | some reached => .ok reached
    | none => .error .outOfBounds
  else .error .outOfBounds

end Memory

end CancunMachine
