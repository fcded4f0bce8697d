import Mathlib.Tactic
import CancunMachine.Proofs.Memory.Returned
import CancunMachine.Proofs.Order.Return
import CancunMachine.Proofs.Word.Product

/-!
# Copies into memory

Copying into a memory replaces a range of its bytes and no other, and what is copied from a byte
string continues with zeros behind its end. An offset beyond all positions is taken for the last
one, which is behind the end of every string as well.
-/

namespace CancunMachine

/-- An offset beyond all positions reads the same zeros as the one that it is taken for. -/
theorem Bytes.get_saturating {source : ByteArray} (small : source.size < 2 ^ 64) (offset : Word)
    (index : Nat) :
    Bytes.get source (offset.toNatSaturating + index) =
      Bytes.get source (offset.toNat + index) := by
  have limit : Word.limbBase = 2 ^ 64 := rfl
  rw [Word.toNatSaturating_eq, limit]
  by_cases fits : offset.toNat ≤ 2 ^ 64 - 1
  · rw [min_eq_left fits]
  · rw [min_eq_right (by omega), get_of_le (by omega), get_of_le (by omega)]

namespace Memory

/-- The memory after the `count` bytes from `target` on were replaced by those of `data`. -/
structure Replaced (before after : Memory) (target count : Nat) (data : Nat → UInt8) : Prop where
  /-- The memory covers the range, unless it is empty. -/
  covers : count = 0 ∨ target + count ≤ after.size
  inside : ∀ index < count, Bytes.get after.contents (target + index) = data index
  /-- No other byte changes, and all that the memory has grown by is zero. -/
  outside : ∀ position, position < target ∨ target + count ≤ position →
    Bytes.get after.contents position = Bytes.get before.contents position
  /-- Where there is nothing to replace, the memory does not even grow. -/
  untouched : count = 0 → after = before

variable {memory after : Memory} {start target count needed : Nat} {data : Nat → UInt8}

theorem replaced_none (memory : Memory) (target : Nat) (data : Nat → UInt8) :
    memory.Replaced memory target 0 data :=
  ⟨.inl rfl, fun _ none => absurd none (Nat.not_lt_zero _), fun _ _ => rfl, fun _ => rfl⟩

/-- It does not matter where an empty range begins. -/
theorem Replaced.placed (replaced : memory.Replaced after start count data)
    (placed : count = 0 ∨ start = target) : memory.Replaced after target count data := by
  rcases placed with none | rfl
  · rw [replaced.untouched none, none]
    exact replaced_none memory target data
  · exact replaced

theorem Replaced.congr {other : Nat → UInt8} (replaced : memory.Replaced after target count data)
    (same : ∀ index < count, data index = other index) :
    memory.Replaced after target count other :=
  ⟨replaced.covers, fun index within => (replaced.inside index within).trans (same index within),
    replaced.outside, replaced.untouched⟩

variable (clean : ∀ position, memory.size ≤ position → Bytes.get memory.buffer position = 0)
include clean

/-- Growing over a range and writing to it replaces the bytes of the range. -/
theorem replaced_of_grow {grown : Memory} {bytes : ByteArray} (some : bytes.size ≠ 0)
    (grows : grow needed memory = .ok () grown) (within : target + bytes.size ≤ needed) :
    memory.Replaced (grown.write target bytes) target bytes.size (Bytes.get bytes) := by
  have covers : target + bytes.size ≤ grown.size := within.trans (le_size_of_grow grows)
  have larger := size_le_of_grow grows
  have written : ∀ position, Bytes.get (grown.write target bytes).buffer position =
      if target ≤ position ∧ position < target + bytes.size then
        Bytes.get bytes (position - target)
      else Bytes.get memory.buffer position := by
    intro position
    rw [write, Bytes.get_overwrite (covers.trans grown.fits), get_of_grow grows]
  have shown : ∀ position, Bytes.get (grown.write target bytes).contents position =
      Bytes.get (grown.write target bytes).buffer position := by
    refine get_contents fun position beyond => ?_
    rw [size_write] at beyond
    rw [written, if_neg (by omega), clean position (by omega)]
  constructor
  case covers => exact .inr covers
  case inside =>
    intro index inside
    rw [shown, written, if_pos (by omega), Nat.add_sub_cancel_left]
  case outside =>
    intro position apart
    rw [shown, written, if_neg (by omega), get_contents clean]
  case untouched => exact fun none => absurd none some

theorem replaced_of_reach {grown : Memory} {bytes : ByteArray} (some : bytes.size ≠ 0)
    (reaches : reach target bytes.size memory = .ok () grown) :
    memory.Replaced (grown.write target bytes) target bytes.size (Bytes.get bytes) := by
  exact replaced_of_grow clean some (reach_eq_ok.mp reaches).2 (le_refl _)

theorem replaced_of_store {bytes : ByteArray} (stores : store target bytes memory = .ok () after) :
    memory.Replaced after target bytes.size (Bytes.get bytes) := by
  obtain ⟨none, rfl⟩ | ⟨some, grown, reaches, rfl⟩ := store_eq_ok.mp stores
  · rw [none]
    exact replaced_none after target _
  · exact replaced_of_reach clean some reaches

/-- A copy reads on behind the end of its source, where there are zeros. -/
theorem replaced_of_copyFrom {source : ByteArray} {offset : Nat}
    (copies : copyFrom target source offset count memory = .ok () after) :
    memory.Replaced after target count fun index => Bytes.get source (offset + index) := by
  obtain ⟨none, rfl⟩ | ⟨some, grown, reaches, rfl⟩ := storePadded_eq_ok.mp copies
  · rw [none]
    exact replaced_none after target _
  · have size := Bytes.size_resized (Bytes.dropFirst source offset) count
    have replaced := replaced_of_reach clean (size.trans_ne some) (by rwa [size])
    rw [size] at replaced
    refine replaced.congr fun index within => ?_
    rw [Bytes.get_resized within, Bytes.get_dropFirst]

/-- A move within the memory reads all bytes before it writes the first one. -/
theorem replaced_of_copyWithin {source : Nat}
    (copies : copyWithin source target count memory = .ok () after) :
    memory.Replaced after target count fun index =>
      Bytes.get memory.contents (source + index) := by
  obtain ⟨none, rfl⟩ | ⟨some, _, grown, grows, rfl⟩ := copyWithin_eq_ok.mp copies
  · rw [none]
    exact replaced_none after target _
  · have fits := (le_size_of_grow grows).trans grown.fits
    have size : (grown.buffer.extract source (source + count)).size = count := by
      rw [ByteArray.size_extract]
      omega
    have within : target + (grown.buffer.extract source (source + count)).size ≤
        max source target + count := by omega
    have replaced := replaced_of_grow clean (size.trans_ne some) grows within
    rw [size] at replaced
    refine replaced.congr fun index within => ?_
    rw [Bytes.get_extract, Nat.add_sub_cancel_left, if_pos within, get_of_grow grows,
      get_contents clean]

end Memory

end CancunMachine
