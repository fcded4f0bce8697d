import Mathlib.Tactic
import CancunMachine.Proofs.Likeness.Memory

/-!
# Words as numbers in base 256

The bytes of a word, counted from the last one, are the digits of its number in base 256, and a
word that is read from bytes stands for the number that has the last 32 of them as digits.
-/

namespace CancunMachine

namespace Bytes

theorem fromEnd_push_zero (bytes : ByteArray) (byte : UInt8) :
    fromEnd (bytes.push byte) 0 = byte := by
  have size : (bytes.push byte).size = bytes.size + 1 := ByteArray.size_push
  rw [fromEnd, if_pos (by omega), get_of_lt (by omega)]
  simp only [size, Nat.add_sub_cancel, Nat.sub_zero, ByteArray.getElem_eq_getElem_data]
  exact Array.getElem_push_eq

theorem fromEnd_push_succ (bytes : ByteArray) (byte : UInt8) (place : Nat) :
    fromEnd (bytes.push byte) (place + 1) = fromEnd bytes place := by
  have size : (bytes.push byte).size = bytes.size + 1 := ByteArray.size_push
  unfold fromEnd
  by_cases within : place < bytes.size
  · rw [if_pos (by omega), if_pos within, get_of_lt (by omega), get_of_lt (by omega)]
    have earlier : bytes.size + 1 - 1 - (place + 1) = bytes.size - 1 - place := by omega
    have before : bytes.size - 1 - place < bytes.size := by omega
    simp only [size, earlier, ByteArray.getElem_eq_getElem_data]
    exact Array.getElem_push_lt before
  · rw [if_neg (by omega), if_neg within]

theorem fromEnd_empty (place : Nat) : fromEnd ByteArray.empty place = 0 :=
  if_neg (Nat.not_lt_zero place)

theorem fromEnd_of_size {bytes : ByteArray} {width index : Nat} (size : bytes.size = width)
    (within : index < width) : fromEnd bytes (width - 1 - index) = get bytes index := by
  rw [fromEnd, size, if_pos (by omega)]
  congr 1
  omega

end Bytes

namespace Word

/-- The eight bytes of a limb are its digits, and stand behind the bytes before them. -/
theorem fromEnd_pushLimb (bytes : ByteArray) (limb : UInt64) (place : Nat) :
    Bytes.fromEnd (pushLimb bytes limb) place =
      if place < 8 then UInt8.ofNat (limb.toNat / 256 ^ place)
      else Bytes.fromEnd bytes (place - 8) := by
  have digit : ∀ shift : UInt64, ∀ place, shift.toNat = 8 * place → place < 8 →
      (limb >>> shift).toUInt8 = UInt8.ofNat (limb.toNat / 256 ^ place) := by
    intro shift place shifted few
    apply UInt8.toNat_inj.mp
    rw [UInt64.toNat_toUInt8, UInt64.toNat_shiftRight, UInt8.toNat_ofNat', shifted,
      Nat.mod_eq_of_lt (show 8 * place < 64 by omega), Nat.shiftRight_eq_div_pow, pow_mul]
    rfl
  rcases Nat.lt_or_ge place 8 with few | many
  · rw [if_pos few]
    unfold pushLimb
    interval_cases place <;> simp only [Bytes.fromEnd_push_succ, Bytes.fromEnd_push_zero]
    · exact (digit 0 0 rfl few).symm ▸ by simp
    · exact digit 8 1 rfl few
    · exact digit 16 2 rfl few
    · exact digit 24 3 rfl few
    · exact digit 32 4 rfl few
    · exact digit 40 5 rfl few
    · exact digit 48 6 rfl few
    · exact digit 56 7 rfl few
  · obtain ⟨earlier, rfl⟩ := Nat.exists_eq_add_of_le' many
    rw [if_neg (by omega), Nat.add_sub_cancel]
    simp only [pushLimb, Bytes.fromEnd_push_succ]

theorem digit_of_low (low high : Nat) {place : Nat} (few : place < 8) :
    UInt8.ofNat ((low + limbBase * high) / 256 ^ place) = UInt8.ofNat (low / 256 ^ place) := by
  obtain ⟨rest, split⟩ : ∃ rest, limbBase = 256 ^ place * (256 * rest) := by
    refine ⟨256 ^ (7 - place), ?_⟩
    rw [← pow_succ', ← pow_add, show place + (7 - place + 1) = 8 by omega]
    rfl
  have whole : (low + limbBase * high) / 256 ^ place = low / 256 ^ place + 256 * (rest * high) := by
    rw [split, mul_assoc, Nat.add_mul_div_left _ _ (by positivity), mul_assoc]
  apply UInt8.toNat_inj.mp
  rw [whole, UInt8.toNat_ofNat', UInt8.toNat_ofNat']
  exact Nat.add_mul_mod_self_left _ _ _

theorem div_of_high {low : Nat} (small : low < limbBase) (high : Nat) {place : Nat}
    (many : 8 ≤ place) :
    (low + limbBase * high) / 256 ^ place = high / 256 ^ (place - 8) := by
  have split : 256 ^ place = limbBase * 256 ^ (place - 8) := by
    rw [show limbBase = 256 ^ 8 from rfl, ← pow_add, Nat.add_sub_cancel' many]
  rw [split, ← Nat.div_div_eq_div_mul, Nat.add_mul_div_left _ _ (by decide),
    Nat.div_eq_of_lt small, Nat.zero_add]

/-- The bytes of a word, from the last one on, are the digits of its number. -/
theorem fromEnd_toBytes (word : Word) (place : Nat) :
    Bytes.fromEnd word.toBytes place = UInt8.ofNat (word.toNat / 256 ^ place) := by
  -- One limb at a time: its own eight digits, or those of the limbs above it.
  have peel : ∀ (bytes : ByteArray) (limb : UInt64) (high place : Nat),
      (8 ≤ place → Bytes.fromEnd bytes (place - 8) = UInt8.ofNat (high / 256 ^ (place - 8))) →
      Bytes.fromEnd (pushLimb bytes limb) place =
        UInt8.ofNat ((limb.toNat + limbBase * high) / 256 ^ place) := by
    intro bytes limb high place above
    rw [fromEnd_pushLimb]
    split
    · rename_i few
      exact (digit_of_low _ _ few).symm
    · rename_i many
      rw [div_of_high limb.toNat_lt _ (Nat.not_lt.mp many), above (Nat.not_lt.mp many)]
  have top : Bytes.fromEnd (pushLimb ByteArray.empty word.limb3) =
      fun place => UInt8.ofNat (word.limb3.toNat / 256 ^ place) := by
    funext place
    have whole := peel ByteArray.empty word.limb3 0 place fun _ => by
      rw [Bytes.fromEnd_empty, Nat.zero_div]
      rfl
    rwa [mul_zero, add_zero] at whole
  refine peel _ _ _ _ fun _ => peel _ _ _ _ fun _ => peel _ _ _ _ fun _ => ?_
  rw [top]

theorem get_toBytes (word : Word) {index : Nat} (within : index < 32) :
    Bytes.get word.toBytes index = UInt8.ofNat (word.toNat / 256 ^ (31 - index)) := by
  rw [← fromEnd_toBytes, Bytes.fromEnd, toBytes_size, if_pos (by omega)]
  congr 1
  omega

theorem toNat_limbFromEnd (bytes : ByteArray) (index : Nat) :
    (limbFromEnd bytes index).toNat =
      ∑ place ∈ Finset.range 8, (Bytes.fromEnd bytes (8 * index + place)).toNat * 256 ^ place := by
  have small : ∀ place, (Bytes.fromEnd bytes (8 * index + place)).toNat < 256 :=
    fun place => UInt8.toNat_lt _
  have zero := small 0
  have one := small 1
  have two := small 2
  have three := small 3
  have four := small 4
  have five := small 5
  have six := small 6
  have seven := small 7
  have places : List.range 8 = [0, 1, 2, 3, 4, 5, 6, 7] := rfl
  simp only [limbFromEnd, places, List.foldr, Finset.sum_range_succ, Finset.sum_range_zero,
    UInt64.toNat_add, UInt64.toNat_mul, UInt8.toNat_toUInt64, UInt64.toNat_ofNat]
  omega

/-- A word that is read from bytes has the last 32 of them as its digits. -/
theorem toNat_ofBytes (bytes : ByteArray) :
    (ofBytes bytes).toNat =
      ∑ place ∈ Finset.range 32, (Bytes.fromEnd bytes place).toNat * 256 ^ place := by
  have limbs : ∀ (digit : Nat → Nat) (count : Nat),
      ∑ place ∈ Finset.range (8 + count), digit place * 256 ^ place =
        ∑ place ∈ Finset.range 8, digit place * 256 ^ place +
          limbBase * ∑ place ∈ Finset.range count, digit (8 + place) * 256 ^ place := by
    intro digit count
    rw [Finset.sum_range_add, Finset.mul_sum]
    congr 1
    refine Finset.sum_congr rfl fun place _ => ?_
    rw [pow_add, show limbBase = 256 ^ 8 from rfl]
    ring
  rw [show 32 = 8 + (8 + (8 + 8)) from rfl, limbs, limbs, limbs]
  simp only [toNat, ofBytes, toNat_limbFromEnd, ← Nat.add_assoc]
  rfl

/-- A word that is read from at most 32 bytes has all of them as its digits, the first one most
significant. -/
theorem toNat_ofBytes_of_size {bytes : ByteArray} {width : Nat} (size : bytes.size = width)
    (few : width ≤ 32) :
    (ofBytes bytes).toNat =
      ∑ index ∈ Finset.range width, (Bytes.get bytes index).toNat * 256 ^ (width - 1 - index) := by
  obtain ⟨rest, split⟩ := Nat.exists_eq_add_of_le few
  have beyond : ∀ place, Bytes.fromEnd bytes (width + place) = 0 := by
    intro place
    exact if_neg (by omega)
  rw [toNat_ofBytes, split, Finset.sum_range_add]
  simp only [beyond, UInt8.toNat_zero, zero_mul, Finset.sum_const_zero, add_zero]
  rw [← Finset.sum_range_reflect]
  refine Finset.sum_congr rfl fun index within => ?_
  rw [Bytes.fromEnd_of_size size (Finset.mem_range.mp within)]

end Word

end CancunMachine
