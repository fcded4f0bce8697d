import CancunMachine.Proofs.Word.Bits
import CancunMachine.Proofs.Word.Shift

/-!
# Sums, differences and products modulo the number of words

Every operation agrees with the one on numbers up to multiples of `2 ^ 256`. A product is the same on
each of its ways: trivial factors, shifts by powers of two, one limb times four, and the general case.
-/

namespace CancunMachine

namespace Word

variable {word : Word}

theorem toNat_ofNat (value : Nat) : (ofNat value).toNat = value % count := by
  simp only [ofNat, toNat, UInt64.toNat_ofNat', count, limbBase]
  omega

theorem ofNat_toNat (word : Word) : ofNat word.toNat = word :=
  eq_of_toNat_eq (by rw [toNat_ofNat, Nat.mod_eq_of_lt word.toNat_lt_count])

theorem fitsLimb_iff : word.fitsLimb = true ↔ word.toNat < limbBase := by
  have small := word.limb0.toNat_lt
  unfold fitsLimb
  rw [beq_iff_eq, UInt64.or_eq_zero_iff, UInt64.or_eq_zero_iff]
  simp only [← UInt64.toNat_inj, UInt64.toNat_zero, toNat, limbBase]
  omega

theorem toNat_of_fitsLimb (fits : word.fitsLimb = true) : word.toNat = word.limb0.toNat := by
  rw [fitsLimb_iff] at fits
  unfold toNat limbBase at *
  omega

theorem toNatSaturating_eq (word : Word) : word.toNatSaturating = min word.toNat (limbBase - 1) := by
  have limb := word.limb0.toNat_lt
  unfold toNatSaturating toLimbSaturating
  by_cases fits : word.fitsLimb = true
  · rw [if_pos fits, toNat_of_fitsLimb fits, Nat.min_eq_left]
    exact Nat.le_sub_one_of_lt limb
  · have large := mt fitsLimb_iff.mpr fits
    rw [if_neg fits, Nat.min_eq_right (by omega)]
    rfl

theorem toNat_ofLimb (limb : UInt64) : (ofLimb limb).toNat = limb.toNat := by
  simp [ofLimb, toNat]

theorem toNat_not (word : Word) : word.not.toNat = count - 1 - word.toNat := by
  have first := word.limb0.toNat_lt
  have second := word.limb1.toNat_lt
  have third := word.limb2.toNat_lt
  have fourth := word.limb3.toNat_lt
  simp only [not, toNat, UInt64.toNat_not, UInt64.size, count, limbBase]
  omega

theorem toNat_negate (word : Word) : word.negate.toNat = (count - word.toNat) % count := by
  have small := word.toNat_lt_count
  rw [negate, toNat_add, toNat_not, toNat_one]
  congr 1
  omega

/-- A difference that would be negative borrows from the number of words. -/
theorem toNat_sub (left right : Word) :
    (left.sub right).toNat = (left.toNat + (count - right.toNat)) % count := by
  have first := subLimb_eq left.limb0 right.limb0 0 (Nat.zero_le 1)
  have second := subLimb_eq left.limb1 right.limb1 _ first.2
  have third := subLimb_eq left.limb2 right.limb2 _ second.2
  have fourth := subLimb_eq left.limb3 right.limb3 _ third.2
  simp only [UInt64.toNat_zero] at first
  have small := toNat_lt_count (left.sub right)
  have subtrahend := right.toNat_lt_count
  simp only [toNat, sub, count, limbBase] at small subtrahend ⊢
  omega

theorem mulStep_eq (limb factor : UInt64) (carry : Nat) :
    (mulStep limb factor carry).1.toNat + limbBase * (mulStep limb factor carry).2 =
      limb.toNat * factor.toNat + carry := by
  simp only [mulStep, UInt64.toNat_ofNat']
  exact Nat.mod_add_div _ _

theorem toNat_mulLimb (word : Word) (factor : UInt64) :
    (word.mulLimb factor).toNat = word.toNat * factor.toNat % count := by
  have first := mulStep_eq word.limb0 factor 0
  have second := mulStep_eq word.limb1 factor (mulStep word.limb0 factor 0).2
  have third := mulStep_eq word.limb2 factor
    (mulStep word.limb1 factor (mulStep word.limb0 factor 0).2).2
  have fourth := mulStep_eq word.limb3 factor (mulStep word.limb2 factor
    (mulStep word.limb1 factor (mulStep word.limb0 factor 0).2).2).2
  have small := toNat_lt_count (word.mulLimb factor)
  rw [toNat_mul_eq]
  simp only [toNat, mulLimb, count, limbBase] at *
  omega

/-- A product is exact modulo the number of words, whichever way it takes. -/
theorem toNat_mul (left right : Word) :
    (left.mul right).toNat = left.toNat * right.toNat % count := by
  have leftBound := left.toNat_lt_count
  have rightBound := right.toNat_lt_count
  unfold mul
  by_cases trivial : (left.isZero || right.isZero) = true
  · have zero : left.toNat * right.toNat = 0 := by simpa [isZero_iff] using trivial
    rw [if_pos trivial, zero, toNat_zero, Nat.zero_mod]
  rw [if_neg trivial]
  by_cases leftOne : left = one
  · rw [if_pos leftOne, leftOne, toNat_one, Nat.one_mul, Nat.mod_eq_of_lt rightBound]
  rw [if_neg leftOne]
  by_cases rightOne : right = one
  · rw [if_pos rightOne, rightOne, toNat_one, Nat.mul_one, Nat.mod_eq_of_lt leftBound]
  rw [if_neg rightOne]
  by_cases leftPower : left.isPowerOfTwo = true
  · obtain ⟨equal, few⟩ := toNat_of_isPowerOfTwo leftPower
    rw [if_pos leftPower, toNat_shiftLeft right few, ← equal, Nat.mul_comm]
  rw [if_neg leftPower]
  by_cases rightPower : right.isPowerOfTwo = true
  · obtain ⟨equal, few⟩ := toNat_of_isPowerOfTwo rightPower
    rw [if_pos rightPower, toNat_shiftLeft left few, ← equal]
  rw [if_neg rightPower]
  by_cases rightFits : right.fitsLimb = true
  · rw [if_pos rightFits, toNat_mulLimb, toNat_of_fitsLimb rightFits]
  rw [if_neg rightFits]
  by_cases leftFits : left.fitsLimb = true
  · rw [if_pos leftFits, toNat_mulLimb, toNat_of_fitsLimb leftFits, Nat.mul_comm]
  rw [if_neg leftFits, toNat_ofNat]

end Word

end CancunMachine
