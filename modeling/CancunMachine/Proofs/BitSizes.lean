import Mathlib.Tactic
import CancunMachine.Proofs.Word.Bits

/-!
# Bit sizes

The scans that find the first or the last set bit look at one limb after the other. What they find
are properties of the number that the limbs make up together: the greatest power of two that divides
it, and the least powers of two and of 256 above it. The ways that arithmetic takes and the price of
an exponent are chosen by them.
-/

namespace CancunMachine

/-- A word is a power of two just where its number is one, and then its trailing zeros are the
exponent. The trailing zeros of a number other than zero are the most places by which it can be
divided, its bit length is the only one that its size has, and its byte length is the least that
has room for it. Zero has no bits, and 256 trailing zeros. -/
theorem bit_sizes_measure_the_number (word : Word) :
    (word.isPowerOfTwo = true ↔ ∃ exponent < 256, word.toNat = 2 ^ exponent) ∧
      (∀ exponent, word.toNat = 2 ^ exponent → word.trailingZeros = exponent) ∧
      (word.toNat ≠ 0 →
        IsGreatest {places | 2 ^ places ∣ word.toNat} word.trailingZeros ∧
        ∀ length, 2 ^ (length - 1) ≤ word.toNat ∧ word.toNat < 2 ^ length ↔
          length = word.bitLength) ∧
      (word.toNat = 0 → word.bitLength = 0 ∧ word.trailingZeros = 256) ∧
      IsLeast {size | word.toNat < 256 ^ size} word.byteLength := by
  refine ⟨⟨?_, ?_⟩, ?_, fun some => ⟨?_, ?_⟩, ?_, ?_⟩
  · intro power
    obtain ⟨equal, small⟩ := Word.toNat_of_isPowerOfTwo power
    exact ⟨_, small, equal⟩
  · rintro ⟨exponent, _, equal⟩
    exact Word.isPowerOfTwo_iff.mpr ⟨exponent, equal⟩
  · intro exponent equal
    have power := Word.isPowerOfTwo_iff.mpr ⟨exponent, equal⟩
    have same := (Word.toNat_of_isPowerOfTwo power).1
    exact Nat.pow_right_injective (le_refl 2) (same.symm.trans equal)
  · have divides := (Word.hasLowestBit_trailingZeros some).two_pow_dvd_iff
    exact ⟨(divides _).mpr (le_refl _), fun places member => (divides places).mp member⟩
  · intro length
    rw [← Word.bitLength_le_iff, ← not_lt, ← Word.bitLength_le_iff]
    have positive := Word.bitLength_eq some
    omega
  · intro none
    obtain rfl := Word.eq_of_toNat_eq (none.trans Word.toNat_zero.symm)
    decide
  · have fits := word.byteLength_le_iff
    exact ⟨(fits _).mp (le_refl _), fun size room => (fits size).mpr room⟩

end CancunMachine
