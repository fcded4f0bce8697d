import CancunMachine.Proofs.Word.Modular
import CancunMachine.Proofs.Word.Order
import CancunMachine.Proofs.Word.Places

/-!
# Words compute exactly

Whichever way an operation takes, its result is that of the operation on numbers, reduced modulo
`2 ^ 256`; signed operations read their operands in two's complement.
-/

namespace CancunMachine

theorem Word.natCast_count : (Word.count : Int) = 2 ^ 256 := by
  rw [Word.count_eq]
  exact Int.natCast_pow 2 256

/-- Sums, differences, opposites and products are exact modulo `2 ^ 256`. -/
theorem sums_and_products_are_exact (left right : Word) :
    (left.add right).toNat = (left.toNat + right.toNat) % 2 ^ 256 ∧
      ((left.sub right).toNat : Int) = ((left.toNat : Int) - right.toNat) % 2 ^ 256 ∧
      (left.negate.toNat : Int) = -(left.toNat : Int) % 2 ^ 256 ∧
      (left.mul right).toNat = left.toNat * right.toNat % 2 ^ 256 := by
  rw [← Word.count_eq, ← Word.natCast_count]
  exact ⟨Word.toNat_add left right, Word.toNat_sub_eq_emod left right,
    Word.toNat_negate_eq_emod left, Word.toNat_mul left right⟩

/-- Quotients and remainders are exact, zero for the divisor zero, and signed ones are truncated; no
division by zero is carried out, and no quick way differs from the division of the numbers. -/
theorem division_is_exact (dividend divisor : Word) :
    (dividend.div divisor).toNat =
        (if divisor.toNat = 0 then 0 else dividend.toNat / divisor.toNat) ∧
      (dividend.rem divisor).toNat =
        (if divisor.toNat = 0 then 0 else dividend.toNat % divisor.toNat) ∧
      ((dividend.sdiv divisor).toNat : Int) =
        (if divisor.toNat = 0 then 0 else dividend.toInt.tdiv divisor.toInt % 2 ^ 256) ∧
      ((dividend.smod divisor).toNat : Int) =
        (if divisor.toNat = 0 then 0 else dividend.toInt.tmod divisor.toInt % 2 ^ 256) ∧
      (dividend.toInt = -2 ^ 255 → divisor.toInt = -1 → dividend.sdiv divisor = dividend) ∧
      (∀ word : Word, word.toInt =
        if word.toNat < 2 ^ 255 then (word.toNat : Int) else word.toNat - 2 ^ 256) ∧
      (divisor.toNat ≠ 0 → dividend.div divisor = .ofNat (dividend.toNat / divisor.toNat) ∧
        dividend.rem divisor = .ofNat (dividend.toNat % divisor.toNat)) ∧
      dividend.div? divisor = some (dividend.div divisor) ∧
      dividend.rem? divisor = some (dividend.rem divisor) := by
  have quotient := Word.toNat_div dividend divisor
  have remainder := Word.toNat_rem dividend divisor
  have signed := Word.toNat_sdiv dividend divisor
  rw [← Word.natCast_count]
  refine ⟨?_, remainder, ?_, Word.toNat_smod dividend divisor, ?_, Word.toInt_eq, ?_,
    Word.div?_eq_some dividend divisor, Word.rem?_eq_some dividend divisor⟩
  · split
    · rename_i none
      rw [quotient, none, Nat.div_zero]
    · exact quotient
  · split
    · rename_i none
      rw [signed, Word.toInt_eq_zero none, Int.tdiv_zero, Int.zero_emod]
    · exact signed
  · intro least minusOne
    have wrapped : (2 ^ 255 : Int) % Word.count = 2 ^ 255 := by
      rw [Word.natCast_count]
      exact Int.emod_eq_of_lt (by positivity) (by norm_num)
    rw [least, minusOne, Int.neg_tdiv, Int.tdiv_neg, Int.tdiv_one, Int.neg_neg, wrapped] at signed
    have same := Word.toNat_of_toInt_least least
    apply Word.eq_of_toNat_eq
    omega
  · intro positive
    rw [if_neg positive] at remainder
    rw [← quotient, ← remainder]
    exact ⟨(Word.ofNat_toNat _).symm, (Word.ofNat_toNat _).symm⟩

/-- Remainders of sums and products are those of the untruncated ones, and powers are exact modulo
`2 ^ 256` for every exponent. -/
theorem modular_arithmetic_is_exact (left right modulus : Word) :
    (left.addMod right modulus).toNat =
        (if modulus.toNat = 0 then 0 else (left.toNat + right.toNat) % modulus.toNat) ∧
      (left.mulMod right modulus).toNat =
        (if modulus.toNat = 0 then 0 else left.toNat * right.toNat % modulus.toNat) ∧
      (left.exp right).toNat = left.toNat ^ right.toNat % 2 ^ 256 := by
  rw [← Word.count_eq]
  exact ⟨Word.toNat_addMod left right modulus, Word.toNat_mulMod left right modulus,
    Word.toNat_exp left right⟩

example : Word.zero.exp .zero = .one := by decide

/-- Shifts by any word multiply and divide by powers of two, where an arithmetic shift rounds down; an
extended sign is that of the lowest bytes; a byte is a digit in base 256; and words compare as the
numbers and the signed numbers do that they stand for. -/
theorem bits_move_and_compare_exactly (shift index word other : Word) :
    (Word.shl shift word).toNat = word.toNat * 2 ^ shift.toNat % 2 ^ 256 ∧
      (Word.shr shift word).toNat = word.toNat / 2 ^ shift.toNat ∧
      ((Word.sar shift word).toNat : Int) = word.toInt.fdiv (2 ^ shift.toNat) % 2 ^ 256 ∧
      ((Word.signExtend index word).toNat : Int) =
        (if index.toNat < 31 then
          (BitVec.ofNat (8 * (index.toNat + 1)) word.toNat).toInt % 2 ^ 256
        else (word.toNat : Int)) ∧
      (Word.byte index word).toNat =
        (if index.toNat < 32 then word.toNat / 256 ^ (31 - index.toNat) % 256 else 0) ∧
      word.compare other = Ord.compare word.toNat other.toNat ∧
      word.compareSigned other = Ord.compare word.toInt other.toInt ∧
      (word.lt other = true ↔ word.toNat < other.toNat) ∧
      (word.gt other = true ↔ other.toNat < word.toNat) ∧
      (word.slt other = true ↔ word.toInt < other.toInt) ∧
      (word.sgt other = true ↔ other.toInt < word.toInt) := by
  rw [← Word.count_eq, ← Word.natCast_count]
  exact ⟨Word.toNat_shl shift word, Word.toNat_shr shift word, Word.toNat_sar shift word,
    Word.toNat_signExtend index word, Word.toNat_byte index word, Word.compare_eq word other,
    Word.compareSigned_eq word other, Word.lt_iff, Word.gt_iff, Word.slt_iff, Word.sgt_iff⟩

example : Word.sar ⟨0, 1, 0, 0⟩ (.negate .one) = .negate .one := by decide

end CancunMachine
