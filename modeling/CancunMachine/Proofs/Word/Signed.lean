import CancunMachine.Proofs.Word.Quotient

/-!
# Signed words

A word stands for a number between `-2 ^ 255` and `2 ^ 255`, and every integer has one encoding modulo
`2 ^ 256`. Signed quotients and remainders are the truncated ones of these numbers, encoded again.
-/

namespace CancunMachine

namespace Word

variable {word : Word}

theorem isNegative_iff : word.isNegative = true ↔ 2 ^ 255 ≤ word.toNat := by
  have first := word.limb0.toNat_lt
  have second := word.limb1.toNat_lt
  have third := word.limb2.toNat_lt
  have top : (word.limb3 >>> 63).toNat = word.limb3.toNat / 2 ^ 63 := by
    rw [UInt64.toNat_shiftRight, Nat.shiftRight_eq_div_pow]
    rfl
  have fourth := word.limb3.toNat_lt
  unfold isNegative toNat limbBase
  rw [beq_iff_eq, ← UInt64.toNat_inj, top, UInt64.toNat_one]
  omega

/-- The two's-complement reading, by the size of the number. -/
theorem toInt_eq (word : Word) :
    word.toInt = if word.toNat < 2 ^ 255 then (word.toNat : Int) else word.toNat - 2 ^ 256 := by
  unfold toInt
  by_cases negative : word.isNegative = true
  · have high := isNegative_iff.mp negative
    rw [if_pos negative, if_neg (by omega), count_eq]
    rfl
  · rw [if_neg negative, if_pos (not_le.mp (mt isNegative_iff.mpr negative))]

/-- A word reads as its number or as the opposite of that of its absolute value; the smallest word is
its own absolute value. -/
theorem toInt_eq_abs (word : Word) :
    word.toInt = if word.isNegative then -(word.abs.toNat : Int) else word.abs.toNat := by
  have bound := word.toNat_lt_count
  unfold toInt abs
  by_cases negative : word.isNegative = true
  · have high := isNegative_iff.mp negative
    have opposite : word.negate.toNat = count - word.toNat := by
      rw [toNat_negate]
      exact Nat.mod_eq_of_lt (Nat.sub_lt_self ((Nat.two_pow_pos 255).trans_le high) bound.le)
    rw [if_pos negative, if_pos negative, if_pos negative, opposite, Int.ofNat_sub bound.le, Int.neg_sub]
  · rw [if_neg negative, if_neg negative, if_neg negative]

theorem toNat_abs_ne_zero (positive : word.toNat ≠ 0) : word.abs.toNat ≠ 0 := by
  intro none
  have read := toInt_eq_abs word
  rw [none, Nat.cast_zero, neg_zero, ite_self, toInt_eq] at read
  have bound := word.toNat_lt_count
  rw [count_eq] at bound
  split at read <;> omega

theorem toNat_negate_eq_emod (word : Word) :
    (word.negate.toNat : Int) = -(word.toNat : Int) % count := by
  have bound := word.toNat_lt_count
  rw [toNat_negate, Int.natCast_mod, Int.ofNat_sub bound.le, Int.sub_eq_add_neg,
    Int.add_emod_left]

theorem toNat_sub_eq_emod (left right : Word) :
    ((left.sub right).toNat : Int) = ((left.toNat : Int) - right.toNat) % count := by
  have regrouped : (left.toNat : Int) + (count - right.toNat) =
      (left.toNat - right.toNat) + count := by ring
  rw [toNat_sub, Int.natCast_mod, Int.natCast_add, Int.ofNat_sub right.toNat_lt_count.le,
    regrouped, Int.add_emod_right]

theorem toNat_eq_emod (word : Word) : (word.toNat : Int) = (word.toNat : Int) % count :=
  (Int.emod_eq_of_lt (Int.natCast_nonneg _) (Int.ofNat_lt.mpr word.toNat_lt_count)).symm

theorem toNat_of_toInt_least (least : word.toInt = -2 ^ 255) : word.toNat = 2 ^ 255 := by
  rw [toInt_eq] at least
  split at least <;> omega

theorem toInt_eq_zero (none : word.toNat = 0) : word.toInt = 0 := by
  rw [toInt_eq, none]
  rfl

/-- The signed quotient is truncated toward zero; that of the smallest word and minus one wraps around. -/
theorem toNat_sdiv (dividend divisor : Word) :
    ((dividend.sdiv divisor).toNat : Int) = dividend.toInt.tdiv divisor.toInt % count := by
  unfold sdiv
  by_cases trivial : (dividend.isZero || divisor.isZero) = true
  · rw [if_pos trivial, toNat_zero]
    rcases Bool.or_eq_true_iff.mp trivial with none | none
    · rw [toInt_eq_zero (isZero_iff.mp none), Int.zero_tdiv]
      rfl
    · rw [toInt_eq_zero (isZero_iff.mp none), Int.tdiv_zero]
      rfl
  rw [if_neg trivial, toInt_eq_abs dividend, toInt_eq_abs divisor]
  have quotient : ((dividend.abs.div divisor.abs).toNat : Int) =
      Int.tdiv dividend.abs.toNat divisor.abs.toNat := by
    rw [toNat_div, Int.ofNat_tdiv]
  cases dividend.isNegative <;> cases divisor.isNegative
  · simp [← quotient, ← toNat_eq_emod]
  · simp [Int.tdiv_neg, ← quotient, toNat_negate_eq_emod]
  · simp [Int.neg_tdiv, ← quotient, toNat_negate_eq_emod]
  · simp [Int.neg_tdiv, Int.tdiv_neg, ← quotient, ← toNat_eq_emod]

/-- The signed remainder has the sign of the dividend; it is zero if the divisor is. -/
theorem toNat_smod (dividend divisor : Word) :
    ((dividend.smod divisor).toNat : Int) =
      if divisor.toNat = 0 then 0 else dividend.toInt.tmod divisor.toInt % count := by
  unfold smod
  by_cases trivial : (dividend.isZero || divisor.isZero) = true
  · rw [if_pos trivial, toNat_zero]
    rcases Bool.or_eq_true_iff.mp trivial with none | none
    · rw [toInt_eq_zero (isZero_iff.mp none), Int.zero_tmod]
      exact (ite_self _).symm
    · rw [if_pos (isZero_iff.mp none)]
      rfl
  have positive : divisor.toNat ≠ 0 := by
    rintro none
    exact trivial (by simp [isZero_iff.mpr none])
  have remainder : ((dividend.abs.rem divisor.abs).toNat : Int) =
      Int.tmod dividend.abs.toNat divisor.abs.toNat := by
    rw [toNat_rem, if_neg (toNat_abs_ne_zero positive), Int.ofNat_tmod]
  rw [if_neg trivial, if_neg positive, toInt_eq_abs dividend, toInt_eq_abs divisor]
  cases dividend.isNegative <;> cases divisor.isNegative
  · simp [← remainder, ← toNat_eq_emod]
  · simp [Int.tmod_neg, ← remainder, ← toNat_eq_emod]
  · simp [Int.neg_tmod, ← remainder, toNat_negate_eq_emod]
  · simp [Int.neg_tmod, Int.tmod_neg, ← remainder, toNat_negate_eq_emod]

end Word

end CancunMachine
