import Mathlib.Tactic
import CancunMachine.Word.Arithmetic

/-!
# Words as numbers

Comparison, sums and differences of words, read through `Word.toNat`. A limb of a sum passes its
carry on as the top bits of its operands show it.
-/

namespace CancunMachine

namespace Word

theorem count_eq : count = 2 ^ 256 := by
  simp only [count, limbBase]
  rfl

theorem toNat_lt_count (word : Word) : word.toNat < count := by
  have first := word.limb0.toNat_lt
  have second := word.limb1.toNat_lt
  have third := word.limb2.toNat_lt
  have fourth := word.limb3.toNat_lt
  unfold toNat count limbBase
  omega

theorem eq_of_toNat_eq {left right : Word} (same : left.toNat = right.toNat) : left = right := by
  have leftFirst := left.limb0.toNat_lt
  have leftSecond := left.limb1.toNat_lt
  have leftThird := left.limb2.toNat_lt
  have leftFourth := left.limb3.toNat_lt
  have rightFirst := right.limb0.toNat_lt
  have rightSecond := right.limb1.toNat_lt
  have rightThird := right.limb2.toNat_lt
  have rightFourth := right.limb3.toNat_lt
  unfold toNat limbBase at same
  cases left
  cases right
  congr 1 <;> apply UInt64.toNat_inj.mp <;> dsimp only at * <;> omega

theorem toNat_zero : zero.toNat = 0 := rfl

theorem isZero_iff {word : Word} : word.isZero = true ↔ word.toNat = 0 := by
  unfold isZero
  rw [beq_iff_eq]
  constructor
  · intro none
    simp only [UInt64.or_eq_zero_iff] at none
    obtain ⟨⟨⟨first, second⟩, third⟩, fourth⟩ := none
    unfold toNat
    rw [first, second, third, fourth]
    rfl
  · intro none
    rw [eq_of_toNat_eq (none.trans toNat_zero.symm)]
    rfl

theorem isZero_eq_decide (word : Word) : word.isZero = decide (word = zero) := by
  rw [Bool.eq_iff_iff, decide_eq_true_iff, isZero_iff]
  exact ⟨fun none => eq_of_toNat_eq none, fun same => same ▸ toNat_zero⟩

theorem compareLimb_eq_lt {left right : UInt64} :
    Ord.compare left right = .lt ↔ left.toNat < right.toNat := by
  rw [← UInt64.lt_iff_toNat_lt]
  simp only [Ord.compare, compareOfLessAndEq]
  split <;> rename_i less
  · simpa using less
  · split <;> simp [less]

theorem compareLimb_eq_eq {left right : UInt64} :
    Ord.compare left right = .eq ↔ left.toNat = right.toNat := by
  rw [UInt64.toNat_inj]
  simp only [Ord.compare, compareOfLessAndEq]
  split <;> rename_i less
  · simp only [reduceCtorEq, false_iff]
    rintro rfl
    exact absurd less (UInt64.lt_irrefl _)
  · split <;> rename_i same <;> simp [same]

theorem lt_iff {left right : Word} : left.lt right = true ↔ left.toNat < right.toNat := by
  have leftFirst := left.limb0.toNat_lt
  have leftSecond := left.limb1.toNat_lt
  have leftThird := left.limb2.toNat_lt
  have leftFourth := left.limb3.toNat_lt
  have rightFirst := right.limb0.toNat_lt
  have rightSecond := right.limb1.toNat_lt
  have rightThird := right.limb2.toNat_lt
  have rightFourth := right.limb3.toNat_lt
  unfold lt compare
  simp only [beq_iff_eq, Ordering.then_eq_lt, compareLimb_eq_lt, compareLimb_eq_eq]
  unfold toNat limbBase
  omega

theorem lt_eq_false_iff {left right : Word} : left.lt right = false ↔ right.toNat ≤ left.toNat := by
  rw [← Bool.not_eq_true, lt_iff, not_lt]

theorem toNat_topBit (limb : UInt64) : (limb >>> 63).toNat = limb.toBitVec.msb.toNat := by
  have small := limb.toNat_lt
  rw [BitVec.msb_eq_decide]
  change limb.toNat >>> 63 = _
  rw [Nat.shiftRight_eq_div_pow]
  by_cases high : 2 ^ 63 ≤ limb.toNat
  · have top : decide (2 ^ (64 - 1) ≤ limb.toBitVec.toNat) = true := by simpa using high
    rw [top]
    simp only [Bool.toNat_true]
    omega
  · have top : decide (2 ^ (64 - 1) ≤ limb.toBitVec.toNat) = false := by simpa using high
    rw [top]
    simp only [Bool.toNat_false]
    omega

/-- The carry out of a sum is the number of times it wraps around. -/
theorem toNat_carryOut (left right : UInt64) :
    (left + right).toNat + 2 ^ 64 * (carryOut left right (left + right)).toNat =
      left.toNat + right.toNat := by
  have leftSmall := left.toNat_lt
  have rightSmall := right.toNat_lt
  have sum : (left + right).toNat = (left.toNat + right.toNat) % 2 ^ 64 := UInt64.toNat_add _ _
  have wide : 0 < 64 := by decide
  unfold carryOut
  rw [toNat_topBit]
  simp only [UInt64.toBitVec_or, UInt64.toBitVec_and, UInt64.toBitVec_xor, UInt64.toBitVec_not,
    BitVec.msb_or, BitVec.msb_and, BitVec.msb_xor, BitVec.msb_not]
  simp only [BitVec.msb_eq_decide, UInt64.toNat_toBitVec, sum]
  by_cases leftHigh : 2 ^ 63 ≤ left.toNat <;> by_cases rightHigh : 2 ^ 63 ≤ right.toNat <;>
    by_cases sumHigh : 2 ^ 63 ≤ (left.toNat + right.toNat) % 2 ^ 64 <;>
    simp only [leftHigh, rightHigh, sumHigh, wide, Nat.reduceSub, decide_true, decide_false,
      Bool.and_true, Bool.and_false, Bool.or_true, Bool.or_false, Bool.xor_true, Bool.xor_false,
      Bool.not_true, Bool.not_false, Bool.toNat_true, Bool.toNat_false] <;> omega

theorem addLimb_eq (left right carry : UInt64) (bit : carry.toNat ≤ 1) :
    (addLimb left right carry).1.toNat + 2 ^ 64 * (addLimb left right carry).2.toNat =
      left.toNat + right.toNat + carry.toNat ∧ (addLimb left right carry).2.toNat ≤ 1 := by
  have leftSmall := left.toNat_lt
  have rightSmall := right.toNat_lt
  have sumSmall := (left + right).toNat_lt
  have totalSmall := (left + right + carry).toNat_lt
  have first := toNat_carryOut left right
  have second := toNat_carryOut (left + right) carry
  simp only [addLimb]
  -- At most one of the two additions wraps around.
  have either : (carryOut left right (left + right)).toNat = 0 ∨
      (carryOut (left + right) carry (left + right + carry)).toNat = 0 := by omega
  rcases either with none | none
  all_goals
    have zero := UInt64.toNat_inj.mp (none.trans UInt64.toNat_zero.symm)
    rw [zero]
    simp only [UInt64.zero_or, UInt64.or_zero]
    omega

theorem toNat_add (left right : Word) :
    (left.add right).toNat = (left.toNat + right.toNat) % count := by
  have first := addLimb_eq left.limb0 right.limb0 0 (Nat.zero_le 1)
  have second := addLimb_eq left.limb1 right.limb1 _ first.2
  have third := addLimb_eq left.limb2 right.limb2 _ second.2
  have fourth := addLimb_eq left.limb3 right.limb3 _ third.2
  simp only [UInt64.toNat_zero] at first
  have small := toNat_lt_count (left.add right)
  simp only [toNat, add, count, limbBase] at small ⊢
  omega

theorem toNat_add_of_lt {left right : Word} (fits : left.toNat + right.toNat < count) :
    (left.add right).toNat = left.toNat + right.toNat := by
  rw [toNat_add, Nat.mod_eq_of_lt fits]

/-- A sum that is not below its first part has not wrapped around. -/
theorem toNat_add_of_lt_eq_false {left right : Word} (grows : (left.add right).lt left = false) :
    (left.add right).toNat = left.toNat + right.toNat := by
  apply toNat_add_of_lt
  by_contra wraps
  have leftBound := left.toNat_lt_count
  have rightBound := right.toNat_lt_count
  rw [lt_eq_false_iff, toNat_add, Nat.mod_eq_sub_mod (not_lt.mp wraps),
    Nat.mod_eq_of_lt (by omega)] at grows
  omega

/-- A sum is not below its first part iff it does not wrap around. -/
theorem add_lt_eq_false_iff {left right : Word} :
    (left.add right).lt left = false ↔ left.toNat + right.toNat < count := by
  constructor
  · intro grows
    rw [← toNat_add_of_lt_eq_false grows]
    exact toNat_lt_count _
  · intro fits
    rw [lt_eq_false_iff, toNat_add_of_lt fits]
    exact Nat.le_add_right _ _

theorem subLimb_eq (left right borrow : UInt64) (bit : borrow.toNat ≤ 1) :
    (subLimb left right borrow).1.toNat + right.toNat + borrow.toNat =
      left.toNat + 2 ^ 64 * (subLimb left right borrow).2.toNat ∧
    (subLimb left right borrow).2.toNat ≤ 1 := by
  have leftSmall := left.toNat_lt
  have rightSmall := right.toNat_lt
  have difference := UInt64.toNat_sub left right
  have total := UInt64.toNat_sub (left - right) borrow
  simp only [subLimb, Bool.or_eq_true, decide_eq_true_eq, UInt64.lt_iff_toNat_lt]
  split
  · simp only [UInt64.toNat_one]
    omega
  · simp only [UInt64.toNat_zero]
    omega

theorem toNat_sub_of_le {left right : Word} (enough : right.toNat ≤ left.toNat) :
    (left.sub right).toNat = left.toNat - right.toNat := by
  have first := subLimb_eq left.limb0 right.limb0 0 (Nat.zero_le 1)
  have second := subLimb_eq left.limb1 right.limb1 _ first.2
  have third := subLimb_eq left.limb2 right.limb2 _ second.2
  have fourth := subLimb_eq left.limb3 right.limb3 _ third.2
  simp only [UInt64.toNat_zero] at first
  have small := toNat_lt_count (left.sub right)
  simp only [toNat, sub, count, limbBase] at small enough ⊢
  omega

/-- Taking away and giving back leaves a balance as it was. -/
theorem add_sub_cancel {left right : Word} (enough : right.toNat ≤ left.toNat) :
    (left.sub right).add right = left := by
  apply eq_of_toNat_eq
  have bounded := left.toNat_lt_count
  rw [toNat_add_of_lt] <;> rw [toNat_sub_of_le enough] <;> omega

end Word

end CancunMachine
