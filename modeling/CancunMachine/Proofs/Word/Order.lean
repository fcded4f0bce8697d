import CancunMachine.Proofs.Word.Signed

/-!
# The order of words

The highest limbs that differ decide a comparison, as the highest digits of numbers do. Read as a signed
number, the top limb makes it the comparison of the two's-complement readings.
-/

namespace CancunMachine

namespace Word

variable {left right : Word}

/-- Numbers compare by their high digits, and by their low ones if the high ones are the same. -/
theorem compare_digits {base low low' : Int} (high high' : Int) (digit : 0 ≤ low ∧ low < base)
    (digit' : 0 ≤ low' ∧ low' < base) :
    (Ord.compare high high').then (Ord.compare low low') =
      Ord.compare (low + base * high) (low' + base * high') := by
  have room : ∀ {lower upper : Int}, lower < upper → base * lower + base ≤ base * upper := by
    intro lower upper below
    rw [← mul_add_one]
    exact Int.mul_le_mul_of_nonneg_left (Int.add_one_le_of_lt below) (digit.1.trans digit.2.le)
  rcases lt_trichotomy high high' with below | rfl | above
  · have sum : low + base * high < low' + base * high' := by
      have apart := room below
      omega
    rw [compare_lt_iff_lt.mpr below, compare_lt_iff_lt.mpr sum]
    rfl
  · rw [compare_eq_iff_eq.mpr rfl, Ordering.then]
    simp only [Ord.compare, compareOfLessAndEq, Int.add_lt_add_iff_right, add_left_inj]
  · have sum : low' + base * high' < low + base * high := by
      have apart := room above
      omega
    rw [compare_gt_iff_gt.mpr above, compare_gt_iff_gt.mpr sum]
    rfl

theorem compare_natCast (first second : Nat) :
    Ord.compare (first : Int) second = Ord.compare first second := by
  simp only [Ord.compare, compareOfLessAndEq, Int.ofNat_lt, Int.natCast_inj]

theorem compare_toInt (first second : Int64) :
    Ord.compare first second = Ord.compare first.toInt second.toInt := by
  simp only [Ord.compare, compareOfLessAndEq, Int64.lt_iff_toInt_lt, ← Int64.toInt_inj]

theorem toNat_eq_top (word : Word) :
    word.toNat = toNat { word with limb3 := 0 } + 2 ^ 192 * word.limb3.toNat := by
  simp only [toNat, limbBase, UInt64.toNat_zero]
  omega

theorem toNat_lt_top (word : Word) : toNat { word with limb3 := 0 } < 2 ^ 192 := by
  have first := word.limb0.toNat_lt
  have second := word.limb1.toNat_lt
  have third := word.limb2.toNat_lt
  simp only [toNat, limbBase, UInt64.toNat_zero]
  omega

/-- Only the top limb of a word carries the sign. -/
theorem toInt_eq_top (word : Word) :
    word.toInt = (toNat { word with limb3 := 0 } : Int) + 2 ^ 192 * word.limb3.toInt64.toInt := by
  have whole := toNat_eq_top word
  have low := toNat_lt_top word
  have limb := word.limb3.toNat_lt
  have top : word.limb3.toInt64.toInt =
      if 2 * word.limb3.toNat < 2 ^ 64 then (word.limb3.toNat : Int)
      else word.limb3.toNat - (2 ^ 64 : Nat) :=
    BitVec.toInt_eq_toNat_cond _
  rw [top, toInt_eq]
  by_cases positive : 2 * word.limb3.toNat < 2 ^ 64
  · rw [if_pos positive, if_pos (by omega)]
    omega
  · rw [if_neg positive, if_neg (by omega)]
    omega

/-- The signed comparison of words is that of their two's-complement readings. -/
theorem compareSigned_eq (left right : Word) :
    left.compareSigned right = Ord.compare left.toInt right.toInt := by
  have low : ∀ word : Word, 0 ≤ (toNat { word with limb3 := 0 } : Int) ∧
      (toNat { word with limb3 := 0 } : Int) < 2 ^ 192 :=
    fun word => ⟨Int.natCast_nonneg _, by exact_mod_cast toNat_lt_top word⟩
  have unsigned : left.compareSigned right =
      (Ord.compare left.limb3.toInt64 right.limb3.toInt64).then
        (compare { left with limb3 := 0 } { right with limb3 := 0 }) := rfl
  rw [unsigned, compare_eq, compare_toInt, ← compare_natCast, toInt_eq_top, toInt_eq_top,
    compare_digits _ _ (low left) (low right)]

theorem gt_iff : left.gt right = true ↔ right.toNat < left.toNat := by
  rw [gt, compare_eq, beq_iff_eq]
  exact compare_gt_iff_gt

theorem slt_iff : left.slt right = true ↔ left.toInt < right.toInt := by
  rw [slt, compareSigned_eq, beq_iff_eq]
  exact compare_lt_iff_lt

theorem sgt_iff : left.sgt right = true ↔ right.toInt < left.toInt := by
  rw [sgt, compareSigned_eq, beq_iff_eq]
  exact compare_gt_iff_gt

end Word

end CancunMachine
