import CancunMachine.Proofs.Word.Product

/-!
# Quotients and remainders of words

No division is ever refused: those that are carried out are by divisors other than zero. Quotient and
remainder are those of the numbers, on every way through the easy cases.
-/

namespace CancunMachine

namespace Word

variable {dividend divisor : Word}

theorem compare_eq (left right : Word) :
    left.compare right = Ord.compare left.toNat right.toNat := by
  rcases lt_trichotomy left.toNat right.toNat with below | same | above
  · rw [Nat.compare_eq_lt.mpr below]
    simpa [lt] using lt_iff.mpr below
  · rw [eq_of_toNat_eq same, Nat.compare_eq_eq.mpr rfl]
    simp only [compare, Ordering.then_eq_eq, compareLimb_eq_eq, and_self]
  · rw [Nat.compare_eq_gt.mpr above]
    cases order : left.compare right with
    | lt =>
        have below := lt_iff.mp (show left.lt right = true by simp [lt, order])
        omega
    | eq =>
        simp only [compare, Ordering.then_eq_eq, compareLimb_eq_eq] at order
        simp only [toNat, order] at above
        omega
    | gt => rfl

/-- A divisor below a dividend of one limb is a limb itself. -/
theorem toNat_of_lt_of_fitsLimb (fits : dividend.fitsLimb = true)
    (below : divisor.toNat < dividend.toNat) : divisor.toNat = divisor.limb0.toNat :=
  toNat_of_fitsLimb (fitsLimb_iff.mpr (below.trans (fitsLimb_iff.mp fits)))

/-- Neither of the two divisions is by zero once zero itself is out of the way. -/
theorem divisions_allowed (positive : divisor.toNat ≠ 0) (above : divisor.toNat < dividend.toNat)
    (limbs numbers : Word) :
    (if dividend.fitsLimb then dividing? divisor.limb0.toNat limbs
      else dividing? divisor.toNat numbers) =
      some (if dividend.fitsLimb then limbs else numbers) := by
  by_cases fits : dividend.fitsLimb = true
  · rw [if_pos fits, if_pos fits, dividing?, if_neg]
    rwa [← toNat_of_lt_of_fitsLimb fits above]
  · rw [if_neg fits, if_neg fits, dividing?, if_neg positive]

/-- No quotient is refused, and each is that of the numbers. -/
theorem div?_spec (dividend divisor : Word) :
    ∃ quotient, dividend.div? divisor = some quotient ∧
      quotient.toNat = dividend.toNat / divisor.toNat := by
  have dividendBound := dividend.toNat_lt_count
  unfold div?
  by_cases trivial : (divisor.isZero || dividend.isZero) = true
  · have zero : dividend.toNat / divisor.toNat = 0 := by
      rcases Bool.or_eq_true_iff.mp trivial with none | none <;> simp [isZero_iff.mp none]
    rw [if_pos trivial, zero]
    exact ⟨_, rfl, toNat_zero⟩
  have positive : divisor.toNat ≠ 0 := by
    rintro none
    exact trivial (by simp [isZero_iff.mpr none])
  rw [if_neg trivial]
  by_cases unit : divisor = one
  · rw [if_pos unit, unit, toNat_one, Nat.div_one]
    exact ⟨_, rfl, rfl⟩
  rw [if_neg unit, compare_eq]
  rcases lt_trichotomy dividend.toNat divisor.toNat with below | same | above
  · rw [Nat.compare_eq_lt.mpr below, Nat.div_eq_of_lt below]
    exact ⟨_, rfl, toNat_zero⟩
  · rw [Nat.compare_eq_eq.mpr same, same, Nat.div_self (Nat.pos_of_ne_zero positive)]
    exact ⟨_, rfl, toNat_one⟩
  · simp only [Nat.compare_eq_gt.mpr above, divisions_allowed positive above]
    by_cases power : divisor.isPowerOfTwo = true
    · obtain ⟨equal, few⟩ := toNat_of_isPowerOfTwo power
      rw [if_pos power, equal]
      exact ⟨_, rfl, toNat_shiftRight dividend few⟩
    rw [if_neg power]
    refine ⟨_, rfl, ?_⟩
    by_cases fits : dividend.fitsLimb = true
    · rw [if_pos fits, toNat_ofLimb, UInt64.toNat_div, toNat_of_fitsLimb fits,
        toNat_of_lt_of_fitsLimb fits above]
    · rw [if_neg fits, toNat_ofNat, Nat.mod_eq_of_lt]
      exact lt_of_le_of_lt (Nat.div_le_self _ _) dividendBound

/-- No remainder is refused, and each is that of the numbers, or zero if the divisor is zero. -/
theorem rem?_spec (dividend divisor : Word) :
    ∃ remainder, dividend.rem? divisor = some remainder ∧
      remainder.toNat = if divisor.toNat = 0 then 0 else dividend.toNat % divisor.toNat := by
  have dividendBound := dividend.toNat_lt_count
  unfold rem?
  by_cases trivial : (divisor.isZero || divisor = one) = true
  · rw [if_pos trivial, remainder_of_le_one (isZero_or_one_iff.mp trivial)]
    exact ⟨_, rfl, toNat_zero⟩
  have positive : divisor.toNat ≠ 0 := by
    have large := mt isZero_or_one_iff.mpr trivial
    omega
  rw [if_neg trivial, if_neg positive, compare_eq]
  rcases lt_trichotomy dividend.toNat divisor.toNat with below | same | above
  · rw [Nat.compare_eq_lt.mpr below, Nat.mod_eq_of_lt below]
    exact ⟨_, rfl, rfl⟩
  · rw [Nat.compare_eq_eq.mpr same, same, Nat.mod_self]
    exact ⟨_, rfl, toNat_zero⟩
  · simp only [Nat.compare_eq_gt.mpr above, divisions_allowed positive above]
    by_cases power : divisor.isPowerOfTwo = true
    · rw [if_pos power]
      exact ⟨_, rfl, toNat_and_sub_one power⟩
    rw [if_neg power]
    refine ⟨_, rfl, ?_⟩
    by_cases fits : dividend.fitsLimb = true
    · rw [if_pos fits, toNat_ofLimb, UInt64.toNat_mod, toNat_of_fitsLimb fits,
        toNat_of_lt_of_fitsLimb fits above]
    · rw [if_neg fits, toNat_ofNat, Nat.mod_eq_of_lt]
      exact lt_of_le_of_lt (Nat.mod_le _ _) dividendBound

theorem div?_eq_some (dividend divisor : Word) :
    dividend.div? divisor = some (dividend.div divisor) := by
  obtain ⟨quotient, divides, _⟩ := div?_spec dividend divisor
  rw [div, divides, Option.getD_some]

theorem rem?_eq_some (dividend divisor : Word) :
    dividend.rem? divisor = some (dividend.rem divisor) := by
  obtain ⟨remainder, divides, _⟩ := rem?_spec dividend divisor
  rw [rem, divides, Option.getD_some]

/-- The quotient is that of the numbers, and zero if the divisor is zero. -/
theorem toNat_div (dividend divisor : Word) :
    (dividend.div divisor).toNat = dividend.toNat / divisor.toNat := by
  obtain ⟨quotient, divides, equal⟩ := div?_spec dividend divisor
  rw [div, divides, Option.getD_some, equal]

/-- The remainder is that of the numbers, and zero if the divisor is zero. -/
theorem toNat_rem (dividend divisor : Word) :
    (dividend.rem divisor).toNat =
      if divisor.toNat = 0 then 0 else dividend.toNat % divisor.toNat := by
  obtain ⟨remainder, divides, equal⟩ := rem?_spec dividend divisor
  rw [rem, divides, Option.getD_some, equal]

end Word

end CancunMachine
