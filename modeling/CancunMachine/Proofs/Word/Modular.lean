import CancunMachine.Proofs.Word.Product

/-!
# Modular arithmetic and powers

A power of two divides the number of words, so that a remainder by it survives the truncation of a sum
or a product. Square and multiply reads the exponent bit by bit from its lowest one on.
-/

namespace CancunMachine

namespace Word

variable {word modulus : Word}

theorem dvd_count_of_isPowerOfTwo (power : modulus.isPowerOfTwo = true) :
    modulus.toNat ∣ count := by
  obtain ⟨equal, few⟩ := toNat_of_isPowerOfTwo power
  rw [equal, count_eq]
  exact pow_dvd_pow 2 few.le

/-- The remainder of the untruncated sum. -/
theorem toNat_addMod (left right modulus : Word) :
    (left.addMod right modulus).toNat =
      if modulus.toNat = 0 then 0 else (left.toNat + right.toNat) % modulus.toNat := by
  unfold addMod
  by_cases trivial : (modulus.isZero || modulus = one) = true
  · rw [if_pos trivial, toNat_zero, remainder_of_le_one (isZero_or_one_iff.mp trivial)]
  have positive : modulus.toNat ≠ 0 := by
    have large := mt isZero_or_one_iff.mpr trivial
    omega
  rw [if_neg trivial, if_neg positive]
  by_cases power : modulus.isPowerOfTwo = true
  · rw [if_pos power, toNat_and_sub_one power, toNat_add,
      Nat.mod_mod_of_dvd _ (dvd_count_of_isPowerOfTwo power)]
  · rw [if_neg power, toNat_ofNat, Nat.mod_eq_of_lt]
    exact (Nat.mod_lt _ (Nat.pos_of_ne_zero positive)).trans modulus.toNat_lt_count

/-- The remainder of the untruncated product. -/
theorem toNat_mulMod (left right modulus : Word) :
    (left.mulMod right modulus).toNat =
      if modulus.toNat = 0 then 0 else left.toNat * right.toNat % modulus.toNat := by
  unfold mulMod
  by_cases trivial : (modulus.isZero || modulus = one || left.isZero || right.isZero) = true
  · rw [if_pos trivial, toNat_zero]
    rcases Bool.or_eq_true_iff.mp trivial with rest | none
    · rcases Bool.or_eq_true_iff.mp rest with small | none
      · rw [remainder_of_le_one (isZero_or_one_iff.mp small)]
      · rw [isZero_iff.mp none, Nat.zero_mul, Nat.zero_mod, ite_self]
    · rw [isZero_iff.mp none, Nat.mul_zero, Nat.zero_mod, ite_self]
  have positive : modulus.toNat ≠ 0 := by
    rintro none
    exact trivial (by simp [isZero_iff.mpr none])
  rw [if_neg trivial, if_neg positive]
  by_cases power : modulus.isPowerOfTwo = true
  · rw [if_pos power, toNat_and_sub_one power, toNat_mul,
      Nat.mod_mod_of_dvd _ (dvd_count_of_isPowerOfTwo power)]
  · rw [if_neg power, toNat_ofNat, Nat.mod_eq_of_lt]
    exact (Nat.mod_lt _ (Nat.pos_of_ne_zero positive)).trans modulus.toNat_lt_count

/-- The loop multiplies its result by the power of the square to the bits that are still to be read. -/
theorem toNat_powLoop (exponent remaining : Nat) (square result : Word) :
    (powLoop exponent remaining square result).toNat =
      result.toNat * square.toNat ^ (exponent % 2 ^ remaining) % count := by
  induction remaining generalizing exponent square result with
  | zero =>
      rw [powLoop, pow_zero, Nat.mod_one, pow_zero, Nat.mul_one,
        Nat.mod_eq_of_lt result.toNat_lt_count]
  | succ remaining inductionHypothesis =>
      have next : (if exponent % 2 = 1 then result.mul square else result).toNat ≡
          result.toNat * square.toNat ^ (exponent % 2) [MOD count] := by
        rcases Nat.mod_two_eq_zero_or_one exponent with even | odd
        · simp [even, Nat.ModEq]
        · simp [odd, Nat.ModEq, toNat_mul]
      have bits : exponent % 2 ^ (remaining + 1) =
          exponent % 2 + 2 * (exponent / 2 % 2 ^ remaining) := by
        rw [pow_succ', Nat.mod_mul]
      have squared : (square.mul square).toNat ≡ square.toNat ^ 2 [MOD count] := by
        rw [toNat_mul, pow_two]
        exact Nat.mod_modEq _ _
      cases remaining with
      | zero =>
          rw [powLoop, bits, pow_zero, Nat.mod_one, Nat.mul_zero, Nat.add_zero, ← next,
            Nat.mod_eq_of_lt (toNat_lt_count _)]
      | succ remaining =>
          have power : square.toNat ^ (exponent % 2 ^ (remaining + 2)) = square.toNat ^ (exponent % 2) *
              (square.toNat ^ 2) ^ (exponent / 2 % 2 ^ (remaining + 1)) := by
            rw [bits, pow_add (square.toNat), pow_mul (square.toNat)]
          change (powLoop (exponent / 2) (remaining + 1) (square.mul square) _).toNat = _
          rw [inductionHypothesis, power, ← Nat.mul_assoc]
          exact next.mul (squared.pow _)

/-- Powers of a power of two are settled by one shift; an exponent that is cut to a limb is far too
large for the result to be anything but zero. -/
theorem toNat_exp_of_isPowerOfTwo {base : Word} (power : base.isPowerOfTwo = true)
    (notOne : base ≠ one) (exponent : Word) :
    (if exponent.toNatSaturating * base.trailingZeros < 256
      then one.shiftLeft (exponent.toNatSaturating * base.trailingZeros) else zero).toNat =
      base.toNat ^ exponent.toNat % count := by
  obtain ⟨equal, few⟩ := toNat_of_isPowerOfTwo power
  have places : base.trailingZeros ≠ 0 := by
    intro none
    rw [none, pow_zero] at equal
    exact notOne (eq_of_toNat_eq equal)
  have whole : base.toNat ^ exponent.toNat = 2 ^ (exponent.toNat * base.trailingZeros) := by
    rw [equal, ← pow_mul, Nat.mul_comm]
  rw [whole, toNatSaturating_eq]
  by_cases short : exponent.toNat ≤ limbBase - 1
  · rw [Nat.min_eq_left short]
    by_cases within : exponent.toNat * base.trailingZeros < 256
    · rw [if_pos within, toNat_shiftLeft _ within, toNat_one, Nat.one_mul]
    · rw [if_neg within, toNat_zero, count_eq]
      exact (Nat.mod_eq_zero_of_dvd (pow_dvd_pow 2 (not_lt.mp within))).symm
  · have enough : 256 ≤ (limbBase - 1) * base.trailingZeros :=
      le_trans (by decide) (Nat.le_mul_of_pos_right _ (Nat.pos_of_ne_zero places))
    have more := Nat.mul_le_mul_right base.trailingZeros (not_le.mp short).le
    rw [Nat.min_eq_right (not_le.mp short).le, if_neg (not_lt.mpr enough), toNat_zero, count_eq]
    exact (Nat.mod_eq_zero_of_dvd (pow_dvd_pow 2 (enough.trans more))).symm

/-- A power is exact modulo the number of words, also when the exponent is no limb. -/
theorem toNat_exp (base exponent : Word) :
    (base.exp exponent).toNat = base.toNat ^ exponent.toNat % count := by
  have baseBound := base.toNat_lt_count
  have one_lt : 1 < count := by decide
  unfold exp
  by_cases nothing : exponent.isZero = true
  · rw [if_pos nothing, isZero_iff.mp nothing, pow_zero, toNat_one, Nat.mod_eq_of_lt one_lt]
  have positive : exponent.toNat ≠ 0 := fun none => nothing (isZero_iff.mpr none)
  rw [if_neg nothing]
  by_cases baseZero : base.isZero = true
  · rw [if_pos baseZero, isZero_iff.mp baseZero, zero_pow positive, toNat_zero, Nat.zero_mod]
  rw [if_neg baseZero]
  by_cases baseOne : base = one
  · rw [if_pos baseOne, baseOne, toNat_one, one_pow, Nat.mod_eq_of_lt one_lt]
  rw [if_neg baseOne]
  by_cases exponentOne : exponent = one
  · rw [if_pos exponentOne, exponentOne, toNat_one, pow_one, Nat.mod_eq_of_lt baseBound]
  rw [if_neg exponentOne]
  by_cases power : base.isPowerOfTwo = true
  · rw [if_pos power]
    exact toNat_exp_of_isPowerOfTwo power baseOne exponent
  · rw [if_neg power, toNat_powLoop, toNat_one, Nat.one_mul,
      Nat.mod_eq_of_lt exponent.toNat_lt_two_pow_bitLength]

end Word

end CancunMachine
