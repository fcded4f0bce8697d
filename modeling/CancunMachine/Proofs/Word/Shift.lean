import Mathlib.Tactic
import CancunMachine.Proofs.Word.Arithmetic

/-!
# Shifts as multiplication and division

A left shift multiplies by a power of two and loses what does not fit; a right shift divides by it. A
limb of a shifted word is the lower half of its own product with a power of two, together with the
upper half of the product of its neighbour.
-/

namespace CancunMachine

namespace Word

variable {word : Word} {amount bits : Nat}

/-- A word times a factor, one product per limb. -/
theorem toNat_mul_eq (word : Word) (factor : Nat) :
    word.toNat * factor = word.limb0.toNat * factor + limbBase * (word.limb1.toNat * factor
      + limbBase * (word.limb2.toNat * factor + limbBase * (word.limb3.toNat * factor))) := by
  unfold toNat
  ring

theorem toNat_ofNat_places (few : bits < 64) : (UInt64.ofNat bits).toNat % 64 = bits := by
  rw [UInt64.toNat_ofNat']
  omega

theorem limbBase_split (few : bits < 64) : limbBase = 2 ^ (64 - bits) * 2 ^ bits := by
  rw [← pow_add, Nat.sub_add_cancel few.le]
  rfl

theorem toNat_mergeLeft (current below : UInt64) (few : bits < 64) :
    (mergeLeft current below bits).toNat =
      current.toNat * 2 ^ bits % limbBase + below.toNat * 2 ^ bits / limbBase := by
  have currentSmall : current.toNat < limbBase := current.toNat_lt
  have belowSmall : below.toNat < limbBase := below.toNat_lt
  unfold mergeLeft
  by_cases none : bits = 0
  · subst none
    simp [Nat.mod_eq_of_lt currentSmall, Nat.div_eq_of_lt belowSmall]
  · have rest := limbBase_split few
    have low : (below.toNat / 2 ^ (64 - bits)) < 2 ^ bits :=
      Nat.div_lt_of_lt_mul (rest ▸ belowSmall)
    rw [if_neg none, UInt64.toNat_or, UInt64.toNat_shiftLeft, UInt64.toNat_shiftRight,
      toNat_ofNat_places few, toNat_ofNat_places (show 64 - bits < 64 by omega),
      Nat.shiftRight_eq_div_pow, Nat.shiftLeft_eq]
    change current.toNat * 2 ^ bits % limbBase ||| _ = _
    -- The upper part is a multiple of the power, the lower part is below it.
    rw [rest, Nat.mul_mod_mul_right, ← Nat.shiftLeft_eq, ← Nat.shiftLeft_add_eq_or_of_lt low,
      Nat.mul_div_mul_right _ _ (Nat.two_pow_pos bits)]

theorem toNat_mergeRight (current above : UInt64) (few : bits < 64) :
    (mergeRight current above bits).toNat =
      current.toNat * 2 ^ (64 - bits) / limbBase + above.toNat * 2 ^ (64 - bits) % limbBase := by
  have currentSmall : current.toNat < limbBase := current.toNat_lt
  have rest : limbBase = 2 ^ bits * 2 ^ (64 - bits) := (limbBase_split few).trans (mul_comm _ _)
  unfold mergeRight
  by_cases none : bits = 0
  · subst none
    have whole : 2 ^ (64 - 0) = limbBase := rfl
    simp [whole, limbBase]
  · have low : current.toNat / 2 ^ bits < 2 ^ (64 - bits) :=
      Nat.div_lt_of_lt_mul (rest ▸ currentSmall)
    rw [if_neg none, UInt64.toNat_or, UInt64.toNat_shiftLeft, UInt64.toNat_shiftRight,
      toNat_ofNat_places few, toNat_ofNat_places (show 64 - bits < 64 by omega),
      Nat.shiftRight_eq_div_pow, Nat.shiftLeft_eq, Nat.or_comm]
    change above.toNat * 2 ^ (64 - bits) % limbBase ||| _ = _
    rw [rest, Nat.mul_mod_mul_right, ← Nat.shiftLeft_eq, ← Nat.shiftLeft_add_eq_or_of_lt low,
      Nat.mul_div_mul_right _ _ (Nat.two_pow_pos _), Nat.add_comm]

theorem toNat_shiftLeft (word : Word) (few : amount < 256) :
    (word.shiftLeft amount).toNat = word.toNat * 2 ^ amount % count := by
  have places : amount % 64 < 64 := Nat.mod_lt _ (by decide)
  have limbs : amount / 64 < 4 := by omega
  have split : 2 ^ amount = 2 ^ (amount % 64) * 2 ^ (64 * (amount / 64)) := by
    rw [← pow_add, Nat.mod_add_div]
  have small := (word.shiftLeft amount).toNat_lt_count
  rw [split, ← mul_assoc, toNat_mul_eq]
  revert small
  unfold shiftLeft
  simp only [toNat, toNat_mergeLeft _ _ places]
  interval_cases amount / 64
  all_goals
    simp [limbMovedUp, limb, count, limbBase]
    omega

/-- A limb that is moved up leaves room below it for all that moves up from the limb below. -/
theorem room_of_scaled (upper lower : UInt64) (few : bits < 64) :
    upper.toNat * 2 ^ (64 - bits) % limbBase + lower.toNat * 2 ^ (64 - bits) / limbBase < limbBase := by
  have small : lower.toNat < limbBase := lower.toNat_lt
  have rest : limbBase = 2 ^ bits * 2 ^ (64 - bits) := (limbBase_split few).trans (mul_comm _ _)
  have below : lower.toNat * 2 ^ (64 - bits) / limbBase < 2 ^ (64 - bits) := by
    rw [rest, Nat.mul_div_mul_right _ _ (Nat.two_pow_pos _)]
    exact Nat.div_lt_of_lt_mul (rest ▸ small)
  have above : upper.toNat * 2 ^ (64 - bits) % limbBase + 2 ^ (64 - bits) ≤ limbBase := by
    rw [rest, Nat.mul_mod_mul_right, ← Nat.succ_mul]
    exact Nat.mul_le_mul_right _ (Nat.mod_lt _ (Nat.two_pow_pos _))
  omega

theorem toNat_shiftRight (word : Word) (few : amount < 256) :
    (word.shiftRight amount).toNat = word.toNat / 2 ^ amount := by
  have places : amount % 64 < 64 := Nat.mod_lt _ (by decide)
  have limbs : amount / 64 < 4 := by omega
  -- Scaled up, the division is by whole limbs.
  have split : word.toNat / 2 ^ amount =
      word.toNat * 2 ^ (64 - amount % 64) / 2 ^ (64 * (amount / 64) + 64) := by
    have scaled : 2 ^ (64 * (amount / 64) + 64) = 2 ^ amount * 2 ^ (64 - amount % 64) := by
      rw [← pow_add]
      congr 1
      omega
    rw [scaled, Nat.mul_div_mul_right _ _ (Nat.two_pow_pos _)]
  have first := room_of_scaled word.limb1 word.limb0 places
  have second := room_of_scaled word.limb2 word.limb1 places
  have third := room_of_scaled word.limb3 word.limb2 places
  rw [split, toNat_mul_eq]
  unfold shiftRight
  simp only [toNat, toNat_mergeRight _ _ places]
  interval_cases amount / 64
  all_goals
    simp [limb, limbBase] at first second third ⊢
    omega

end Word

end CancunMachine
