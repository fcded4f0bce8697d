import Mathlib.Tactic
import CancunMachine.Proofs.Word.Arithmetic

/-!
# The bits of a word

The set bits of a word, the lowest of them and the number of its significant bits, found limb by limb,
are those of its number. A word is a power of two iff it has one set bit; then the zeros below that
bit are its logarithm, and the word below it masks out the remainder by it.
-/

namespace CancunMachine

namespace Word

variable {word : Word}

/-- What goes bit by bit goes limb by limb. -/
theorem limbwise {operation : Nat → Nat → Nat} {onLimbs : UInt64 → UInt64 → UInt64}
    (below : ∀ left right,
      operation left right % 2 ^ 64 = operation (left % 2 ^ 64) (right % 2 ^ 64))
    (above : ∀ left right,
      operation left right / 2 ^ 64 = operation (left / 2 ^ 64) (right / 2 ^ 64))
    (reads : ∀ left right, (onLimbs left right).toNat = operation left.toNat right.toNat)
    (lower other : UInt64) (upper higher : Nat) :
    operation (lower.toNat + limbBase * upper) (other.toNat + limbBase * higher) =
      (onLimbs lower other).toNat + limbBase * operation upper higher := by
  have lowerSmall := lower.toNat_lt
  have otherSmall := other.toNat_lt
  have whole := Nat.mod_add_div
    (operation (lower.toNat + limbBase * upper) (other.toNat + limbBase * higher)) (2 ^ 64)
  rw [below, above] at whole
  rw [← whole, reads]
  simp only [limbBase]
  congr 2 <;> congr 1 <;> omega

theorem toNat_and (left right : Word) : (left.and right).toNat = left.toNat &&& right.toNat := by
  have limbs := limbwise (fun _ _ => Nat.and_mod_two_pow) (fun _ _ => Nat.and_div_two_pow)
    UInt64.toNat_and
  simp only [toNat, limbs, ← UInt64.toNat_and, and]

theorem toNat_or (left right : Word) : (left.or right).toNat = left.toNat ||| right.toNat := by
  have limbs := limbwise (fun _ _ => Nat.or_mod_two_pow) (fun _ _ => Nat.or_div_two_pow)
    UInt64.toNat_or
  simp only [toNat, limbs, ← UInt64.toNat_or, or]

theorem toNat_one : one.toNat = 1 := rfl

theorem toNat_sub_one (positive : word.toNat ≠ 0) : (word.sub one).toNat = word.toNat - 1 := by
  rw [toNat_sub_of_le (toNat_one ▸ Nat.one_le_iff_ne_zero.mpr positive), toNat_one]

theorem isZero_or_one_iff : (word.isZero || word = one) = true ↔ word.toNat ≤ 1 := by
  have unit : word = one ↔ word.toNat = 1 :=
    ⟨fun same => same ▸ toNat_one, fun same => eq_of_toNat_eq (same.trans toNat_one.symm)⟩
  rw [Bool.or_eq_true, isZero_iff, decide_eq_true_eq, unit]
  omega

/-- Nothing is left over by the moduli zero and one. -/
theorem remainder_of_le_one {modulus : Nat} (small : modulus ≤ 1) (value : Nat) :
    (if modulus = 0 then 0 else value % modulus) = 0 := by
  interval_cases modulus <;> simp [Nat.mod_one]

theorem isZero_eq_false_iff : word.isZero = false ↔ word.toNat ≠ 0 := by
  rw [← Bool.not_eq_true, isZero_iff]

/-- The set bits of a number are those of its low part and those of what is above. -/
theorem countOnes_add_above {places low : Nat} (small : low < 2 ^ places) (more high : Nat) :
    countOnes (places + more) (low + 2 ^ places * high) =
      countOnes places low + countOnes more high := by
  induction places generalizing low with
  | zero =>
      obtain rfl : low = 0 := by omega
      simp [countOnes]
  | succ places inductionHypothesis =>
      have parts : low + 2 ^ (places + 1) * high = low + 2 * (2 ^ places * high) := by ring
      have last : (low + 2 * (2 ^ places * high)) % 2 = low % 2 := by omega
      have rest : (low + 2 * (2 ^ places * high)) / 2 = low / 2 + 2 ^ places * high := by omega
      rw [show places + 1 + more = places + more + 1 by omega, countOnes, countOnes, parts, last,
        rest, inductionHypothesis (by omega), Nat.add_assoc]

/-- The limbs have the set bits of the number together. -/
theorem countOnes_limbs (word : Word) :
    countOnes 64 word.limb0.toNat + countOnes 64 word.limb1.toNat +
      countOnes 64 word.limb2.toNat + countOnes 64 word.limb3.toNat =
        countOnes 256 word.toNat := by
  have joins (limb : UInt64) (places upper : Nat) :
      countOnes (64 + places) (limb.toNat + limbBase * upper) =
        countOnes 64 limb.toNat + countOnes places upper :=
    countOnes_add_above limb.toNat_lt places upper
  rw [toNat, show 256 = 64 + (64 + (64 + 64)) by rfl, joins, joins, joins]
  omega

theorem countOnes_eq_zero_iff {places value : Nat} (small : value < 2 ^ places) :
    countOnes places value = 0 ↔ value = 0 := by
  induction places generalizing value with
  | zero => simp only [countOnes, true_iff]; omega
  | succ places inductionHypothesis =>
      rw [countOnes, Nat.add_eq_zero_iff, inductionHypothesis (by omega)]
      omega

/-- A number has one set bit just where it is a power of two. -/
theorem countOnes_eq_one_iff {places value : Nat} (small : value < 2 ^ places) :
    countOnes places value = 1 ↔ ∃ exponent, value = 2 ^ exponent := by
  induction places generalizing value with
  | zero =>
      obtain rfl : value = 0 := by omega
      have positive (exponent : Nat) : 0 ≠ 2 ^ exponent := (Nat.two_pow_pos exponent).ne
      simp [countOnes, positive]
  | succ places inductionHypothesis =>
      have smaller : value / 2 < 2 ^ places := by omega
      have half := inductionHypothesis smaller
      have none := countOnes_eq_zero_iff smaller
      rw [countOnes]
      rcases Nat.mod_two_eq_zero_or_one value with even | odd
      · rw [even, Nat.zero_add, half]
        constructor
        · rintro ⟨exponent, equal⟩
          exact ⟨exponent + 1, by rw [pow_succ]; omega⟩
        · rintro ⟨_ | exponent, equal⟩
          · omega
          · exact ⟨exponent, by rw [pow_succ] at equal; omega⟩
      · rw [odd, Nat.add_eq_left, none]
        constructor
        · exact fun single => ⟨0, by omega⟩
        · rintro ⟨_ | exponent, equal⟩
          · omega
          · rw [pow_succ] at equal
            omega

theorem isPowerOfTwo_iff : word.isPowerOfTwo = true ↔ ∃ exponent, word.toNat = 2 ^ exponent := by
  rw [isPowerOfTwo, beq_iff_eq, countOnes_limbs]
  exact countOnes_eq_one_iff word.toNat_lt_count

/-- Only in a power of two does clearing the lowest set bit leave nothing. -/
theorem isPowerOfTwo_iff_cleared (positive : word.isZero = false) :
    word.isPowerOfTwo = true ↔ (word.and (word.sub one)).isZero = true := by
  have some := isZero_eq_false_iff.mp positive
  rw [isPowerOfTwo_iff, isZero_iff, toNat_and, toNat_sub_one some]
  exact (Nat.and_sub_one_eq_zero_iff_isPowerOfTwo some).symm

/-- The word below a power of two masks out the remainder. -/
theorem toNat_and_sub_one {modulus : Word} (power : modulus.isPowerOfTwo = true) :
    (word.and (modulus.sub one)).toNat = word.toNat % modulus.toNat := by
  obtain ⟨exponent, equal⟩ := isPowerOfTwo_iff.mp power
  have positive : modulus.toNat ≠ 0 := equal ▸ (Nat.two_pow_pos exponent).ne'
  rw [toNat_and, toNat_sub_one positive, equal, Nat.and_two_pow_sub_one_eq_mod]

/-- The lowest set bit of a number stands at a place: below it are zeros. -/
def HasLowestBit (value place : Nat) : Prop := ∃ rest, value = 2 ^ place * (2 * rest + 1)

namespace HasLowestBit

theorem two_pow (exponent : Nat) : HasLowestBit (2 ^ exponent) exponent := ⟨0, by simp⟩

theorem two_pow_dvd_iff {value place : Nat} (lowest : HasLowestBit value place) (places : Nat) :
    2 ^ places ∣ value ↔ places ≤ place := by
  obtain ⟨rest, rfl⟩ := lowest
  constructor
  · intro divides
    by_contra above
    -- One more factor of two would have to divide an odd number.
    have more : 2 ^ place * 2 ∣ 2 ^ place * (2 * rest + 1) :=
      (pow_dvd_pow 2 (Nat.lt_of_not_le above)).trans divides
    have even := (Nat.mul_dvd_mul_iff_left (Nat.two_pow_pos place)).mp more
    omega
  · intro below
    exact (pow_dvd_pow 2 below).mul_right _

theorem place_le {value place other : Nat} (first : HasLowestBit value place)
    (second : HasLowestBit value other) : place ≤ other :=
  (second.two_pow_dvd_iff place).mp ((first.two_pow_dvd_iff place).mpr (le_refl place))

theorem unique {value place other : Nat} (first : HasLowestBit value place)
    (second : HasLowestBit value other) : place = other :=
  le_antisymm (first.place_le second) (second.place_le first)

theorem double {value place : Nat} (half : HasLowestBit value place) (places : Nat) :
    HasLowestBit (2 ^ places * value) (places + place) := by
  obtain ⟨rest, rfl⟩ := half
  exact ⟨rest, by ring⟩

theorem place_lt {value place places : Nat} (lowest : HasLowestBit value place)
    (small : value < 2 ^ places) : place < places := by
  obtain ⟨rest, rfl⟩ := lowest
  apply (Nat.pow_lt_pow_iff_right one_lt_two).mp
  exact lt_of_le_of_lt (Nat.le_mul_of_pos_right _ (Nat.succ_pos _)) small

/-- Bits above do not change the lowest one. -/
theorem add_above {value place places : Nat} (lowest : HasLowestBit value place)
    (small : value < 2 ^ places) (above : Nat) :
    HasLowestBit (value + 2 ^ places * above) place := by
  have below := lowest.place_lt small
  obtain ⟨rest, rfl⟩ := lowest
  obtain ⟨distance, rfl⟩ := Nat.exists_eq_add_of_lt below
  exact ⟨rest + 2 ^ distance * above, by ring⟩

end HasLowestBit

theorem lowestBit_hasLowestBit {places value : Nat} (small : value < 2 ^ places)
    (positive : value ≠ 0) : HasLowestBit value (lowestBit places value) := by
  induction places generalizing value with
  | zero => omega
  | succ places inductionHypothesis =>
      unfold lowestBit
      by_cases odd : value % 2 = 1
      · rw [if_pos odd]
        exact ⟨value / 2, by omega⟩
      · have half : HasLowestBit (value / 2) (lowestBit places (value / 2)) :=
          inductionHypothesis (by omega) (by omega)
        have even : value = 2 ^ 1 * (value / 2) := by omega
        rw [if_neg odd, Nat.add_comm]
        nth_rewrite 1 [even]
        exact half.double 1

theorem hasLowestBit_trailingZeros (positive : word.toNat ≠ 0) :
    HasLowestBit word.toNat word.trailingZeros := by
  have limbs : ∀ limb : UInt64, limb ≠ 0 → HasLowestBit limb.toNat (lowestBit 64 limb.toNat) := by
    intro limb some
    exact lowestBit_hasLowestBit limb.toNat_lt fun none => some (UInt64.toNat_inj.mp none)
  have lower : ∀ (limb : UInt64) (upper : Nat), limb ≠ 0 →
      HasLowestBit (limb.toNat + limbBase * upper) (lowestBit 64 limb.toNat) :=
    fun limb upper some => (limbs limb some).add_above limb.toNat_lt upper
  have upper : ∀ {value place above : Nat}, HasLowestBit value place → above = 64 + place →
      HasLowestBit (UInt64.toNat 0 + limbBase * value) above := by
    rintro value place _ lowest rfl
    rw [UInt64.toNat_zero, Nat.zero_add]
    exact lowest.double 64
  unfold trailingZeros
  by_cases first : word.limb0 = 0
  · by_cases second : word.limb1 = 0
    · by_cases third : word.limb2 = 0
      · have fourth : word.limb3 ≠ 0 := by
          intro fourth
          apply positive
          simp [toNat, first, second, third, fourth]
        simp only [toNat, first, second, third, ne_eq, not_true_eq_false, if_false]
        exact upper (upper (upper (limbs _ fourth) rfl) rfl) (by omega)
      · simp only [toNat, first, second, third, ne_eq, not_true_eq_false, not_false_eq_true, if_true,
          if_false]
        exact upper (upper (lower _ _ third) rfl) (by omega)
    · simp only [toNat, first, second, ne_eq, not_true_eq_false, not_false_eq_true, if_true, if_false]
      exact upper (lower _ _ second) rfl
  · simp only [toNat, first, ne_eq, not_false_eq_true, if_true]
    exact lower _ _ first

/-- The zeros below a power of two are its logarithm. -/
theorem toNat_of_isPowerOfTwo (power : word.isPowerOfTwo = true) :
    word.toNat = 2 ^ word.trailingZeros ∧ word.trailingZeros < 256 := by
  obtain ⟨exponent, equal⟩ := isPowerOfTwo_iff.mp power
  have lowest := hasLowestBit_trailingZeros (equal ▸ (Nat.two_pow_pos exponent).ne')
  have same := (HasLowestBit.two_pow exponent).unique (equal ▸ lowest)
  exact ⟨same ▸ equal, lowest.place_lt word.toNat_lt_count⟩

theorem log2_add_above {low high places : Nat} (small : low < 2 ^ places) (some : high ≠ 0) :
    (low + 2 ^ places * high).log2 = places + high.log2 := by
  have lower := Nat.mul_le_mul_left (2 ^ places) (Nat.log2_self_le some)
  have upper := Nat.mul_le_mul_left (2 ^ places) (Nat.succ_le_of_lt (Nat.lt_log2_self (n := high)))
  have positive : low + 2 ^ places * high ≠ 0 :=
    (Nat.add_pos_right _ (Nat.mul_pos (Nat.two_pow_pos _) (Nat.pos_of_ne_zero some))).ne'
  rw [Nat.mul_succ] at upper
  rw [Nat.log2_eq_iff positive, Nat.add_assoc, pow_add, pow_add]
  omega

/-- The number of significant bits is one more than the logarithm. -/
theorem bitLength_eq (positive : word.toNat ≠ 0) : word.bitLength = word.toNat.log2 + 1 := by
  have first := word.limb0.toNat_lt
  have second := word.limb1.toNat_lt
  have third := word.limb2.toNat_lt
  have read : ∀ (limb : UInt64) (low places : Nat), limb ≠ 0 → low < 2 ^ places →
      word.toNat = low + 2 ^ places * limb.toNat →
      places + 1 + limb.toNat.log2 = word.toNat.log2 + 1 := by
    intro limb low places some small equal
    rw [equal, log2_add_above small fun none => some (UInt64.toNat_inj.mp none)]
    omega
  unfold bitLength
  by_cases fourthZero : word.limb3 = 0
  · by_cases thirdZero : word.limb2 = 0
    · by_cases secondZero : word.limb1 = 0
      · have firstNonzero : word.limb0 ≠ 0 := by
          intro firstZero
          apply positive
          simp [toNat, firstZero, secondZero, thirdZero, fourthZero]
        simp only [fourthZero, thirdZero, secondZero, firstNonzero, ne_eq, not_true_eq_false,
          not_false_eq_true, if_true, if_false]
        exact read word.limb0 0 0 firstNonzero (by decide)
          (by simp [toNat, fourthZero, thirdZero, secondZero])
      · simp only [fourthZero, thirdZero, secondZero, ne_eq, not_true_eq_false, not_false_eq_true,
          if_true, if_false]
        exact read word.limb1 _ 64 secondZero first
          (by simp [toNat, fourthZero, thirdZero, limbBase])
    · simp only [fourthZero, thirdZero, ne_eq, not_true_eq_false, not_false_eq_true, if_true,
        if_false]
      exact read word.limb2 (word.limb0.toNat + limbBase * word.limb1.toNat) 128
        thirdZero (by unfold limbBase; omega) (by simp [toNat, fourthZero, limbBase]; omega)
  · simp only [fourthZero, ne_eq, not_false_eq_true, if_true]
    exact read word.limb3
      (word.limb0.toNat + limbBase * (word.limb1.toNat + limbBase * word.limb2.toNat)) 192
      fourthZero (by unfold limbBase; omega) (by simp [toNat, limbBase]; omega)

theorem bitLength_le_iff (word : Word) (places : Nat) :
    word.bitLength ≤ places ↔ word.toNat < 2 ^ places := by
  by_cases none : word.toNat = 0
  · obtain rfl := eq_of_toNat_eq (none.trans toNat_zero.symm)
    exact iff_of_true (Nat.zero_le _) (Nat.two_pow_pos _)
  · rw [bitLength_eq none, Nat.succ_le_iff, Nat.log2_lt none]

theorem toNat_lt_two_pow_bitLength (word : Word) : word.toNat < 2 ^ word.bitLength :=
  (bitLength_le_iff word _).mp (le_refl _)

theorem byteLength_le_iff (word : Word) (size : Nat) :
    word.byteLength ≤ size ↔ word.toNat < 256 ^ size := by
  have base : 256 ^ size = 2 ^ (8 * size) := by rw [pow_mul]; rfl
  rw [base, ← bitLength_le_iff, byteLength]
  omega

theorem byteLength_eq_length_digits (word : Word) :
    word.byteLength = (Nat.digits 256 word.toNat).length :=
  eq_of_forall_ge_iff fun size => by
    rw [byteLength_le_iff, Nat.digits_length_le_iff (by decide)]

end Word

end CancunMachine
