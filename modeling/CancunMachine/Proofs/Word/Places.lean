import CancunMachine.Proofs.Word.Signed

/-!
# Places of a word

Shifts by any word, the extension of a sign and the bytes of a word, counted from the highest. A signed
shift sets the bits it vacates, which lowers a negative number by what it would gain otherwise; a sign is
extended by moving it to the top and back.
-/

namespace CancunMachine

namespace Word

variable {word : Word} {amount : Nat}

/-- A word is below a one-limb number iff it fits a limb below it. -/
theorem fitsLimb_and_lt (word : Word) (bound : UInt64) :
    (word.fitsLimb && decide (word.limb0 < bound)) = true ↔ word.toNat < bound.toNat := by
  rw [Bool.and_eq_true, decide_eq_true_eq, UInt64.lt_iff_toNat_lt]
  constructor
  · rintro ⟨fits, below⟩
    rwa [toNat_of_fitsLimb fits]
  · intro below
    have fits : word.fitsLimb = true := fitsLimb_iff.mpr (below.trans bound.toNat_lt)
    rw [toNat_of_fitsLimb fits] at below
    exact ⟨fits, below⟩

theorem toNat_limb0_of_lt {bound : Nat} (below : word.toNat < bound) (small : bound ≤ limbBase) :
    word.limb0.toNat = word.toNat :=
  (toNat_of_fitsLimb (fitsLimb_iff.mpr (below.trans_le small))).symm

theorem shiftAmount_eq (shift : Word) :
    shiftAmount shift = if shift.toNat < 256 then some shift.toNat else none := by
  have few : (shift.fitsLimb && decide (shift.limb0 < 256)) = true ↔ shift.toNat < 256 :=
    fitsLimb_and_lt shift 256
  unfold shiftAmount
  by_cases small : shift.toNat < 256
  · rw [if_pos small, if_pos (few.mpr small), toNat_limb0_of_lt small (by decide)]
  · rw [if_neg small, if_neg (mt few.mp small)]

theorem count_le_two_pow (many : ¬amount < 256) : count ≤ 2 ^ amount := by
  rw [count_eq]
  exact Nat.pow_le_pow_right Nat.two_pos (not_lt.mp many)

theorem count_split (few : amount < 256) : count = 2 ^ amount * 2 ^ (256 - amount) := by
  rw [count_eq, ← pow_add, Nat.add_sub_cancel' few.le]

theorem toNat_shl (shift word : Word) :
    (shl shift word).toNat = word.toNat * 2 ^ shift.toNat % count := by
  unfold shl
  rw [shiftAmount_eq]
  by_cases few : shift.toNat < 256
  · rw [if_pos few]
    exact toNat_shiftLeft word few
  · have multiple : count ∣ 2 ^ shift.toNat := count_eq ▸ pow_dvd_pow 2 (not_lt.mp few)
    rw [if_neg few, Nat.mod_eq_zero_of_dvd (multiple.mul_left _)]
    rfl

theorem toNat_shr (shift word : Word) :
    (shr shift word).toNat = word.toNat / 2 ^ shift.toNat := by
  unfold shr
  rw [shiftAmount_eq]
  by_cases few : shift.toNat < 256
  · rw [if_pos few]
    exact toNat_shiftRight word few
  · rw [if_neg few, Nat.div_eq_of_lt (word.toNat_lt_count.trans_le (count_le_two_pow few))]
    rfl

theorem toNat_max : max.toNat = count - 1 := rfl

/-- The bits that a right shift vacates. -/
theorem toNat_vacated (few : amount < 256) :
    (max.shiftRight amount).not.toNat = (2 ^ amount - 1) * 2 ^ (256 - amount) := by
  have split := count_split few
  have kept : (count - 1) / 2 ^ amount = 2 ^ (256 - amount) - 1 := by
    have borrow := Nat.mul_sub_div 0 (2 ^ amount) (2 ^ (256 - amount))
      (Nat.mul_pos (Nat.two_pow_pos _) (Nat.two_pow_pos _))
    rwa [Nat.zero_div, Nat.zero_add, ← split] at borrow
  have positive := Nat.two_pow_pos (256 - amount)
  rw [toNat_not, toNat_shiftRight _ few, toNat_max, kept, split, Nat.sub_mul, Nat.one_mul]
  omega

theorem shiftRight_lt (word : Word) (few : amount < 256) :
    word.toNat / 2 ^ amount < 2 ^ (256 - amount) :=
  Nat.div_lt_of_lt_mul (count_split few ▸ word.toNat_lt_count)

/-- With the vacated bits set, the shifted word is as far below the end of the words as the quotient
is below the place of the lowest vacated bit. -/
theorem toNat_or_vacated (word : Word) (few : amount < 256) :
    ((word.shiftRight amount).or (max.shiftRight amount).not).toNat + 2 ^ (256 - amount) =
      word.toNat / 2 ^ amount + count := by
  rw [toNat_or, toNat_vacated few, toNat_shiftRight word few, ← Nat.shiftLeft_eq, Nat.or_comm,
    ← Nat.shiftLeft_add_eq_or_of_lt (word.shiftRight_lt few), Nat.shiftLeft_eq, count_split few]
  obtain ⟨below, equal⟩ := Nat.exists_eq_add_of_lt (Nat.two_pow_pos amount)
  rw [equal]
  simp only [Nat.zero_add, Nat.add_sub_cancel]
  ring

theorem toInt_emod_count (word : Word) : word.toInt % count = word.toNat := by
  unfold toInt
  split
  · rw [Int.sub_emod_right, ← toNat_eq_emod]
  · exact (toNat_eq_emod word).symm

/-- An arithmetic shift divides the signed number and rounds down. -/
theorem toNat_shiftRightSigned (word : Word) (few : amount < 256) :
    ((word.shiftRightSigned amount).toNat : Int) = word.toInt.fdiv (2 ^ amount) % count := by
  have power : (0 : Int) < 2 ^ amount := by positivity
  have quotient : (word.toNat : Int) / 2 ^ amount = ((word.toNat / 2 ^ amount : Nat) : Int) := by
    norm_cast
  rw [Int.fdiv_eq_ediv_of_nonneg _ power.le]
  unfold shiftRightSigned
  by_cases negative : word.isNegative = true
  · by_cases stays : amount = 0
    · subst stays
      rw [if_neg (by simp), toNat_shiftRight word few, pow_zero, pow_zero, Nat.div_one,
        Int.ediv_one, toInt_emod_count]
    · have floored :
          word.toInt / 2 ^ amount + 2 ^ (256 - amount) = (word.toNat : Int) / 2 ^ amount := by
        have split : (count : Int) = 2 ^ (256 - amount) * 2 ^ amount := by
          rw [count_split few, Nat.mul_comm]
          norm_cast
        rw [toInt, if_pos negative, split, Int.sub_mul_ediv_right _ _ power.ne']
        ring
      have filled := congrArg (Nat.cast (R := Int)) (toNat_or_vacated word few)
      have bound := ((word.shiftRight amount).or (max.shiftRight amount).not).toNat_lt_count
      push_cast at filled
      have encoded : word.toInt / 2 ^ amount + count =
          ((word.shiftRight amount).or (max.shiftRight amount).not).toNat := by
        linarith
      rw [if_pos (by simp [negative, stays]), ← Int.add_emod_right, encoded,
        Int.emod_eq_of_lt (Int.natCast_nonneg _) (Int.ofNat_lt.mpr bound)]
  · have small : word.toNat / 2 ^ amount < count :=
      (Nat.div_le_self _ _).trans_lt word.toNat_lt_count
    rw [if_neg (by simp [negative]), toNat_shiftRight word few, toInt, if_neg negative, quotient,
      Int.emod_eq_of_lt (Int.natCast_nonneg _) (Int.ofNat_lt.mpr small)]

theorem toNat_sar (shift word : Word) :
    ((sar shift word).toNat : Int) = word.toInt.fdiv (2 ^ shift.toNat) % count := by
  unfold sar
  rw [shiftAmount_eq]
  by_cases few : shift.toNat < 256
  · rw [if_pos few]
    exact toNat_shiftRightSigned word few
  · have bound := word.toNat_lt_count
    have power : (count : Int) ≤ 2 ^ shift.toNat := by exact_mod_cast count_le_two_pow few
    rw [if_neg few, Int.fdiv_eq_ediv_of_nonneg _ (by positivity), toInt]
    by_cases negative : word.isNegative = true
    · simp only [if_pos negative]
      rw [Int.ediv_eq_neg_one_of_neg_of_le (by omega) (by omega), toNat_max]
      rfl
    · simp only [if_neg negative]
      rw [Int.ediv_eq_zero_of_lt (Int.natCast_nonneg _) (by omega)]
      rfl

/-- Moved to the top, the low bits of a word are read as a signed number. -/
theorem toInt_shiftLeft (word : Word) {width : Nat} (whole : width + amount = 256)
    (wide : 0 < width) :
    (word.shiftLeft amount).toInt = 2 ^ amount * (BitVec.ofNat width word.toNat).toInt := by
  have split : count = 2 ^ width * 2 ^ amount := by rw [count_eq, ← pow_add, whole]
  have moved : (word.shiftLeft amount).toNat = word.toNat % 2 ^ width * 2 ^ amount := by
    rw [toNat_shiftLeft word (by omega), split, Nat.mul_mod_mul_right]
  have half : 2 ^ 255 * 2 = 2 ^ width * 2 ^ amount := by
    rw [← pow_succ, ← pow_add, whole]
  have sign : word.toNat % 2 ^ width * 2 ^ amount < 2 ^ 255 ↔
      2 * (word.toNat % 2 ^ width) < 2 ^ width := by
    rw [← Nat.mul_lt_mul_right (a := 2) Nat.two_pos, half, Nat.mul_right_comm,
      Nat.mul_lt_mul_right (Nat.two_pow_pos amount), Nat.mul_comm 2]
  rw [toInt_eq, moved, BitVec.toInt_eq_toNat_cond, BitVec.toNat_ofNat]
  by_cases low : 2 * (word.toNat % 2 ^ width) < 2 ^ width
  · rw [if_pos (sign.mpr low), if_pos low]
    push_cast
    ring
  · have whole : (2 : Int) ^ 256 = 2 ^ width * 2 ^ amount := by rw [← pow_add, whole]
    rw [if_neg (mt sign.mp low), if_neg low, whole]
    push_cast
    ring

/-- The extension of a sign encodes the signed number in the lowest bytes. -/
theorem toNat_signExtend (index word : Word) :
    ((signExtend index word).toNat : Int) =
      if index.toNat < 31 then (BitVec.ofNat (8 * (index.toNat + 1)) word.toNat).toInt % count
      else word.toNat := by
  have few : (index.fitsLimb && decide (index.limb0 < 31)) = true ↔ index.toNat < 31 :=
    fitsLimb_and_lt index 31
  unfold signExtend
  by_cases small : index.toNat < 31
  · have places : (31 - index.toNat) * 8 < 256 := by omega
    have whole : 8 * (index.toNat + 1) + (31 - index.toNat) * 8 = 256 := by omega
    rw [if_pos small, if_pos (few.mpr small), toNat_limb0_of_lt small (by decide),
      toNat_shiftRightSigned _ places, toInt_shiftLeft _ whole (by omega),
      Int.mul_fdiv_cancel_left _ (by positivity)]
  · rw [if_neg small, if_neg (mt few.mp small)]

/-- A limb is a digit of the number. -/
theorem toNat_limb (word : Word) {place : Nat} (within : place < 4) :
    (word.limb place).toNat = word.toNat / limbBase ^ place % limbBase := by
  have first := word.limb0.toNat_lt
  have second := word.limb1.toNat_lt
  have third := word.limb2.toNat_lt
  have fourth := word.limb3.toNat_lt
  interval_cases place <;> simp only [limb, toNat, limbBase] <;> omega

/-- A byte of a limb, counted from the lowest one. -/
theorem toNat_limbByte (limb : UInt64) {place : Nat} (within : place < 8) :
    ((limb >>> UInt64.ofNat (place * 8)) &&& 0xff).toNat = limb.toNat / 256 ^ place % 256 := by
  rw [UInt64.toNat_and, UInt64.toNat_shiftRight, toNat_ofNat_places (by omega),
    Nat.shiftRight_eq_div_pow, Nat.mul_comm, pow_mul]
  exact Nat.and_two_pow_sub_one_eq_mod _ 8

/-- The digits in base 256 of a limb are those of the word. -/
theorem toNat_limb_digit (word : Word) {place byte : Nat} (within : place < 4) (few : byte < 8) :
    (word.limb place).toNat / 256 ^ byte % 256 = word.toNat / 256 ^ (8 * place + byte) % 256 := by
  have base : limbBase = 256 ^ byte * 256 ^ (8 - byte) := by
    rw [← pow_add, Nat.add_sub_cancel' few.le]
    rfl
  have whole : limbBase ^ place * 256 ^ byte = 256 ^ (8 * place + byte) := by
    rw [pow_add, pow_mul]
    rfl
  have digit : 256 ∣ 256 ^ (8 - byte) := dvd_pow_self 256 (by omega)
  rw [toNat_limb word within, ← whole, ← Nat.div_div_eq_div_mul]
  nth_rewrite 2 [base]
  rw [Nat.mod_mul_right_div_self, Nat.mod_mod_of_dvd _ digit]

/-- A byte, counted from the highest one, is a digit of the number in base 256. -/
theorem toNat_byte (index word : Word) :
    (byte index word).toNat =
      if index.toNat < 32 then word.toNat / 256 ^ (31 - index.toNat) % 256 else 0 := by
  have few : (index.fitsLimb && decide (index.limb0 < 32)) = true ↔ index.toNat < 32 :=
    fitsLimb_and_lt index 32
  unfold byte
  by_cases small : index.toNat < 32
  · have place : 8 * (3 - index.toNat / 8) + (7 - index.toNat % 8) = 31 - index.toNat := by omega
    rw [if_pos small, if_pos (few.mpr small), toNat_limb0_of_lt small (by decide), toNat_ofLimb,
      toNat_limbByte _ (by omega), toNat_limb_digit _ (by omega) (by omega), place]
  · rw [if_neg small, if_neg (mt few.mp small)]
    rfl

end Word

end CancunMachine
