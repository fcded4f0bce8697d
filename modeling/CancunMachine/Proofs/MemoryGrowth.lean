import Mathlib.Tactic
import CancunMachine.Proofs.MemoryGas.Price

/-!
# The price of growing is exact

What it costs to grow a memory is the difference between the whole prices of the two sizes, and no
step of its computation wraps around: a size whose price does not fit has too many words. So it does
not matter in how many steps a size is reached.
-/

namespace CancunMachine

namespace Memory

variable {needed current : Nat}

theorem isLeast_wordCount (size : Nat) : IsLeast {words | size ≤ 32 * words} (wordCount size) := by
  unfold wordCount
  refine ⟨?_, fun words (covers : size ≤ 32 * words) => ?_⟩
  · change size ≤ _
    omega
  · omega

/-- A multiple of a word covers a size just where it has as many words as the size. -/
theorem isLeast_multiple (size : Nat) :
    IsLeast {multiple | 32 ∣ multiple ∧ size ≤ multiple} (32 * wordCount size) := by
  obtain ⟨covers, least⟩ := isLeast_wordCount size
  refine ⟨⟨dvd_mul_right 32 _, covers⟩, ?_⟩
  rintro _ ⟨⟨words, rfl⟩, enough⟩
  exact Nat.mul_le_mul_left 32 (least enough)

theorem expansionPrice_eq (needed current : Nat) :
    expansionPrice needed current =
      if needed ≤ current then .ok 0
      else if 2 ^ 32 ≤ wordCount needed then .error .outOfGas
      else .ok (.ofNat (wholePrice needed - wholePrice current)) := by
  rw [expansionPrice_eq_bill, growth?]
  split
  · rfl
  · rename_i short
    by_cases few : wordCount needed < 2 ^ 32
    · have growth : growth? needed current = some (wholePrice needed - wholePrice current) := by
        rw [growth?, if_neg short, if_pos few]
      rw [if_pos few, if_neg (Nat.not_le.mpr few), Gas.bill, if_pos (growth?_lt growth)]
    · rw [if_neg few, if_pos (Nat.not_lt.mp few)]
      rfl

theorem exists_expansionPrice (payable : needed ≤ current ∨ wordCount needed < 2 ^ 32) :
    ∃ cost, expansionPrice needed current = .ok cost := by
  have larger := wholePrice_mono (le_max_left current needed)
  have growth := growth?_eq_some.mpr ⟨payable, (Nat.add_sub_cancel' larger).symm⟩
  rw [expansionPrice_eq_bill]
  rcases Gas.bill_cases (growth? needed current) with ⟨cost, _, paid⟩ | ⟨large, _⟩
  · exact ⟨cost, paid⟩
  · exact absurd (growth?_lt growth) (Nat.not_lt.mpr (large _ growth))

/-- A growth that can be paid for can be paid for in two steps. -/
theorem expansionPrice_add {middle : Nat} {whole : UInt64} (lower : current ≤ middle)
    (upper : middle ≤ needed) (priced : expansionPrice needed current = .ok whole) :
    ∃ first second, expansionPrice middle current = .ok first ∧
      expansionPrice needed middle = .ok second ∧ whole.toNat = first.toNat + second.toNat := by
  obtain ⟨payable, total⟩ := expansionPrice_eq_ok.mp priced
  obtain ⟨first, firstPriced⟩ : ∃ cost, expansionPrice middle current = .ok cost :=
    exists_expansionPrice (payable.imp upper.trans (wordCount_mono upper).trans_lt)
  obtain ⟨second, secondPriced⟩ : ∃ cost, expansionPrice needed middle = .ok cost :=
    exists_expansionPrice (payable.imp_left (·.trans lower))
  have early := wholePrice_of_expansionPrice firstPriced
  have late := wholePrice_of_expansionPrice secondPriced
  rw [max_eq_right lower] at early
  rw [max_eq_right upper] at late
  rw [max_eq_right (lower.trans upper)] at total
  exact ⟨first, second, firstPriced, secondPriced, by omega⟩

end Memory

/-- Growing costs nothing if there is room, is out of gas from `2 ^ 32` words on, and else costs
just what is missing to the whole price, which is not less for a larger size and fits in 64 bits.
What is paid for a growth is paid for its parts. A range takes the least number of bytes that are
whole words and cover it, and is out of bounds if these are not below `2 ^ 64`. -/
theorem memory_growth_is_priced_exactly (needed current offset size : Nat) :
    IsLeast {words | needed ≤ 32 * words} (wordCount needed) ∧
      Memory.expansionPrice needed current =
        (if needed ≤ current then .ok 0
        else if 2 ^ 32 ≤ wordCount needed then .error .outOfGas
        else .ok (.ofNat (Memory.wholePrice needed - Memory.wholePrice current))) ∧
      (current ≤ needed → Memory.wholePrice current ≤ Memory.wholePrice needed) ∧
      (wordCount needed < 2 ^ 32 → Memory.wholePrice needed < 2 ^ 64) ∧
      (∀ middle whole, current ≤ middle → middle ≤ needed →
        Memory.expansionPrice needed current = .ok whole →
        ∃ first second, Memory.expansionPrice middle current = .ok first ∧
          Memory.expansionPrice needed middle = .ok second ∧
          whole.toNat = first.toNat + second.toNat) ∧
      ∃ least, IsLeast {multiple | 32 ∣ multiple ∧ offset + size ≤ multiple} least ∧
        Memory.sizeToReach offset size =
          if size = 0 then .ok 0 else if least < 2 ^ 64 then .ok least
          else .error .outOfBounds :=
  ⟨Memory.isLeast_wordCount needed, Memory.expansionPrice_eq needed current,
    Memory.wholePrice_mono, Memory.wholePrice_lt, fun _ _ => Memory.expansionPrice_add, _,
    Memory.isLeast_multiple _, Memory.sizeToReach_eq offset size⟩

end CancunMachine
