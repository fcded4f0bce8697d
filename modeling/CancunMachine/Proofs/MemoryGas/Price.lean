import Mathlib.Tactic
import CancunMachine.Proofs.Gas
import CancunMachine.Proofs.Memory

/-!
# The price of memory

What has been paid for a size is its whole price, and the price of an expansion is the difference
between two of them. A size that gas can pay for is far below the position limit, so a memory can
always grow to it: an access that stays within a paid size never fails.
-/

namespace CancunMachine

/-- An answer that does not halt as accesses beyond the memory do. -/
def InBounds {Alpha : Type} (answer : Except Halt Alpha) : Prop := answer ≠ .error .outOfBounds

namespace InBounds

variable {Alpha Beta : Type}

theorem of_ok (value : Alpha) : InBounds (.ok value) := by rintro ⟨⟩

theorem outOfGas : InBounds (.error .outOfGas : Except Halt Alpha) := by rintro ⟨⟩

theorem bind {first : Except Halt Alpha} {next : Alpha → Except Halt Beta}
    (early : InBounds first) (late : ∀ value, InBounds (next value)) :
    InBounds (first >>= next) := by
  cases first with
  | error reason =>
      rintro ⟨⟩
      exact early rfl
  | ok value => exact late value

theorem branch {condition : Prop} [Decidable condition] {yes no : Except Halt Alpha}
    (left : InBounds yes) (right : InBounds no) : InBounds (if condition then yes else no) := by
  split
  · exact left
  · exact right

theorem of_bill (cost : Option Nat) : InBounds (Gas.bill cost) := by
  rcases Gas.bill_cases cost with ⟨price, _, payable⟩ | ⟨_, refused⟩
  · rw [payable]
    exact of_ok price
  · rw [refused]
    exact outOfGas

theorem plus (left right : UInt64) : InBounds (Gas.plus left right) := by
  rw [Gas.plus_eq_bill]
  exact of_bill _

theorem sum (costs : List UInt64) : InBounds (Gas.sum costs) := by
  rw [Gas.sum_eq_bill]
  exact of_bill _

theorem times (count : Nat) (price : UInt64) : InBounds (Gas.times count price) := by
  by_cases small : count < positionLimit
  · rw [Gas.times_eq_bill small]
    exact of_bill _
  · rw [Gas.times, if_neg small]
    exact outOfGas

end InBounds

namespace Memory

/-- All that has to be paid for `size` bytes. -/
def wholePrice (size : Nat) : Nat :=
  wordCount size * wordCount size / 512 + 3 * wordCount size

theorem wordCount_mono {size larger : Nat} (le : size ≤ larger) :
    wordCount size ≤ wordCount larger := by
  unfold wordCount
  omega

theorem wholePrice_mono {size larger : Nat} (le : size ≤ larger) :
    wholePrice size ≤ wholePrice larger := by
  have words := wordCount_mono le
  have squares := Nat.div_le_div_right (c := 512) (Nat.mul_le_mul words words)
  unfold wholePrice
  omega

theorem wholePrice_lt {size : Nat} (few : wordCount size < 2 ^ 32) :
    wholePrice size < UInt64.size := by
  have squares := Nat.div_le_div_right (c := 512)
    (Nat.mul_le_mul (Nat.le_of_lt_succ few) (Nat.le_of_lt_succ few))
  unfold wholePrice
  simp only [UInt64.size]
  omega

/-- The square of the number of words fits in 64 bits just where the number fits in 32, and the rest
of the price is small. -/
theorem price_eq (size : Nat) :
    price size = if wordCount size < 2 ^ 32 then .ok (.ofNat (wholePrice size))
      else .error .outOfGas := by
  by_cases few : wordCount size < 2 ^ 32
  · have square : wordCount size * wordCount size < positionLimit := Nat.mul_lt_mul'' few few
    rw [if_pos few]
    exact if_pos ⟨square, wholePrice_lt few⟩
  · have square := Nat.mul_le_mul (Nat.not_lt.mp few) (Nat.not_lt.mp few)
    rw [if_neg few]
    exact if_neg fun payable => Nat.not_le.mpr payable.1 square

/-- What growing from `current` to `needed` bytes costs, if any gas can pay for it. -/
def growth? (needed current : Nat) : Option Nat :=
  if needed ≤ current then some 0
  else if wordCount needed < 2 ^ 32 then some (wholePrice needed - wholePrice current)
  else none

theorem growth?_lt {needed current cost : Nat} (grows : growth? needed current = some cost) :
    cost < UInt64.size := by
  unfold growth? at grows
  split at grows
  · cases grows
    decide
  · split at grows
    · rename_i few
      cases grows
      exact (Nat.sub_le _ _).trans_lt (wholePrice_lt few)
    · cases grows

theorem growth?_eq_some {needed current cost : Nat} :
    growth? needed current = some cost ↔ (needed ≤ current ∨ wordCount needed < 2 ^ 32) ∧
      wholePrice (max current needed) = wholePrice current + cost := by
  unfold growth?
  by_cases enough : needed ≤ current
  · rw [if_pos enough, max_eq_left enough]
    simp [enough, eq_comm]
  · have larger := wholePrice_mono (Nat.le_of_not_le enough)
    rw [if_neg enough, max_eq_right (Nat.le_of_not_le enough)]
    by_cases few : wordCount needed < 2 ^ 32
    · rw [if_pos few, Option.some.injEq]
      omega
    · rw [if_neg few]
      exact iff_of_false nofun fun payable => (not_or.mpr ⟨enough, few⟩) payable.1

theorem expansionPrice_eq_bill (needed current : Nat) :
    expansionPrice needed current = Gas.bill (growth? needed current) := by
  by_cases enough : needed ≤ current
  · rw [expansionPrice, if_pos enough, growth?, if_pos enough]
    rfl
  have grows := Nat.le_of_not_le enough
  by_cases few : wordCount needed < 2 ^ 32
  · have fewer := (wordCount_mono grows).trans_lt few
    have growth : growth? needed current = some (wholePrice needed - wholePrice current) := by
      rw [growth?, if_neg enough, if_pos few]
    rw [growth, Gas.bill, if_pos (growth?_lt growth), UInt64.ofNat_sub (wholePrice_mono grows),
      expansionPrice, if_neg enough, price_eq, if_pos few, price_eq, if_pos fewer]
    rfl
  · rw [expansionPrice, if_neg enough, price_eq, if_neg few, growth?, if_neg enough, if_neg few]
    rfl

theorem inBounds_expansionPrice (needed current : Nat) :
    InBounds (expansionPrice needed current) := by
  rw [expansionPrice_eq_bill]
  exact .of_bill _

theorem expansionPrice_eq_ok {needed current : Nat} {cost : UInt64} :
    expansionPrice needed current = .ok cost ↔
      (needed ≤ current ∨ wordCount needed < 2 ^ 32) ∧
        wholePrice (max current needed) = wholePrice current + cost.toNat := by
  rw [expansionPrice_eq_bill, Gas.bill_eq_ok, growth?_eq_some]

/-- An expansion costs what is missing to the whole price of the larger size. -/
theorem wholePrice_of_expansionPrice {needed current : Nat} {cost : UInt64}
    (priced : expansionPrice needed current = .ok cost) :
    wholePrice (max current needed) = wholePrice current + cost.toNat :=
  (expansionPrice_eq_ok.mp priced).2

/-- A size of whole words that gas can pay for. -/
structure Sound (size : Nat) : Prop where
  aligned : 32 ∣ size
  payable : wholePrice size < UInt64.size

theorem Sound.expanded {needed current : Nat} {cost : UInt64} (sound : Sound current)
    (aligned : 32 ∣ needed) (priced : expansionPrice needed current = .ok cost) :
    Sound (max current needed) := by
  rcases Nat.le_total needed current with enough | grows
  · rw [max_eq_left enough]
    exact sound
  · rw [max_eq_right grows]
    rcases (expansionPrice_eq_ok.mp priced).1 with enough | few
    · rwa [Nat.le_antisymm enough grows]
    · exact ⟨aligned, wholePrice_lt few⟩

theorem sizeToReach_eq (offset size : Nat) :
    sizeToReach offset size = if size = 0 then .ok 0
      else if 32 * wordCount (offset + size) < positionLimit then
        .ok (32 * wordCount (offset + size))
      else .error .outOfBounds := by
  unfold sizeToReach roundToWord?
  by_cases isEmpty : size = 0
  · rw [if_pos isEmpty, if_pos isEmpty]
  rw [if_neg isEmpty, if_neg isEmpty]
  by_cases fits : 32 * wordCount (offset + size) < positionLimit
  · have within : offset + size < positionLimit := by
      unfold wordCount at fits
      omega
    simp only [if_pos within, if_pos fits]
  · simp only [if_neg fits, ite_self]

/-- The size that covers a range is the range rounded up to whole words. -/
theorem sizeToReach_eq_ok {offset size needed : Nat}
    (reaches : sizeToReach offset size = .ok needed) :
    needed = if size = 0 then 0 else 32 * wordCount (offset + size) := by
  rw [sizeToReach_eq] at reaches
  split at reaches
  · cases reaches
    exact (if_pos ‹_›).symm
  · split at reaches <;> cases reaches
    exact (if_neg ‹_›).symm

theorem dvd_sizeToReach {offset size needed : Nat}
    (reaches : sizeToReach offset size = .ok needed) : 32 ∣ needed := by
  rw [sizeToReach_eq_ok reaches]
  split
  · exact dvd_zero 32
  · exact dvd_mul_right 32 _

theorem covers_of_sizeToReach {offset size needed : Nat}
    (reaches : sizeToReach offset size = .ok needed) : size = 0 ∨ offset + size ≤ needed := by
  have rounded := sizeToReach_eq_ok reaches
  split at rounded
  · left; assumption
  · right
    unfold wordCount at rounded
    omega

/-- No gas pays for more than this. -/
theorem Sound.bounded {size : Nat} (sound : Sound size) : size < 2 ^ 62 := by
  by_contra large
  have words : 2 ^ 57 ≤ wordCount size := by
    unfold wordCount
    omega
  have squares := Nat.div_le_div_right (c := 512) (Nat.mul_le_mul words words)
  have payable := sound.payable
  unfold wholePrice at payable
  simp only [UInt64.size] at payable
  omega

/-- Doubling reaches everything that is far enough below the position limit. -/
theorem doubleUntil_isSome {needed steps capacity : Nat} (small : needed < 2 ^ 62)
    (enough : needed ≤ capacity * 2 ^ steps) :
    (doubleUntil needed (steps + 1) capacity).isSome = true := by
  induction steps generalizing capacity with
  | zero =>
      rw [pow_zero, mul_one] at enough
      rw [doubleUntil, if_pos enough, Option.isSome_some]
  | succ steps inductionHypothesis =>
      rw [doubleUntil]
      split
      · rfl
      · rename_i short
        have room : 2 * capacity < positionLimit := by
          unfold positionLimit
          omega
        rw [if_pos room]
        have doubled : 2 * capacity * 2 ^ steps = capacity * 2 ^ (steps + 1) := by ring
        exact inductionHypothesis (enough.trans_eq doubled.symm)

theorem grownCapacity?_isSome {memory : Memory} {needed : Nat} (small : needed < 2 ^ 62) :
    (memory.grownCapacity? needed).isSome = true := by
  unfold grownCapacity?
  split
  · rfl
  · refine doubleUntil_isSome small ?_
    have least : 32 ≤ max memory.capacity 32 := le_max_right _ _
    have reached := Nat.mul_le_mul_right (2 ^ 64) least
    omega

/-- A memory that has grown, but not beyond `size`. -/
structure GrowsWithin (size : Nat) (memory grown : Memory) : Prop where
  grows : memory.size ≤ grown.size
  within : grown.size ≤ size
  aligned : 32 ∣ memory.size → 32 ∣ grown.size

variable {memory : Memory} {size : Nat}

theorem GrowsWithin.refl (within : memory.size ≤ size) : memory.GrowsWithin size memory :=
  ⟨le_refl _, within, id⟩

theorem GrowsWithin.trans {middle grown : Memory} (early : memory.GrowsWithin size middle)
    (late : middle.GrowsWithin size grown) : memory.GrowsWithin size grown where
  grows := early.grows.trans late.grows
  within := late.within
  aligned := fun aligned => late.aligned (early.aligned aligned)

/-- A memory grows to whatever lies within a sound size. -/
theorem grow_within {needed : Nat} (sound : Sound size) (within : memory.size ≤ size)
    (covered : needed ≤ size) :
    ∃ grown, grow needed memory = .ok () grown ∧ memory.GrowsWithin size grown := by
  have small := sound.bounded
  obtain ⟨words, whole⟩ := sound.aligned
  have rounded : 32 * wordCount needed ≤ size := by
    unfold wordCount
    omega
  have fits : roundToWord? needed = some (32 * wordCount needed) := by
    unfold roundToWord? positionLimit
    rw [if_pos (by omega)]
  have covers := le_roundToWord? fits
  have growth := memory.growth needed
  generalize grow needed memory = ending at growth ⊢
  cases growth with
  | covered => exact ⟨memory, rfl, .refl within⟩
  | stuck _ stuck =>
      have reaches : (memory.grownCapacity? (32 * wordCount needed)).isSome = true :=
        grownCapacity?_isSome (by omega)
      rw [stuck _ fits] at reaches
      cases reaches
  | grown short same reached =>
      cases fits.symm.trans same
      exact ⟨_, rfl, by simp only [extended]; omega, rounded, fun _ => dvd_mul_right 32 _⟩

theorem reach_within {offset length : Nat} (sound : Sound size) (within : memory.size ≤ size)
    (covered : offset + length ≤ size) :
    ∃ grown, reach offset length memory = .ok () grown ∧ memory.GrowsWithin size grown := by
  have small := sound.bounded
  obtain ⟨grown, grows, staysWithin⟩ := grow_within sound within covered
  exact ⟨grown, reach_eq_ok.mpr ⟨by unfold positionLimit; omega, grows⟩, staysWithin⟩

theorem write_within {grown : Memory} (staysWithin : memory.GrowsWithin size grown) (offset : Nat)
    (data : ByteArray) : memory.GrowsWithin size (grown.write offset data) :=
  ⟨staysWithin.grows, staysWithin.within, staysWithin.aligned⟩

theorem load_within {offset length : Nat} (sound : Sound size) (within : memory.size ≤ size)
    (covered : length = 0 ∨ offset + length ≤ size) :
    ∃ data grown, load offset length memory = .ok data grown ∧
      memory.GrowsWithin size grown := by
  by_cases none : length = 0
  · exact ⟨_, memory, load_eq_ok.mpr (.inl ⟨none, rfl, rfl⟩), .refl within⟩
  · obtain ⟨grown, reaches, staysWithin⟩ :=
      reach_within sound within (covered.resolve_left none)
    exact ⟨_, grown, load_eq_ok.mpr (.inr ⟨none, reaches, rfl⟩), staysWithin⟩

theorem loadWord_within {offset : Nat} (sound : Sound size) (within : memory.size ≤ size)
    (covered : offset + 32 ≤ size) :
    ∃ word grown, loadWord offset memory = .ok word grown ∧ memory.GrowsWithin size grown := by
  obtain ⟨grown, reaches, staysWithin⟩ := reach_within sound within covered
  exact ⟨_, grown, loadWord_eq_ok.mpr ⟨reaches, rfl⟩, staysWithin⟩

theorem store_within {offset : Nat} {data : ByteArray} (sound : Sound size)
    (within : memory.size ≤ size) (covered : data.size = 0 ∨ offset + data.size ≤ size) :
    ∃ grown, store offset data memory = .ok () grown ∧ memory.GrowsWithin size grown := by
  by_cases none : data.size = 0
  · exact ⟨memory, store_eq_ok.mpr (.inl ⟨none, rfl⟩), .refl within⟩
  · obtain ⟨grown, reaches, staysWithin⟩ :=
      reach_within sound within (covered.resolve_left none)
    exact ⟨_, store_eq_ok.mpr (.inr ⟨none, grown, reaches, rfl⟩),
      write_within staysWithin offset data⟩

theorem storePadded_within {offset length : Nat} {data : ByteArray} (sound : Sound size)
    (within : memory.size ≤ size) (covered : length = 0 ∨ offset + length ≤ size) :
    ∃ grown, storePadded offset data length memory = .ok () grown ∧
      memory.GrowsWithin size grown := by
  by_cases none : length = 0
  · exact ⟨memory, storePadded_eq_ok.mpr (.inl ⟨none, rfl⟩), .refl within⟩
  · obtain ⟨grown, reaches, staysWithin⟩ :=
      reach_within sound within (covered.resolve_left none)
    exact ⟨_, storePadded_eq_ok.mpr (.inr ⟨none, grown, reaches, rfl⟩),
      write_within staysWithin offset _⟩

theorem copyWithin_within {source target length : Nat} (sound : Sound size)
    (within : memory.size ≤ size)
    (covered : length = 0 ∨ max source target + length ≤ size) :
    ∃ grown, copyWithin source target length memory = .ok () grown ∧
      memory.GrowsWithin size grown := by
  have small := sound.bounded
  by_cases none : length = 0
  · exact ⟨memory, copyWithin_eq_ok.mpr (.inl ⟨none, rfl⟩), .refl within⟩
  · have inside := covered.resolve_left none
    obtain ⟨grown, grows, staysWithin⟩ := grow_within sound within inside
    refine ⟨_, copyWithin_eq_ok.mpr (.inr ⟨none, ?_, grown, grows, rfl⟩),
      write_within staysWithin target _⟩
    unfold positionLimit
    omega

end Memory

namespace GasSchedule

variable {schedule : GasSchedule} {needed current size : Nat} {price : UInt64}

/-- The price contains the price of growing from `current` to `needed` bytes, and `rest` beside
it. -/
def Contains (price : UInt64) (needed current rest : Nat) : Prop :=
  ∃ growth, Memory.expansionPrice needed current = .ok growth ∧
    growth.toNat + rest ≤ price.toNat

theorem contains_of_sum {costs : List UInt64} {growth : UInt64}
    (grows : Memory.expansionPrice needed current = .ok growth)
    (member : growth ∈ costs) (total : Gas.sum costs = .ok price) :
    Contains price needed current 0 := by
  refine ⟨growth, grows, ?_⟩
  rw [Gas.sum_eq_ok total]
  exact List.single_le_sum (fun _ _ => Nat.zero_le _) _ (List.mem_map_of_mem member)

theorem inBounds_copy : InBounds (schedule.copy needed current size) :=
  .bind (.times _ _) fun _ => .bind (Memory.inBounds_expansionPrice _ _) fun _ => .sum _

theorem inBounds_extcodecopy {cold : Bool} :
    InBounds (schedule.extcodecopy size needed current cold) :=
  .bind (.times _ _) fun _ => .bind (Memory.inBounds_expansionPrice _ _) fun _ => .sum _

theorem inBounds_memoryAccess : InBounds (schedule.memoryAccess needed current) :=
  .bind (Memory.inBounds_expansionPrice _ _) fun _ => .sum _

theorem inBounds_exp (exponent : Word) : InBounds (schedule.exp exponent) :=
  .bind (.times _ _) fun _ => .sum _

theorem inBounds_keccak256 : InBounds (schedule.keccak256 needed current size) :=
  .bind (.times _ _) fun _ => .bind (Memory.inBounds_expansionPrice _ _) fun _ => .sum _

theorem inBounds_log {topics : Nat} : InBounds (schedule.log needed current size topics) :=
  .bind (.times _ _) fun _ => .bind (.times _ _) fun _ =>
    .bind (Memory.inBounds_expansionPrice _ _) fun _ => .sum _

theorem inBounds_create {hashes : Bool} :
    InBounds (schedule.create needed current size hashes) := by
  have rest : ∀ hashing : UInt64, InBounds (do
      Gas.sum [schedule.createBase, ← Gas.times (wordCount size) schedule.initcodeWord, hashing,
        ← Memory.expansionPrice needed current]) :=
    fun _ => .bind (.times _ _) fun _ => .bind (Memory.inBounds_expansionPrice _ _) fun _ => .sum _
  unfold create
  split
  · exact .bind (.times _ _) rest
  · exact .bind (.of_ok 0) rest

theorem inBounds_call {movesValue createsAccount : Bool} :
    InBounds (schedule.call needed current movesValue createsAccount) :=
  .bind (Memory.inBounds_expansionPrice _ _) fun _ => .sum _

theorem contains_copy (fits : schedule.copy needed current size = .ok price) :
    Contains price needed current 0 := by
  obtain ⟨words, _, rest⟩ := Gas.bind_eq_ok.mp fits
  obtain ⟨growth, grows, total⟩ := Gas.bind_eq_ok.mp rest
  exact contains_of_sum grows (by simp) total

theorem contains_memoryAccess (fits : schedule.memoryAccess needed current = .ok price) :
    Contains price needed current 0 := by
  obtain ⟨growth, grows, total⟩ := Gas.bind_eq_ok.mp fits
  exact contains_of_sum grows (by simp) total

theorem contains_keccak256 (fits : schedule.keccak256 needed current size = .ok price) :
    Contains price needed current 0 := by
  obtain ⟨words, _, rest⟩ := Gas.bind_eq_ok.mp fits
  obtain ⟨growth, grows, total⟩ := Gas.bind_eq_ok.mp rest
  exact contains_of_sum grows (by simp) total

theorem contains_log {topics : Nat} (fits : schedule.log needed current size topics = .ok price) :
    Contains price needed current 0 := by
  obtain ⟨named, _, rest⟩ := Gas.bind_eq_ok.mp fits
  obtain ⟨bytes, _, later⟩ := Gas.bind_eq_ok.mp rest
  obtain ⟨growth, grows, total⟩ := Gas.bind_eq_ok.mp later
  exact contains_of_sum grows (by simp) total

theorem contains_exit (fits : schedule.exit needed current = .ok price) :
    Contains price needed current 0 := ⟨price, fits, le_refl _⟩

theorem contains_create {hashes : Bool}
    (fits : schedule.create needed current size hashes = .ok price) :
    Contains price needed current 0 := by
  simp only [create] at fits
  split at fits
  all_goals
    obtain ⟨hashing, _, rest⟩ := Gas.bind_eq_ok.mp fits
    obtain ⟨words, _, later⟩ := Gas.bind_eq_ok.mp rest
    obtain ⟨growth, grows, total⟩ := Gas.bind_eq_ok.mp later
    exact contains_of_sum grows (by simp) total

theorem extcodecopy_eq_ok {cold : Bool} :
    schedule.extcodecopy size needed current cold = .ok price ↔
      ∃ words growth, Gas.times (wordCount size) schedule.copyWord = .ok words ∧
        Memory.expansionPrice needed current = .ok growth ∧
        price.toNat = (schedule.accountAccess cold).toNat + (words.toNat + growth.toNat) := by
  have total : ∀ words growth : UInt64,
      Gas.sum [schedule.accountAccess cold, words, growth] = .ok price ↔
        price.toNat = (schedule.accountAccess cold).toNat + (words.toNat + growth.toNat) := by
    intro words growth
    rw [Gas.sum_eq_bill, Gas.bill_eq_ok, Option.some.injEq, eq_comm]
    rfl
  constructor
  · intro fits
    obtain ⟨words, worded, rest⟩ := Gas.bind_eq_ok.mp fits
    obtain ⟨growth, grows, summed⟩ := Gas.bind_eq_ok.mp rest
    exact ⟨words, growth, worded, grows, (total words growth).mp summed⟩
  · rintro ⟨words, growth, worded, grows, summed⟩
    exact Gas.bind_eq_ok.mpr
      ⟨words, worded, Gas.bind_eq_ok.mpr ⟨growth, grows, (total words growth).mpr summed⟩⟩

/-- Where the price of a warm access is exchanged for that of the real one, what comes out is the
price of the copy. -/
theorem extcodecopy_of_plus {cold : Bool} {whole : UInt64}
    (priced : schedule.extcodecopy size needed current false = .ok whole)
    (exchanged : Gas.plus (schedule.accountAccess cold)
      (subSaturating whole (schedule.accountAccess false)) = .ok price) :
    schedule.extcodecopy size needed current cold = .ok price := by
  obtain ⟨words, growth, worded, grows, total⟩ := extcodecopy_eq_ok.mp priced
  have real := Gas.plus_eq_ok exchanged
  rw [toNat_subSaturating, total, Nat.add_sub_cancel_left] at real
  exact extcodecopy_eq_ok.mpr ⟨words, growth, worded, grows, real⟩

/-- A copy of code costs more than the access to the account by the growth at least. -/
theorem contains_extcodecopy (fits : schedule.extcodecopy size needed current false = .ok price) :
    Contains (subSaturating price (schedule.accountAccess false)) needed current 0 := by
  obtain ⟨words, growth, _, grows, total⟩ := extcodecopy_eq_ok.mp fits
  refine ⟨growth, grows, ?_⟩
  rw [toNat_subSaturating, total]
  omega

/-- A call pays for its memory beside the value it moves. -/
theorem contains_call {movesValue createsAccount : Bool}
    (fits : schedule.call needed current movesValue createsAccount = .ok price) :
    Contains price needed current (if movesValue then schedule.callValue.toNat else 0) := by
  obtain ⟨growth, grows, total⟩ := Gas.bind_eq_ok.mp fits
  refine ⟨growth, grows, ?_⟩
  rw [Gas.sum_eq_ok total]
  cases movesValue
  all_goals
    simp only [List.map_cons, List.map_nil, List.sum_cons, List.sum_nil, if_true, Bool.false_eq_true,
      if_false]
    omega

end GasSchedule

end CancunMachine
