import Mathlib.Tactic
import CancunMachine.Gas

/-!
# Sums of prices

A sum of costs is exact: it is the sum of the numbers, or it is too large for any gas, whatever the
order in which it is added up. So an instruction costs at least as much as each of its parts.
-/

namespace CancunMachine

theorem addWithin?_eq_some {left right sum : UInt64} (fits : addWithin? left right = some sum) :
    sum.toNat = left.toNat + right.toNat := by
  unfold addWithin? maxUInt64 at fits
  split at fits
  · rename_i within
    cases fits
    have leftSmall := left.toNat_lt
    have rightSmall := right.toNat_lt
    have room : (0xffffffffffffffff - right : UInt64).toNat = 0xffffffffffffffff - right.toNat := by
      rw [UInt64.toNat_sub_of_le]
      · rfl
      · rw [UInt64.le_iff_toNat_le]
        change right.toNat ≤ 0xffffffffffffffff
        omega
    rw [UInt64.le_iff_toNat_le, room] at within
    rw [UInt64.toNat_add, Nat.mod_eq_of_lt]
    omega
  · cases fits

theorem addWithin?_of_lt {left right : UInt64} (small : left.toNat + right.toNat < UInt64.size) :
    addWithin? left right = some (left + right) := by
  unfold addWithin? maxUInt64
  rw [if_pos]
  have rightSmall := right.toNat_lt
  rw [UInt64.le_iff_toNat_le, UInt64.toNat_sub_of_le]
  · change left.toNat ≤ 0xffffffffffffffff - right.toNat
    simp only [UInt64.size] at small
    omega
  · rw [UInt64.le_iff_toNat_le]
    change right.toNat ≤ 0xffffffffffffffff
    omega

/-- A number below the largest one can be counted up. -/
theorem toNat_add_one_of_ne_max {number : UInt64} (room : number ≠ maxUInt64) :
    (number + 1).toNat = number.toNat + 1 := by
  have bound := number.toNat_lt
  have below : number.toNat ≠ maxUInt64.toNat := fun same => room (UInt64.toNat_inj.mp same)
  have largest : maxUInt64.toNat = 2 ^ 64 - 1 := rfl
  rw [UInt64.toNat_add, UInt64.toNat_one]
  omega

theorem toNat_subSaturating (left right : UInt64) :
    (subSaturating left right).toNat = left.toNat - right.toNat := by
  unfold subSaturating
  split
  · rename_i le
    exact UInt64.toNat_sub_of_le _ _ le
  · rename_i gt
    rw [UInt64.le_iff_toNat_le] at gt
    change 0 = _
    omega

namespace Gas

theorem bind_eq_ok {Error Alpha Beta : Type} {first : Except Error Alpha}
    {next : Alpha → Except Error Beta} {result : Beta} :
    (first >>= next) = .ok result ↔ ∃ value, first = .ok value ∧ next value = .ok result := by
  cases first with
  | error reason =>
      constructor
      · intro done
        cases done
      · rintro ⟨_, same, _⟩
        cases same
  | ok value =>
      constructor
      · exact fun done => ⟨value, rfl, done⟩
      · rintro ⟨_, same, done⟩
        cases same
        exact done

/-- What an exact cost comes to: it can be paid if there is one and it fits in 64 bits. -/
def bill : Option Nat → Except Halt UInt64
  | some cost => if cost < UInt64.size then .ok (.ofNat cost) else .error .outOfGas
  | none => .error .outOfGas

theorem bill_toNat (price : UInt64) : bill (some price.toNat) = .ok price := by
  rw [bill, if_pos price.toNat_lt, UInt64.ofNat_toNat]

/-- A bill comes to the price that is its cost, or is too large for any gas. -/
theorem bill_cases (cost : Option Nat) :
    (∃ price : UInt64, cost = some price.toNat ∧ bill cost = .ok price) ∨
      (∀ total ∈ cost, UInt64.size ≤ total) ∧ bill cost = .error .outOfGas := by
  cases cost with
  | none => exact .inr ⟨nofun, rfl⟩
  | some cost =>
      by_cases fits : cost < UInt64.size
      · have number : (UInt64.ofNat cost).toNat = cost := UInt64.toNat_ofNat_of_lt' fits
        exact .inl ⟨.ofNat cost, by rw [number], if_pos fits⟩
      · refine .inr ⟨fun total member => ?_, if_neg fits⟩
        cases member
        exact Nat.not_lt.mp fits

theorem bill_eq_ok {cost : Option Nat} {price : UInt64} :
    bill cost = .ok price ↔ cost = some price.toNat := by
  constructor
  · intro payable
    rcases bill_cases cost with ⟨_, equal, same⟩ | ⟨_, refused⟩
    · cases same.symm.trans payable
      exact equal
    · cases refused.symm.trans payable
  · rintro rfl
    exact bill_toNat price

/-- A part of a cost that cannot be paid makes the whole of it too large. -/
theorem bill_bind {part whole : Option Nat} {next : UInt64 → Except Halt UInt64}
    (covered : ∀ total ∈ whole, ∃ share ∈ part, share ≤ total)
    (rest : ∀ price : UInt64, part = some price.toNat → next price = bill whole) :
    (bill part >>= next) = bill whole := by
  rcases bill_cases part with ⟨price, equal, payable⟩ | ⟨large, refused⟩
  · rw [payable]
    exact rest price equal
  · rw [refused]
    rcases bill_cases whole with ⟨price, equal, _⟩ | ⟨_, tooLarge⟩
    · obtain ⟨share, member, less⟩ := covered _ equal
      exact absurd (large share member) (Nat.not_le.mpr (less.trans_lt price.toNat_lt))
    · exact tooLarge.symm

theorem plus_eq_bill (left right : UInt64) :
    plus left right = bill (some (left.toNat + right.toNat)) := by
  unfold plus
  cases added : addWithin? left right with
  | some sum =>
      rw [← addWithin?_eq_some added, bill_toNat]
      rfl
  | none =>
      refine (if_neg fun fits => ?_).symm
      rw [addWithin?_of_lt fits] at added
      cases added

theorem foldlM_plus_eq_bill (costs : List UInt64) (start : UInt64) :
    costs.foldlM plus start = bill (some (start.toNat + (costs.map UInt64.toNat).sum)) := by
  induction costs generalizing start with
  | nil => exact (bill_toNat start).symm
  | cons cost costs inductionHypothesis =>
      rw [List.foldlM_cons, plus_eq_bill, List.map_cons, List.sum_cons, ← Nat.add_assoc]
      refine bill_bind ?_ fun next equal => ?_
      · rintro _ ⟨⟩
        exact ⟨_, rfl, Nat.le_add_right _ _⟩
      · rw [inductionHypothesis, Option.some.inj equal]

theorem sum_eq_bill (costs : List UInt64) :
    sum costs = bill (some (costs.map UInt64.toNat).sum) := by
  rw [sum, foldlM_plus_eq_bill, UInt64.toNat_zero, Nat.zero_add]

theorem times_eq_bill {count : Nat} (small : count < positionLimit) (price : UInt64) :
    times count price = bill (some (count * price.toNat)) := by
  have number : (UInt64.ofNat count).toNat = count := UInt64.toNat_ofNat_of_lt' small
  rw [times, if_pos small, mulWithin?, number]
  by_cases fits : count * price.toNat < UInt64.size
  · rw [if_pos fits, bill, if_pos fits, UInt64.ofNat_mul, UInt64.ofNat_toNat]
    rfl
  · rw [if_neg fits, bill, if_neg fits]
    rfl

theorem plus_eq_ok {left right total : UInt64} (fits : plus left right = .ok total) :
    total.toNat = left.toNat + right.toNat := by
  rw [plus_eq_bill, bill_eq_ok] at fits
  exact (Option.some.inj fits).symm

theorem sum_eq_ok {costs : List UInt64} {total : UInt64} (fits : sum costs = .ok total) :
    total.toNat = (costs.map UInt64.toNat).sum := by
  rw [sum_eq_bill, bill_eq_ok] at fits
  exact (Option.some.inj fits).symm

/-- Each part of a sum that can be paid costs at most what the whole does. -/
theorem le_of_mem {costs : List UInt64} {cost total : UInt64} (part : cost ∈ costs)
    (fits : sum costs = .ok total) : cost.toNat ≤ total.toNat := by
  rw [sum_eq_ok fits]
  exact List.single_le_sum (fun _ _ => Nat.zero_le _) _ (List.mem_map_of_mem part)

/-- A parent keeps a 64th of its gas. -/
theorem forChild_le_share (remaining requested : UInt64) :
    (forChild remaining requested).toNat ≤ remaining.toNat - remaining.toNat / 64 := by
  have bound := toNat_subSaturating remaining (remaining / 64)
  have share : (remaining / 64).toNat = remaining.toNat / 64 := UInt64.toNat_div _ _
  unfold forChild
  change (if _ ≤ requested then _ else requested).toNat ≤ _
  split
  · omega
  · rename_i smaller
    rw [UInt64.not_le, UInt64.lt_iff_toNat_lt] at smaller
    omega

/-- A child gets at most what its parent has. -/
theorem forChild_le (remaining requested : UInt64) :
    (forChild remaining requested).toNat ≤ remaining.toNat :=
  (forChild_le_share remaining requested).trans (Nat.sub_le _ _)

end Gas

namespace GasSchedule

variable {schedule : GasSchedule} {needed current size : Nat} {price : UInt64}

/-- The smallest price of an account access. -/
def leastAccess (schedule : GasSchedule) : Nat :=
  min schedule.coldAccountAccess.toNat schedule.warmAccess.toNat

theorem leastAccess_le (schedule : GasSchedule) (cold : Bool) :
    schedule.leastAccess ≤ (schedule.accountAccess cold).toNat := by
  unfold leastAccess accountAccess
  split <;> omega

/-- The smallest price of a storage write. -/
def leastWrite (schedule : GasSchedule) : Nat :=
  min schedule.warmAccess.toNat
    (min schedule.sstoreSet.toNat (schedule.sstoreReset.toNat - schedule.coldSload.toNat))

theorem leastWrite_le (schedule : GasSchedule) (initial current new : Word) :
    schedule.leastWrite ≤ (schedule.sstoreCost initial current new).toNat := by
  unfold leastWrite sstoreCost
  split
  · omega
  · split
    · omega
    · rw [toNat_subSaturating]
      omega

theorem le_copy (fits : schedule.copy needed current size = .ok price) :
    (schedule.tier .veryLow).toNat ≤ price.toNat := by
  obtain ⟨words, _, rest⟩ := Gas.bind_eq_ok.mp fits
  obtain ⟨growth, _, total⟩ := Gas.bind_eq_ok.mp rest
  exact Gas.le_of_mem (.head _) total

theorem le_memoryAccess (fits : schedule.memoryAccess needed current = .ok price) :
    (schedule.tier .veryLow).toNat ≤ price.toNat := by
  obtain ⟨growth, _, total⟩ := Gas.bind_eq_ok.mp fits
  exact Gas.le_of_mem (.head _) total

theorem le_exp {exponent : Word} (fits : schedule.exp exponent = .ok price) :
    schedule.expStatic.toNat ≤ price.toNat := by
  obtain ⟨bytes, _, total⟩ := Gas.bind_eq_ok.mp fits
  exact Gas.le_of_mem (.head _) total

theorem le_keccak256 (fits : schedule.keccak256 needed current size = .ok price) :
    schedule.keccakStatic.toNat ≤ price.toNat := by
  obtain ⟨words, _, rest⟩ := Gas.bind_eq_ok.mp fits
  obtain ⟨growth, _, total⟩ := Gas.bind_eq_ok.mp rest
  exact Gas.le_of_mem (.head _) total

theorem le_log {topics : Nat} (fits : schedule.log needed current size topics = .ok price) :
    schedule.logStatic.toNat ≤ price.toNat := by
  obtain ⟨named, _, rest⟩ := Gas.bind_eq_ok.mp fits
  obtain ⟨bytes, _, later⟩ := Gas.bind_eq_ok.mp rest
  obtain ⟨growth, _, total⟩ := Gas.bind_eq_ok.mp later
  exact Gas.le_of_mem (.head _) total

theorem le_create {hashes : Bool} (fits : schedule.create needed current size hashes = .ok price) :
    schedule.createBase.toNat ≤ price.toNat := by
  simp only [create] at fits
  split at fits
  all_goals
    obtain ⟨hashing, _, rest⟩ := Gas.bind_eq_ok.mp fits
    obtain ⟨words, _, later⟩ := Gas.bind_eq_ok.mp rest
    obtain ⟨growth, _, total⟩ := Gas.bind_eq_ok.mp later
    exact Gas.le_of_mem (.head _) total

/-- A call that moves value pays for moving it. -/
theorem le_call {movesValue createsAccount : Bool}
    (fits : schedule.call needed current movesValue createsAccount = .ok price) :
    (if movesValue then schedule.callValue.toNat else 0) ≤ price.toNat := by
  obtain ⟨growth, _, total⟩ := Gas.bind_eq_ok.mp fits
  rw [Gas.sum_eq_ok total]
  cases movesValue
  · simp
  · simp only [List.map_cons, List.sum_cons, if_true]
    omega

end GasSchedule

end CancunMachine
