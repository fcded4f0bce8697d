import Mathlib.Tactic
import CancunMachine.Proofs.Word.Arithmetic
import CancunMachine.Proofs.World.Header

/-!
# The supply of value

Transfers move value and never make any: the sum of all balances stays the same. As long as all
balances together fit in a word, whoever can pay for a transfer can make it: the target can always
hold the sum.
-/

namespace CancunMachine

namespace World

/-- The sum of all balances. -/
def supply (world : World) : Nat :=
  ∑ address ∈ (world.accounts.entries.map (·.1)).toFinset, (world.balance address).toNat

/-- No accounts together hold more than a word can express. -/
def Funded (world : World) : Prop :=
  ∀ holders : Finset Address, ∑ address ∈ holders, (world.balance address).toNat < Word.count

theorem balance_of_not_listed {world : World} {address : Address}
    (missing : address ∉ (world.accounts.entries.map (·.1)).toFinset) :
    world.balance address = .zero := by
  have absent : world.account? address = none := by
    unfold account? Table.get?
    rw [Option.map_eq_none_iff, List.find?_eq_none]
    intro entry member same
    apply missing
    rw [List.mem_toFinset, List.mem_map]
    exact ⟨entry, member, of_decide_eq_true same⟩
  rw [balance, absent]
  rfl

/-- The supply is the sum over any accounts that include all holders. -/
theorem supply_eq_sum {world : World} {holders : Finset Address}
    (covers : ∀ address, address ∉ holders → world.balance address = .zero) :
    world.supply = ∑ address ∈ holders, (world.balance address).toNat := by
  have nothing : ∀ address, world.balance address = .zero → (world.balance address).toNat = 0 := by
    intro address zero
    rw [zero]
    rfl
  have listed : ∑ address ∈ (world.accounts.entries.map (·.1)).toFinset,
        (world.balance address).toNat =
      ∑ address ∈ (world.accounts.entries.map (·.1)).toFinset ∪ holders,
        (world.balance address).toNat :=
    Finset.sum_subset Finset.subset_union_left
      fun address _ missing => nothing address (balance_of_not_listed missing)
  have covered : ∑ address ∈ holders, (world.balance address).toNat =
      ∑ address ∈ (world.accounts.entries.map (·.1)).toFinset ∪ holders,
        (world.balance address).toNat :=
    Finset.sum_subset Finset.subset_union_right
      fun address _ missing => nothing address (covers address missing)
  rw [supply, listed, covered]

/-- Some accounts include all holders of both worlds. -/
theorem exists_covers (world next : World) (address : Address) :
    ∃ holders : Finset Address, address ∈ holders ∧
      world.supply = ∑ holder ∈ holders, (world.balance holder).toNat ∧
      next.supply = ∑ holder ∈ holders, (next.balance holder).toNat := by
  refine ⟨insert address ((world.accounts.entries.map (·.1)).toFinset ∪
    (next.accounts.entries.map (·.1)).toFinset), Finset.mem_insert_self _ _, ?_, ?_⟩
  · apply supply_eq_sum
    intro holder missing
    apply balance_of_not_listed
    exact fun member => missing (Finset.mem_insert_of_mem (Finset.mem_union_left _ member))
  · apply supply_eq_sum
    intro holder missing
    apply balance_of_not_listed
    exact fun member => missing (Finset.mem_insert_of_mem (Finset.mem_union_right _ member))

theorem supply_le_of_balance {world next : World}
    (less : ∀ address, (next.balance address).toNat ≤ (world.balance address).toNat) :
    next.supply ≤ world.supply := by
  obtain ⟨holders, _, before, after⟩ := exists_covers world next .zero
  rw [before, after]
  exact Finset.sum_le_sum fun address _ => less address

theorem supply_of_balance {world next : World}
    (same : ∀ address, next.balance address = world.balance address) :
    next.supply = world.supply := by
  apply le_antisymm <;> apply supply_le_of_balance <;> intro address <;> rw [same]

/-- The supply after a write of a balance, without a subtraction. -/
theorem supply_setBalance (world : World) (address : Address) (balance : Word) :
    (world.setBalance address balance).supply + (world.balance address).toNat =
      world.supply + balance.toNat := by
  rcases exists_covers world (world.setBalance address balance) address with
    ⟨holders, member, before, after⟩
  have elsewhere : ∑ other ∈ holders.erase address,
        ((world.setBalance address balance).balance other).toNat =
      ∑ other ∈ holders.erase address, (world.balance other).toNat := by
    apply Finset.sum_congr rfl
    intro other erased
    rw [balance_setBalance, if_neg (Finset.ne_of_mem_erase erased)]
  have written := balance_setBalance world address address balance
  rw [if_pos rfl] at written
  rw [before, after, ← Finset.add_sum_erase _ _ member, ← Finset.add_sum_erase _ _ member,
    elsewhere, written]
  omega

/-- A transfer that succeeds makes no value and loses none, also one from an account to itself. -/
theorem supply_of_moves {source target : Address} {value : Word} {world final : World}
    (moves : Moves source target value world final) : final.supply = world.supply := by
  cases moves with
  | nothing => rfl
  | something _ affordable fits =>
      have debit := supply_setBalance world source ((world.balance source).sub value)
      have credit := supply_setBalance (world.setBalance source ((world.balance source).sub value))
        target (((world.setBalance source ((world.balance source).sub value)).balance target).add
          value)
      have enough := Word.lt_eq_false_iff.mp affordable
      rw [Word.toNat_sub_of_le enough] at debit
      rw [Word.toNat_add_of_lt_eq_false fits] at credit
      rw [moved]
      omega

theorem funded_of_supply {world : World} (fits : world.supply < Word.count) : world.Funded := by
  intro holders
  have unlisted : ∀ address ∈ holders, address ∉ (world.accounts.entries.map (·.1)).toFinset →
      (world.balance address).toNat = 0 := by
    intro address _ missing
    rw [balance_of_not_listed missing]
    rfl
  refine lt_of_le_of_lt ?_ fits
  exact Finset.sum_le_sum_of_ne_zero fun address member nonzero => by
    by_contra missing
    exact nonzero (unlisted address member missing)

theorem Funded.of_le {world next : World} (funded : world.Funded)
    (less : ∀ address, (next.balance address).toNat ≤ (world.balance address).toNat) :
    next.Funded := by
  intro holders
  exact lt_of_le_of_lt (Finset.sum_le_sum fun address _ => less address) (funded holders)

theorem Funded.of_balance {world next : World} (funded : world.Funded)
    (same : ∀ address, next.balance address = world.balance address) : next.Funded :=
  funded.of_le fun address => le_of_eq (congrArg Word.toNat (same address))

/-- Two accounts can hold what they have together in one of them. -/
theorem Funded.pair {world : World} (funded : world.Funded) {first second : Address}
    (different : first ≠ second) :
    (world.balance first).toNat + (world.balance second).toNat < Word.count := by
  have together := funded {first, second}
  rwa [Finset.sum_pair different] at together

/-- What the source loses the target gains, also when they are one account. -/
theorem toNat_balance_of_moves {source target : Address} {value : Word} {world final : World}
    (moves : Moves source target value world final) (address : Address) :
    (final.balance address).toNat + (if address = source then value.toNat else 0) =
      (world.balance address).toNat + if address = target then value.toNat else 0 := by
  cases moves with
  | nothing zero => simp [Word.isZero_iff.mp zero]
  | something _ affordable fits =>
      have enough := Word.lt_eq_false_iff.mp affordable
      have credit := Word.toNat_add_of_lt_eq_false fits
      have debit := balance_setBalance world source address ((world.balance source).sub value)
      rw [moved, balance_setBalance]
      by_cases isTarget : address = target
      · rw [if_pos isTarget, if_pos isTarget, credit, ← isTarget, debit]
        split
        · rename_i isSource
          rw [Word.toNat_sub_of_le enough, isSource]
          omega
        · omega
      · rw [if_neg isTarget, if_neg isTarget, debit]
        split
        · rename_i isSource
          rw [Word.toNat_sub_of_le enough, isSource]
          omega
        · rfl

theorem Funded.moves {world final : World} (funded : world.Funded) {source target : Address}
    {value : Word} (moves : Moves source target value world final) : final.Funded := by
  intro holders
  -- Over a set that has both the source and the target, the sum stays the same.
  let all : Finset Address := insert source (insert target holders)
  have exchanged : ∑ other ∈ all, (final.balance other).toNat =
      ∑ other ∈ all, (world.balance other).toNat := by
    have summed := Finset.sum_congr (rfl : all = all)
      fun other _ => toNat_balance_of_moves moves other
    rw [Finset.sum_add_distrib, Finset.sum_add_distrib, Finset.sum_ite_eq', Finset.sum_ite_eq']
      at summed
    simpa [all] using summed
  have part : ∑ other ∈ holders, (final.balance other).toNat ≤
      ∑ other ∈ all, (final.balance other).toNat := by
    apply Finset.sum_le_sum_of_subset
    intro other member
    simp [all, member]
  calc ∑ other ∈ holders, (final.balance other).toNat
      ≤ ∑ other ∈ all, (final.balance other).toNat := part
    _ = ∑ other ∈ all, (world.balance other).toNat := exchanged
    _ < Word.count := funded all

/-- In a funded world every transfer that can be paid for can be made. -/
theorem Funded.solvent {world : World} (funded : world.Funded) : world.Solvent := by
  intro source target value affordable
  by_cases zero : value.isZero = true
  · exact ⟨world, .nothing zero⟩
  have enough := Word.lt_eq_false_iff.mp affordable
  refine ⟨_, .something (by simpa using zero) affordable (Word.add_lt_eq_false_iff.mpr ?_)⟩
  rw [balance_setBalance]
  split
  · have bounded := (world.balance source).toNat_lt_count
    rw [Word.toNat_sub_of_le enough]
    omega
  · rename_i different
    have room := funded.pair (Ne.symm different)
    omega

end World

end CancunMachine
