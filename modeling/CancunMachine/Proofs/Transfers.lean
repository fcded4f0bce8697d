import Mathlib.Tactic
import CancunMachine.Proofs.World.Layers
import CancunMachine.Proofs.World.Seen
import CancunMachine.Proofs.World.Supply

/-!
# Transfers of value

A transfer moves its value exactly when the source can pay and the target can hold the sum, and it
changes nothing else. The target is looked at only once the source has paid, so that an account may pay
itself; a transfer that fails because its target is full has therefore taken the value from its source
already, and only reverting a checkpoint gives it back.
-/

namespace CancunMachine

open Ending

namespace World

variable {world final : World} {source target : Address} {value : Word}

/-- There is nothing to move, or the source can pay and the target can hold the sum then. -/
def CanTransfer (world : World) (source target : Address) (value : Word) : Prop :=
  value.toNat = 0 ∨
    value.toNat ≤ (world.balance source).toNat ∧
      ((world.debited source value).balance target).toNat + value.toNat < 2 ^ 256

/-- The value has moved, and nothing else has changed. -/
structure Transferred (world : World) (source target : Address) (value : Word) (final : World) :
    Prop where
  /-- The source has less and the target has more, unless they are one account. -/
  balance : ∀ address,
    (final.balance address).toNat + (if address = source then value.toNat else 0) =
      (world.balance address).toNat + if address = target then value.toNat else 0
  nonce : ∀ address, final.nonce address = world.nonce address
  code : ∀ address, final.code address = world.code address
  codeHash : ∀ address, final.codeHash address = world.codeHash address
  slot : ∀ address key, final.slot address key = world.slot address key
  /-- Only the target can come into being, by receiving something. -/
  isPresent : ∀ address, final.isPresent address =
    (world.isPresent address || decide (address = target ∧ value.toNat ≠ 0))
  others : ∀ address, address ≠ source → address ≠ target →
    final.account? address = world.account? address

/-- How a transfer fails: the source cannot pay, and nothing has changed; or the target cannot hold the
sum, and the source has paid. -/
inductive TransferFails (world : World) (source target : Address) (value : Word) :
    StoreError → World → Prop
  | insufficient : (world.balance source).toNat < value.toNat →
      TransferFails world source target value (.custom "insufficient balance") world
  | overflow : source ≠ target → value.toNat ≤ (world.balance source).toNat →
      2 ^ 256 ≤ (world.balance target).toNat + value.toNat →
      TransferFails world source target value (.custom "balance overflow")
        (world.debited source value)

theorem balance_debited (world : World) (source address : Address) (value : Word) :
    (world.debited source value).balance address =
      if address = source then (world.balance source).sub value else world.balance address :=
  balance_setBalance world source address _

/-- An account can always pay itself what it has. -/
theorem credit_of_self (enough : value.toNat ≤ (world.balance source).toNat) :
    ((world.debited source value).balance source).toNat + value.toNat =
      (world.balance source).toNat := by
  rw [balance_debited, if_pos rfl, Word.toNat_sub_of_le enough]
  omega

theorem canTransfer_iff : world.CanTransfer source target value ↔
    ∃ final, Moves source target value world final := by
  rw [CanTransfer, ← Word.count_eq]
  constructor
  · rintro (nothing | ⟨enough, fits⟩)
    · exact ⟨world, .nothing (Word.isZero_iff.mpr nothing)⟩
    · by_cases zero : value.isZero = true
      · exact ⟨world, .nothing zero⟩
      · exact ⟨_, .something (Bool.eq_false_iff.mpr zero) (Word.lt_eq_false_iff.mpr enough)
          (Word.add_lt_eq_false_iff.mpr fits)⟩
  · rintro ⟨final, moves⟩
    cases moves with
    | nothing zero => exact .inl (Word.isZero_iff.mp zero)
    | something _ affordable fits =>
        exact .inr ⟨Word.lt_eq_false_iff.mp affordable, Word.add_lt_eq_false_iff.mp fits⟩

theorem isPresent_of_balance {address : Address} (holds : (world.balance address).toNat ≠ 0) :
    world.isPresent address = true := by
  by_contra missing
  rw [isPresent, Option.not_isSome_iff_eq_none] at missing
  rw [balance, missing] at holds
  exact holds rfl

theorem isPresent_of_moves (moves : Moves source target value world final) (address : Address) :
    final.isPresent address =
      (world.isPresent address || decide (address = target ∧ value.toNat ≠ 0)) := by
  cases moves with
  | nothing zero => simp [Word.isZero_iff.mp zero]
  | something nonzero affordable =>
      have positive : value.toNat ≠ 0 := mt Word.isZero_iff.mpr (Bool.eq_false_iff.mp nonzero)
      have enough := Word.lt_eq_false_iff.mp affordable
      have payer : world.isPresent source = true := isPresent_of_balance (by omega)
      rw [moved, setBalance, isPresent_updateHeader, setBalance, isPresent_updateHeader, ← payer,
        Function.update_eq_self, Function.update_apply]
      by_cases isTarget : address = target <;> simp [isTarget, positive, payer]

/-- What a transfer between other accounts leaves alone. -/
theorem account?_of_moves (moves : Moves source target value world final) {address : Address}
    (notSource : address ≠ source) (notTarget : address ≠ target) :
    final.account? address = world.account? address := by
  cases moves with
  | nothing => rfl
  | something =>
      rw [moved, setBalance, account?_updateHeader, if_neg notTarget, setBalance,
        account?_updateHeader, if_neg notSource]

theorem transferred_of_moves (moves : Moves source target value world final) :
    world.Transferred source target value final where
  balance := toNat_balance_of_moves moves
  nonce := fun address => congrArg Account.View.nonce (seen_of_moves moves address).1
  code := fun address => congrArg Account.View.code (seen_of_moves moves address).1
  codeHash := fun address => congrArg Account.View.codeHash (seen_of_moves moves address).1
  slot := fun address key =>
    congrFun (congrArg Account.View.slots (seen_of_moves moves address).1) key
  isPresent := isPresent_of_moves moves
  others := fun _ => account?_of_moves moves

end World

namespace Access

variable {world final : World} {source target : Address} {value : Word}

/-- A transfer that fails does so at one of its two checks. -/
theorem fails_of_transfer {error : StoreError}
    (failed : transfer .none source target value world = .error error final) :
    world.TransferFails source target value error final := by
  rw [transfer_granted] at failed
  split at failed
  · cases failed
  split at failed
  · rename_i poor
    cases failed
    exact .insufficient (Word.lt_iff.mp poor)
  split at failed
  · rename_i affordable full
    cases failed
    have enough := Word.lt_eq_false_iff.mp (Bool.eq_false_iff.mpr affordable)
    have exceeds := not_lt.mp fun fits =>
      Bool.eq_false_iff.mp (Word.add_lt_eq_false_iff.mpr fits) full
    have apart : source ≠ target := by
      rintro rfl
      rw [World.credit_of_self enough] at exceeds
      exact not_lt.mpr exceeds (world.balance source).toNat_lt_count
    rw [World.balance_debited, if_neg apart.symm, Word.count_eq] at exceeds
    exact .overflow apart enough exceeds
  · cases failed

/-- However a transfer fails, reverting the checkpoint it was made in takes it back. -/
theorem transfer_taken_back {refusals : Refusals} {error : StoreError}
    (failed : transfer refusals source target value world.checkpoint = .error error final) :
    ∃ restored, final.revert = .ok restored ∧ world.LooksLike restored := by
  have course : world.checkpoint.Follows
      (reached (transfer refusals source target value world.checkpoint)) :=
    journaled_transfer source target value world.checkpoint
  rw [failed] at course
  have leaves : world.LeavesOpen 1 final := .one (.refl world) (.none course)
  obtain ⟨restored, reverts⟩ := World.revert_of_open leaves.layers_ne_nil
  exact ⟨restored, reverts, World.looksLike_of_view (course.revert reverts).view⟩

end Access

/-- A transfer succeeds exactly when there is nothing to move, or the source can pay and the target can
hold the sum; then the value has moved, and nothing else has changed. A source that cannot pay is left
alone. A target that cannot hold the sum is noticed when the source has paid, and what was paid comes
back when the checkpoint around the transfer is reverted. -/
theorem transfers_move_their_value (world : World) (source target : Address) (value : Word) :
    (world.CanTransfer source target value ↔
      ∃ final, Access.transfer .none source target value world = .ok () final) ∧
    (∀ final, Access.transfer .none source target value world = .ok () final →
      world.Transferred source target value final) ∧
    (∀ error final, Access.transfer .none source target value world = .error error final →
      world.TransferFails source target value error final) ∧
    ∀ error final,
      Access.transfer .none source target value world.checkpoint = .error error final →
        ∃ restored, final.revert = .ok restored ∧ world.LooksLike restored := by
  refine ⟨?_, fun final done => World.transferred_of_moves (Access.moves_of_transfer done),
    fun error final => Access.fails_of_transfer, fun error final => Access.transfer_taken_back⟩
  rw [World.canTransfer_iff]
  exact ⟨fun ⟨final, moves⟩ => ⟨final, Access.transfer_of_granted rfl moves⟩,
    fun ⟨final, done⟩ => ⟨final, Access.moves_of_transfer done⟩⟩

/-- An account with a little, and one that cannot hold any more. -/
def hoard : World :=
  (World.empty.setBalance (.ofNat 1) (.ofNat 5)).setBalance (.ofNat 2) (.ofNat (2 ^ 256 - 1))

/-- The full account cannot be paid, and the other one gets back what it paid. -/
theorem full_account_gives_back :
    ∃ final restored,
      Access.transfer .none (.ofNat 1) (.ofNat 2) .one hoard.checkpoint =
        .error (.custom "balance overflow") final ∧
      final.balance (.ofNat 1) = .ofNat 4 ∧
      final.revert = .ok restored ∧ hoard.LooksLike restored := by
  have failed : Access.transfer .none (.ofNat 1) (.ofNat 2) .one hoard.checkpoint =
      .error (.custom "balance overflow") (hoard.checkpoint.debited (.ofNat 1) .one) := rfl
  obtain ⟨restored, reverts, same⟩ :=
    (transfers_move_their_value hoard (.ofNat 1) (.ofNat 2) .one).2.2.2 _ _ failed
  exact ⟨_, restored, failed, by decide, reverts, same⟩

/-- A transfer that fails is not as if it had not been tried: without a checkpoint to revert, what the
source paid is lost. -/
theorem failed_transfers_are_not_undone :
    ¬ ∀ (world final : World) (source target : Address) (value : Word) (error : StoreError),
      Access.transfer .none source target value world = .error error final →
        world.LooksLike final := by
  intro undone
  have failed : Access.transfer .none (.ofNat 1) (.ofNat 2) .one hoard =
      .error (.custom "balance overflow") (hoard.debited (.ofNat 1) .one) := rfl
  have same := (undone _ _ _ _ _ _ failed).balance (.ofNat 1)
  exact absurd same (by decide)

end CancunMachine
