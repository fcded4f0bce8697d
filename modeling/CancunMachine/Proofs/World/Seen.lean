import Mathlib.Tactic
import CancunMachine.Proofs.World.Journal

/-!
# What each write shows

`World.seen` is what can be seen of the account at an address, where a missing account looks like
one nothing was ever done to. Each write of the world changes it at one address.
-/

namespace CancunMachine

namespace World

variable {world other : World} {address : Address}

/-- What can be seen of the account at an address. -/
def seen (world : World) (address : Address) : Account.View :=
  ((world.account? address).getD .empty).view

/-- Whether there is an account at an address. -/
def isPresent (world : World) (address : Address) : Bool := (world.account? address).isSome

theorem seen_of_view (same : other.view = world.view) : other.seen = world.seen := by
  funext address
  rw [seen, seen, ← view_getD, ← view_getD, same]

theorem isPresent_of_view (same : other.view = world.view) : other.isPresent = world.isPresent :=
  funext (looksLike_of_view same).isPresent

theorem seen_updateHeader (world : World) (address : Address) (change : Account → Account) :
    (world.updateHeader address change).seen = Function.update world.seen address
      (change ((world.account? address).getD .empty)).view := by
  funext other
  rw [seen, account?_updateHeader, Function.update_apply]
  split <;> rfl

theorem isPresent_updateHeader (world : World) (address : Address) (change : Account → Account) :
    (world.updateHeader address change).isPresent =
      Function.update world.isPresent address true := by
  funext other
  rw [isPresent, account?_updateHeader, Function.update_apply]
  split <;> rfl

theorem seen_setBalance (world : World) (address : Address) (balance : Word) :
    (world.setBalance address balance).seen =
      Function.update world.seen address { world.seen address with balance } :=
  seen_updateHeader world address _

theorem seen_setAccount (world : World) (address : Address) (account : Account) :
    (world.setAccount address account).seen = Function.update world.seen address account.view := by
  funext other
  rw [seen, account?_setAccount, Function.update_apply]
  split <;> rfl

theorem isPresent_setAccount (world : World) (address : Address) (account : Account) :
    (world.setAccount address account).isPresent =
      Function.update world.isPresent address true := by
  funext other
  rw [isPresent, account?_setAccount, Function.update_apply]
  split <;> rfl

/-- Writing a slot changes that slot, and its account comes into being if need be. -/
theorem seen_setSlot (world : World) (address : Address) (key value : Word) :
    (world.setSlot address key value).seen = Function.update world.seen address
      { world.seen address with
        slots := Function.update (world.seen address).slots key value } ∧
    (world.setSlot address key value).isPresent =
      Function.update world.isPresent address true := by
  have remembered := view_rememberInitial world address key
  rw [← seen_of_view remembered, ← isPresent_of_view remembered]
  unfold setSlot
  simp only [seen_setAccount, isPresent_setAccount, view_setSlot, account?_record,
    seen_of_view (view_record _ _), isPresent_of_view (view_record _ _)]
  generalize world.rememberInitial address key = first
  split
  · exact ⟨rfl, rfl⟩
  · rename_i missing
    have created : (first.updateHeader address id).seen = first.seen := by
      rw [seen_updateHeader]
      exact Function.update_eq_self address first.seen
    have same : ((first.updateHeader address id).account? address).getD .empty =
        (first.account? address).getD .empty := by
      rw [account?_updateHeader, if_pos rfl]
      rfl
    refine ⟨?_, ?_⟩
    · rw [created, same]
      rfl
    · rw [isPresent_updateHeader, Function.update_idem]

/-- Destroying an account leaves nothing of it. -/
theorem account?_destroy (world : World) (address other : Address) :
    (world.destroy address).account? other =
      if other = address then none else world.account? other := by
  unfold destroy
  cases found : world.account? address with
  | none =>
      simp only
      split
      · rename_i same
        rw [same, found]
      · rfl
  | some previous =>
      simp only [account?, Table.get?_erase, accounts_record]

theorem account?_foldl_destroy (addresses : List Address) (world : World) (other : Address) :
    (addresses.foldl destroy world).account? other =
      if other ∈ addresses then none else world.account? other := by
  induction addresses generalizing world with
  | nil => rfl
  | cons address addresses inductionHypothesis =>
      rw [List.foldl_cons, inductionHypothesis, account?_destroy]
      by_cases later : other ∈ addresses <;> by_cases first : other = address <;>
        simp [later, first]

/-- A transfer changes balances only, and takes no account away. -/
theorem seen_of_moves {source target : Address} {value : Word} {final : World}
    (moves : Moves source target value world final) (address : Address) :
    final.seen address = { world.seen address with balance := final.balance address } ∧
      (world.isPresent address = true → final.isPresent address = true) := by
  have kept : ∀ (world : World) (holder : Address) (balance : Word),
      (world.setBalance holder balance).seen address = { world.seen address with
        balance := (world.setBalance holder balance).balance address } ∧
      (world.isPresent address = true →
        (world.setBalance holder balance).isPresent address = true) := by
    intro world holder balance
    rw [seen_setBalance, setBalance, isPresent_updateHeader, ← setBalance, balance_setBalance,
      Function.update_apply, Function.update_apply]
    split
    · rename_i same
      rw [same]
      exact ⟨rfl, fun _ => rfl⟩
    · exact ⟨rfl, id⟩
  cases moves with
  | nothing => exact ⟨rfl, id⟩
  | something =>
      unfold moved
      obtain ⟨paid, stays⟩ := kept world source ((world.balance source).sub value)
      rcases kept (world.setBalance source ((world.balance source).sub value)) target
        (((world.setBalance source ((world.balance source).sub value)).balance target).add value)
        with ⟨received, staysLater⟩
      refine ⟨?_, staysLater ∘ stays⟩
      rw [received, paid]

end World

end CancunMachine
