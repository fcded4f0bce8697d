import Mathlib.Tactic
import CancunMachine.Proofs.Evolution.Aside
import CancunMachine.Proofs.History.Survivors
import CancunMachine.Proofs.World.Seen

/-!
# The holdings of a machine

Storage, transient storage and logs as the machine shows them. Only three instructions write them,
and a view of nothing else leaves everything beside them aside.
-/

namespace CancunMachine

open Ending

/-- What the machine shows of storage, transient storage and logs. -/
def Machine.holdings (machine : Machine) : Holdings where
  slots := machine.world.slot
  transient := machine.substate.transient
  logs := machine.substate.logs

/-- The holdings that a world and a substate show. -/
def shownHoldings (world : World) (substate : Substate) : Holdings :=
  ⟨world.slot, substate.transient, substate.logs⟩

theorem World.slot_of_setSlot (world : World) (address : Address) (key value : Word) :
    (world.setSlot address key value).slot =
      Function.update world.slot address (Function.update (world.slot address) key value) := by
  funext other slot
  have seen := congrFun (world.seen_setSlot address key value).1 other
  rw [Function.update_apply] at seen ⊢
  split at seen
  · rename_i same
    subst same
    rw [if_pos rfl]
    exact congrFun (congrArg Account.View.slots seen) slot
  · rename_i different
    rw [if_neg different]
    exact congrFun (congrArg Account.View.slots seen) slot

/-- A write beside storage leaves every slot as it was. -/
theorem World.slot_eq_of_updateHeader (world : World) (address : Address)
    {change : Account → Account} (keeps : ∀ account, (change account).storage = account.storage) :
    (world.updateHeader address change).slot = world.slot := by
  funext other key
  exact World.slot_updateHeader world address other key keeps

theorem aside_shownHoldings : Aside shownHoldings where
  header := fun {world _ address _} keeps => by
    simp only [shownHoldings, world.slot_eq_of_updateHeader address keeps]
  destroyed := fun _ substate _ => by
    simp only [shownHoldings, substate.transient_addDestroyed, substate.logs_addDestroyed]
  created := fun _ substate _ => by
    simp only [shownHoldings, substate.transient_addCreated, substate.logs_addCreated]
  opened := fun _ substate => by
    simp only [shownHoldings, substate.transient_pushBackup, substate.logs_pushBackup]
  kept := fun _ substate => by
    simp only [shownHoldings, substate.transient_commitBackup, substate.logs_commitBackup]
  seen := fun {world other _} same => by
    have slots : other.slot = world.slot := by
      funext address key
      exact World.slot_of_view same address key
    simp only [shownHoldings, slots]

/-- A computation leaves the holdings as they were if it leaves what is shown of them. -/
theorem Leaves.holdings {Alpha : Type} {action : Run Alpha} {machine final : Machine} {value : Alpha}
    (leaves : Leaves shownHoldings action) (done : action machine = .ok value final) :
    final.holdings = machine.holdings := leaves machine value final done

end CancunMachine
