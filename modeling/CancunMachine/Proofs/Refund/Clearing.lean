import Mathlib.Tactic
import CancunMachine.Proofs.History.Deed
import CancunMachine.Proofs.Refund.Net

/-!
# The refund for clearing slots

A slot that had a value at the start of the transaction and has none now is worth its refund as long
as it stays clear. A write changes the refund counter by the difference in worth of its slot, and
perhaps by a bonus for giving the slot its first value back, so the counter never falls below the
worth of all cleared slots. Only writes to slots touch either of them.
-/

namespace CancunMachine

open Ending

/-- The slots that had a value at the start of the transaction and have none now. -/
def World.clearedSlots (world : World) : Set (Address × Word) :=
  {slot | world.initialSlot slot.1 slot.2 ≠ .zero ∧ world.slot slot.1 slot.2 = .zero}

/-- The refund counter covers the worth of all cleared slots. -/
structure Machine.RefundsClearing (machine : Machine) : Prop where
  finite : machine.world.clearedSlots.Finite
  covered : 4800 * (machine.world.clearedSlots.ncard : Int) ≤ machine.substate.refund

/-- The slots and the refund counter that a world and a substate show. -/
def shownTally (world : World) (substate : Substate) : (Address → Word → Word) × Int :=
  (world.slot, substate.refund)

theorem aside_shownTally : Aside shownTally where
  header := fun {world _ address _} keeps => by
    simp only [shownTally, world.slot_eq_of_updateHeader address keeps]
  destroyed := fun _ substate _ => by
    unfold shownTally Substate.addDestroyed Substate.markDestroyed
    split <;> rfl
  created := fun _ substate _ => by
    unfold shownTally Substate.addCreated Substate.markCreated
    split <;> rfl
  opened := fun _ _ => rfl
  kept := fun _ substate => by
    unfold shownTally Substate.commitBackup
    split <;> rfl
  seen := fun {world other _} same => by
    have slots : other.slot = world.slot := by
      funext address key
      exact World.slot_of_view same address key
    simp only [shownTally, slots]

/-- What a slot is worth to the refund counter. -/
def slotWorth (initial value : Word) : Int :=
  if initial ≠ .zero ∧ value = .zero then 4800 else 0

theorem GasSchedule.cancun_clearing (initial value : Word) :
    GasSchedule.cancun.clearing initial value = slotWorth initial value := rfl

/-- A write earns the worth that its slot gains at least, and never more than 20000. -/
theorem GasSchedule.sstoreRefund_bounds (initial current new : Word) :
    slotWorth initial new - slotWorth initial current ≤
        GasSchedule.cancun.sstoreRefund initial current new ∧
      GasSchedule.cancun.sstoreRefund initial current new ≤ 20000 := by
  by_cases changes : current = new
  · have nothing : cancun.sstoreRefund initial current current = 0 := if_pos rfl
    rw [← changes, nothing]
    omega
  have restored : (0 : Int) ≤ cancun.firstChange initial - 100 ∧
      cancun.firstChange initial - 100 ≤ 19900 := by
    unfold firstChange
    split <;> decide
  have newBounds := cancun.clearing_mem initial new
  have currentBounds := cancun.clearing_mem initial current
  have refund := sstoreRefund_eq cancun_metersNet initial changes
  have access : (cancun.warmAccess.toNat : Int) = 100 := rfl
  have clears : (cancun.sstoreClears.toNat : Int) = 4800 := rfl
  simp only [← cancun_clearing]
  by_cases restores : new = initial
  · rw [if_pos restores, restores, clearing_initial] at refund
    rw [restores, clearing_initial]
    omega
  · rw [if_neg restores] at refund
    omega

/-- How many items a finite set has beside one of them. -/
theorem Set.ncard_eq_ncard_diff_add {Item : Type} {items : Set Item} (finite : items.Finite)
    (item : Item) [Decidable (item ∈ items)] :
    items.ncard = (items \ {item}).ncard + if item ∈ items then 1 else 0 := by
  split
  · rename_i member
    exact (Set.ncard_sdiff_singleton_add_one member finite).symm
  · rename_i absent
    rw [Set.sdiff_singleton_eq_self absent, Nat.add_zero]

theorem slotWorth_eq_of_mem {slots : Set (Address × Word)} {slot : Address × Word}
    {initial value : Word} [Decidable (slot ∈ slots)]
    (member : slot ∈ slots ↔ initial ≠ .zero ∧ value = .zero) :
    slotWorth initial value = 4800 * ((if slot ∈ slots then 1 else 0 : Nat) : Int) := by
  unfold slotWorth
  simp only [member]
  split <;> rfl

/-- A write to one slot changes what the cleared slots are worth by the worth of this slot. -/
theorem World.clearedSlots_of_write {world final : World} {address : Address} {key value : Word}
    (slots : final.slot =
      Function.update world.slot address (Function.update (world.slot address) key value))
    (initials : final.initialSlot = world.initialSlot) (finite : world.clearedSlots.Finite) :
    final.clearedSlots.Finite ∧
      4800 * (final.clearedSlots.ncard : Int) = 4800 * (world.clearedSlots.ncard : Int) +
        slotWorth (world.initialSlot address key) value -
        slotWorth (world.initialSlot address key) (world.slot address key) := by
  classical
  have written : final.slot address key = value := by
    rw [slots, Function.update_self, Function.update_self]
  have elsewhere : final.clearedSlots \ {(address, key)} =
      world.clearedSlots \ {(address, key)} := by
    ext ⟨owner, slot⟩
    simp only [Set.mem_sdiff, Set.mem_singleton_iff, clearedSlots, Set.mem_ofPred_eq, initials]
    refine and_congr_left fun different => ?_
    have same : final.slot owner slot = world.slot owner slot := by
      rw [slots, Holdings.update_update_apply, if_neg, Option.getD_none]
      rintro ⟨rfl, rfl⟩
      exact different rfl
    rw [same]
  have finiteLater : final.clearedSlots.Finite := by
    refine (finite.insert (address, key)).subset ?_
    rw [← Set.insert_sdiff_singleton, ← elsewhere, Set.insert_sdiff_singleton]
    exact Set.subset_insert _ _
  refine ⟨finiteLater, ?_⟩
  have before := Set.ncard_eq_ncard_diff_add finite (address, key)
  have after := Set.ncard_eq_ncard_diff_add finiteLater (address, key)
  rw [elsewhere] at after
  have worth : slotWorth (world.initialSlot address key) (world.slot address key) =
      4800 * ((if (address, key) ∈ world.clearedSlots then 1 else 0 : Nat) : Int) :=
    slotWorth_eq_of_mem Iff.rfl
  have worthLater : slotWorth (world.initialSlot address key) value =
      4800 * ((if (address, key) ∈ final.clearedSlots then 1 else 0 : Nat) : Int) := by
    rw [← initials, ← written]
    exact slotWorth_eq_of_mem Iff.rfl
  rw [worth, worthLater]
  omega

/-- Initial values stay what they are. -/
theorem World.Follows.initialSlots {world next : World} (follows : world.Follows next) :
    next.initialSlot = world.initialSlot := by
  funext address key
  exact follows.initialSlot address key

/-- The refund counter covers the cleared slots, and a number of writes cannot fill it. -/
structure Machine.Withstands (writes : Nat) (machine : Machine) : Prop where
  refunds : machine.RefundsClearing
  room : machine.substate.refund + 20000 * writes < 2 ^ 63

namespace Machine

variable {machine final : Machine} {writes : Nat}

theorem RefundsClearing.nonnegative (refunds : machine.RefundsClearing) :
    0 ≤ machine.substate.refund := by
  have covered := refunds.covered
  omega

namespace Withstands

theorem mono {fewer : Nat} (withstands : machine.Withstands writes) (within : fewer ≤ writes) :
    machine.Withstands fewer := by
  obtain ⟨refunds, room⟩ := withstands
  exact ⟨refunds, by omega⟩

theorem of_shown (withstands : machine.Withstands writes)
    (shown : final.shown shownTally = machine.shown shownTally)
    (initials : final.world.initialSlot = machine.world.initialSlot) :
    final.Withstands writes := by
  obtain ⟨⟨finite, covered⟩, room⟩ := withstands
  obtain ⟨slots, refund⟩ := Prod.mk.inj shown
  have same : final.world.clearedSlots = machine.world.clearedSlots := by
    unfold World.clearedSlots
    simp only [initials, slots]
  rw [← same] at finite covered
  rw [← refund] at covered room
  exact ⟨⟨finite, covered⟩, room⟩

/-- A write at the prices of the Cancun fork is withstood. -/
theorem write {address : Address} {key value : Word}
    (withstands : machine.Withstands (writes + 1))
    (slots : final.world.slot = Function.update machine.world.slot address
      (Function.update (machine.world.slot address) key value))
    (initials : final.world.initialSlot = machine.world.initialSlot)
    (refund : final.substate.refund = clampInt64 (machine.substate.refund +
      GasSchedule.cancun.sstoreRefund (machine.world.initialSlot address key)
        (machine.world.slot address key) value)) :
    final.Withstands writes := by
  obtain ⟨refunds, room⟩ := withstands
  obtain ⟨finite, worth⟩ := World.clearedSlots_of_write slots initials refunds.finite
  obtain ⟨least, most⟩ := GasSchedule.sstoreRefund_bounds (machine.world.initialSlot address key)
    (machine.world.slot address key) value
  have covered := refunds.covered
  have exact : final.substate.refund = machine.substate.refund +
      GasSchedule.cancun.sstoreRefund (machine.world.initialSlot address key)
        (machine.world.slot address key) value := by
    rw [refund]
    exact clampInt64_of_lt (by omega) (by omega)
  exact ⟨⟨finite, by omega⟩, by omega⟩

end Withstands

end Machine

end CancunMachine
