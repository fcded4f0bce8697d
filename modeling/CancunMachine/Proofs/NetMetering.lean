import Mathlib.Tactic
import CancunMachine.Proofs.Refund.Net

/-!
# Net metering of storage writes

What a sequence of writes to one slot costs, less what it gives back, depends on its length and on the
value it ends with, and not on the values in between: their worths cancel out.
-/

namespace CancunMachine

namespace GasSchedule

variable (schedule : GasSchedule) (initial : Word)

/-- What a sequence of writes to a slot costs, from its `current` value on. -/
def writesCost : Word → List Word → Nat
  | _, [] => 0
  | current, new :: later =>
      (schedule.sstoreCost initial current new).toNat + writesCost new later

/-- What a sequence of writes to a slot gives back, from its `current` value on. -/
def writesRefund : Word → List Word → Int
  | _, [] => 0
  | current, new :: later =>
      schedule.sstoreRefund initial current new + writesRefund new later

variable {schedule}

/-- A sequence of writes costs its warm accesses and the change of what stands in the slot. -/
theorem writes_net (meters : schedule.MetersNet) (initial current : Word) (writes : List Word) :
    (schedule.writesCost initial current writes : Int) -
        schedule.writesRefund initial current writes =
      writes.length * schedule.warmAccess.toNat +
        (schedule.worth initial (writes.getLastD current) - schedule.worth initial current) := by
  induction writes generalizing current with
  | nil =>
      rw [writesCost, writesRefund, List.getLastD_nil]
      simp
  | cons new later inductionHypothesis =>
      have write := sstore_net meters initial current new
      have rest := inductionHypothesis new
      rw [writesCost, writesRefund, List.getLastD_cons, List.length_cons]
      push_cast
      linarith

end GasSchedule

/-- Storage writes are metered by their net effect. Writes to a slot that holds its initial value cost,
less what they give back, a warm access each; the first change beyond that access, if they leave the
slot with another value; and less the refund for a cleared slot, if they leave it cleared. -/
theorem net_metering_is_path_independent (schedule : GasSchedule) (meters : schedule.MetersNet)
    (initial : Word) (writes : List Word) :
    (schedule.writesCost initial initial writes : Int) -
        schedule.writesRefund initial initial writes =
      writes.length * schedule.warmAccess.toNat +
        writes.getLast?.elim 0 fun last =>
          (if last ≠ initial then
            (if initial = .zero then (schedule.sstoreSet.toNat : Int)
              else schedule.sstoreReset.toNat - schedule.coldSload.toNat) -
                schedule.warmAccess.toNat
          else 0) -
            if initial ≠ .zero ∧ last = .zero then (schedule.sstoreClears.toNat : Int) else 0 := by
  rw [GasSchedule.writes_net meters, GasSchedule.worth_initial, sub_zero, List.getLastD_eq_getLast?]
  cases writes.getLast? with
  | none => rw [Option.getD_none, GasSchedule.worth_initial, Option.elim_none]
  | some last => rfl

/-- A slot is cleared, written anew, restored, changed and cleared again: what remains are five warm
accesses and the price and the refund of one clearing. -/
theorem relapsing_slot_is_metered_net :
    GasSchedule.cancun.MetersNet ∧
      (GasSchedule.cancun.writesCost (.ofNat 7) (.ofNat 7)
          [.zero, .ofNat 9, .ofNat 7, .ofNat 9, .zero] : Int) -
        GasSchedule.cancun.writesRefund (.ofNat 7) (.ofNat 7)
          [.zero, .ofNat 9, .ofNat 7, .ofNat 9, .zero] =
      5 * 100 + (2900 - 100) - 4800 :=
  ⟨GasSchedule.cancun_metersNet,
    net_metering_is_path_independent .cancun GasSchedule.cancun_metersNet (.ofNat 7)
      [.zero, .ofNat 9, .ofNat 7, .ofNat 9, .zero]⟩

end CancunMachine
