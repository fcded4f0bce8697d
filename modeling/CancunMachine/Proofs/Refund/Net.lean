import Mathlib.Tactic
import CancunMachine.Proofs.Gas
import CancunMachine.Proofs.Word.Arithmetic

/-!
# Storage writes, less what they give back

The value that stands in a slot has a worth: what was paid beyond warm accesses for having it there,
less the refund for a slot that was cleared. A write costs a warm access and the change of this worth,
whatever was written before.
-/

namespace CancunMachine

theorem signedOrZero_of_lt {value : UInt64} (small : value.toNat < 2 ^ 63) :
    signedOrZero value = value.toNat :=
  if_pos small

theorem clampInt64_of_lt {value : Int} (low : -2 ^ 63 ≤ value) (high : value < 2 ^ 63) :
    clampInt64 value = value := by
  unfold clampInt64
  omega

namespace GasSchedule

/-- The first change of a slot costs no less than the accesses it contains, and refunds are counted in
full. -/
structure MetersNet (schedule : GasSchedule) : Prop where
  set_covers : schedule.warmAccess.toNat ≤ schedule.sstoreSet.toNat
  reset_covers :
    schedule.coldSload.toNat + schedule.warmAccess.toNat ≤ schedule.sstoreReset.toNat
  set_lt : schedule.sstoreSet.toNat < 2 ^ 63
  reset_lt : schedule.sstoreReset.toNat < 2 ^ 63
  clears_lt : schedule.sstoreClears.toNat < 2 ^ 63

theorem cancun_metersNet : cancun.MetersNet where
  set_covers := by decide
  reset_covers := by decide
  set_lt := by decide
  reset_lt := by decide
  clears_lt := by decide

variable (schedule : GasSchedule) (initial : Word)

/-- The price of the first change of a slot. -/
def firstChange : Int :=
  if initial = .zero then schedule.sstoreSet.toNat
  else schedule.sstoreReset.toNat - schedule.coldSload.toNat

/-- What is given back for as long as a value stands in a slot. -/
def clearing (standing : Word) : Int :=
  if initial ≠ .zero ∧ standing = .zero then schedule.sstoreClears.toNat else 0

/-- What was paid beyond warm accesses for the value that stands in a slot. -/
def worth (standing : Word) : Int :=
  (if standing ≠ initial then schedule.firstChange initial - schedule.warmAccess.toNat else 0) -
    schedule.clearing initial standing

theorem clearing_initial : schedule.clearing initial initial = 0 :=
  if_neg fun cleared => cleared.1 cleared.2

theorem worth_initial : schedule.worth initial initial = 0 := by
  unfold worth
  rw [clearing_initial, if_neg (not_not_intro rfl), sub_zero]

variable {schedule} {current new : Word}

/-- A write that changes nothing costs a warm access, and so does any change but the first. -/
theorem toNat_sstoreCost (meters : schedule.MetersNet) (initial current new : Word) :
    ((schedule.sstoreCost initial current new).toNat : Int) =
      if new = current ∨ current ≠ initial then (schedule.warmAccess.toNat : Int)
      else schedule.firstChange initial := by
  have covers := meters.reset_covers
  unfold sstoreCost firstChange
  simp only [Word.isZero_eq_decide, decide_eq_true_eq]
  split
  · rfl
  · split
    · rfl
    · rw [toNat_subSaturating]
      omega

/-- A write that restores the initial value gives back what the first change cost beyond a warm
access. -/
theorem toNat_sstoreRestored (meters : schedule.MetersNet) (initial : Word) :
    ((schedule.sstoreRestored initial).toNat : Int) =
      schedule.firstChange initial - schedule.warmAccess.toNat := by
  have setCovers := meters.set_covers
  have resetCovers := meters.reset_covers
  unfold sstoreRestored firstChange
  simp only [Word.isZero_eq_decide, decide_eq_true_eq]
  split
  · rw [toNat_subSaturating]
    omega
  · rw [toNat_subSaturating, toNat_subSaturating]
    omega

theorem toNat_sstoreRestored_lt (meters : schedule.MetersNet) (initial : Word) :
    (schedule.sstoreRestored initial).toNat < 2 ^ 63 := by
  have setSmall := meters.set_lt
  have resetSmall := meters.reset_lt
  have restored := toNat_sstoreRestored meters initial
  unfold firstChange at restored
  split at restored <;> omega

/-- Of two different values at most one is zero, so that a slot is either cleared or written anew. -/
theorem clearing_sub_clearing (initial : Word) (changes : current ≠ new) :
    schedule.clearing initial new - schedule.clearing initial current =
      if initial.isZero then 0
      else if current.isZero then -(schedule.sstoreClears.toNat : Int)
      else if new.isZero then schedule.sstoreClears.toNat else 0 := by
  unfold clearing
  simp only [Word.isZero_eq_decide, decide_eq_true_eq, ne_eq]
  by_cases none : initial = .zero
  · simp only [none, not_true_eq_false, false_and, if_true, if_false, sub_zero]
  by_cases cleared : current = .zero
  · have stays : new ≠ .zero := cleared ▸ changes.symm
    simp only [none, cleared, stays, not_false_eq_true, and_true, and_false, if_true, if_false,
      zero_sub]
  · simp only [none, cleared, not_false_eq_true, true_and, and_false, if_false, sub_zero]

theorem clearing_mem (schedule : GasSchedule) (initial standing : Word) :
    0 ≤ schedule.clearing initial standing ∧
      schedule.clearing initial standing ≤ schedule.sstoreClears.toNat := by
  unfold clearing
  split <;> omega

/-- A change gives back what clearing the slot is worth, takes back what an earlier clearing was worth,
and gives back the first change if it restores the initial value. -/
theorem sstoreRefund_eq (meters : schedule.MetersNet) (initial : Word) (changes : current ≠ new) :
    schedule.sstoreRefund initial current new =
      schedule.clearing initial new - schedule.clearing initial current +
        if new = initial then schedule.firstChange initial - schedule.warmAccess.toNat else 0 := by
  have clears := signedOrZero_of_lt meters.clears_lt
  have restored := signedOrZero_of_lt (toNat_sstoreRestored_lt meters initial)
  unfold sstoreRefund
  simp only [clears, restored, if_neg changes, ← clearing_sub_clearing initial changes,
    toNat_sstoreRestored meters initial]
  by_cases first : current = initial
  · have stays : new ≠ initial := first ▸ changes.symm
    rw [if_pos first, if_neg stays, add_zero, first, clearing_initial, sub_zero]
    unfold clearing
    simp [Word.isZero_eq_decide]
  rw [if_neg first]
  by_cases restores : new = initial
  · have clearsSmall := meters.clears_lt
    have restoredSmall := toNat_sstoreRestored_lt meters initial
    have amount := toNat_sstoreRestored meters initial
    have bounds := schedule.clearing_mem initial current
    rw [if_pos restores, if_pos restores, restores, clearing_initial]
    exact clampInt64_of_lt (by omega) (by omega)
  · rw [if_neg restores, if_neg restores, add_zero]

/-- One write costs a warm access and the change of what stands in the slot. -/
theorem sstore_net (meters : schedule.MetersNet) (initial current new : Word) :
    ((schedule.sstoreCost initial current new).toNat : Int) -
        schedule.sstoreRefund initial current new =
      schedule.warmAccess.toNat + (schedule.worth initial new - schedule.worth initial current) := by
  rw [toNat_sstoreCost meters]
  by_cases same : new = current
  · have nothing : schedule.sstoreRefund initial current current = 0 := if_pos rfl
    rw [if_pos (.inl same), same, nothing]
    omega
  rw [sstoreRefund_eq meters initial (Ne.symm same)]
  unfold worth
  by_cases first : current = initial
  · have stays : new ≠ initial := first ▸ same
    rw [if_neg (not_or_intro same (not_not_intro first)), if_neg stays, if_pos stays,
      if_neg (not_not_intro first)]
    omega
  · rw [if_pos (.inr first), if_pos first]
    by_cases restores : new = initial
    · rw [if_pos restores, if_neg (not_not_intro restores)]
      omega
    · rw [if_neg restores, if_pos restores]
      omega

end GasSchedule

end CancunMachine
