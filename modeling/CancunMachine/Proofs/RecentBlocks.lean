import Mathlib.Tactic
import CancunMachine.Proofs.Machine.Operands
import CancunMachine.Proofs.Word.Product

/-!
# The hashes of recent blocks

Only the last 256 blocks before the current one have a hash to be seen, and hashes are recorded
under numbers of 64 bits. The window is checked on whole words; the number is cut to 64 bits after
that, so from block `2 ^ 64` on a block answers with what is recorded for another one.
-/

namespace CancunMachine

open Ending

/-- Whether a block is among the last 256 before the current one. -/
def IsRecent (current number : Nat) : Prop := number < current ∧ current ≤ number + 256

instance (current number : Nat) : Decidable (IsRecent current number) :=
  inferInstanceAs (Decidable (_ ∧ _))

namespace World

/-- The hash that is recorded under the lowest 64 bits of a number; zero if there is none. -/
def recordedHash (world : World) (number : Nat) : Word :=
  ((world.blockHashes.get? (UInt64.ofNat number)).map Hash.toWord).getD .zero

/-- The hash of a block as it should be seen: the one recorded for this very number, if the block is
recent. -/
def visibleHash (world : World) (current number : Nat) : Word :=
  if IsRecent current number ∧ number < 2 ^ 64 then world.recordedHash number else .zero

end World

namespace Instruction

variable {host : Host} {machine final : Machine} {signal : Signal}

theorem toNat_oldestVisibleBlock (current : Word) :
    (oldestVisibleBlock current).toNat = current.toNat - 256 := by
  have history : blockHistory.toNat = 256 := by decide
  unfold oldestVisibleBlock
  split
  · rename_i young
    rw [Word.lt_iff, history] at young
    exact (Nat.sub_eq_zero_of_le young.le).symm
  · rename_i old
    rw [Word.lt_iff, history, not_lt] at old
    rw [Word.toNat_sub_of_le (history ▸ old), history]

theorem outside_iff (current number : Word) :
    (!number.lt current || number.lt (oldestVisibleBlock current)) = true ↔
      ¬IsRecent current.toNat number.toNat := by
  rw [Bool.or_eq_true, Bool.not_eq_true', Word.lt_eq_false_iff, Word.lt_iff,
    toNat_oldestVisibleBlock, IsRecent]
  omega

/-- The answer for a block is what is recorded under its lowest 64 bits, if the block is recent. -/
theorem blockhash_eq_ok (done : blockhash host machine = .ok signal final) :
    final.frame.stack.toList =
      (if IsRecent host.environment.blockNumber.toNat (machine.frame.stack.operand 0) then
        machine.world.recordedHash (machine.frame.stack.operand 0)
      else .zero) :: machine.frame.stack.toList.drop 1 := by
  obtain ⟨_, _, charged, rest⟩ := bind_eq_ok.mp done
  obtain ⟨_, rfl⟩ := Run.charge_eq_ok.mp charged
  obtain ⟨number, _, pops, answers⟩ := bind_eq_ok.mp rest
  obtain ⟨stack, operand, below, rfl⟩ := Run.popOne_eq_ok pops
  change machine.frame.stack.operand 0 = number.toNat at operand
  rw [operand]
  split at answers
  · rename_i outside
    rw [if_neg ((outside_iff _ _).mp outside)]
    exact (Run.push_proceed_eq_ok answers).trans (congrArg _ below)
  · rename_i inside
    rw [if_pos (not_not.mp (mt (outside_iff _ _).mpr inside))]
    obtain ⟨hash?, _, looked, answers⟩ := bind_eq_ok.mp answers
    obtain ⟨world, read, rfl⟩ := Run.onWorld_eq_ok.mp looked
    obtain ⟨found, rfl⟩ := (Access.reads_blockHash _).shows read
    have recorded :
        machine.world.recordedHash number.toNat = (hash?.map Hash.toWord).getD .zero := by
      have key : UInt64.ofNat number.toNat = number.limb0 := congrArg Word.limb0 number.ofNat_toNat
      rw [World.recordedHash, key, found]
    rw [recorded]
    cases hash? <;> exact (Run.push_proceed_eq_ok answers).trans (congrArg _ below)

end Instruction

/-- A recent block is answered for with what is recorded under the lowest 64 bits of its number, any
other one with zero. That is the hash that should be seen, unless the number has more than 64 bits
and a hash is recorded for the block whose number these lowest bits are. -/
theorem recent_blocks_are_answered (host : Host) (enter : Transfer → Run Outcome)
    {machine final : Machine} {signal : Signal}
    (done : Instruction.execute host enter .blockhash machine = .ok signal final) :
    let current := host.environment.blockNumber.toNat
    let number := machine.frame.stack.operand 0
    ∃ answer, final.frame.stack.toList = answer :: machine.frame.stack.toList.drop 1 ∧
      answer = (if IsRecent current number then machine.world.recordedHash number else .zero) ∧
      (answer ≠ machine.world.visibleHash current number → IsRecent current number ∧
        2 ^ 64 ≤ number ∧ machine.world.blockHashes.get? (UInt64.ofNat number) ≠ none) := by
  intro current number
  refine ⟨_, Instruction.blockhash_eq_ok done, rfl, fun wrong => ?_⟩
  change (if IsRecent current number then machine.world.recordedHash number else .zero) ≠
    machine.world.visibleHash current number at wrong
  have recent : IsRecent current number := by
    by_contra past
    exact wrong (by rw [World.visibleHash, if_neg past, if_neg fun both => past both.1])
  have large : ¬number < 2 ^ 64 := by
    intro fits
    exact wrong (by rw [World.visibleHash, if_pos recent, if_pos ⟨recent, fits⟩])
  refine ⟨recent, Nat.not_lt.mp large, fun missing => wrong ?_⟩
  rw [World.visibleHash, if_pos recent, if_neg fun both => large both.2, World.recordedHash,
    missing]
  rfl

def fifthHash : Hash := ⟨⟨Array.replicate 32 0x11⟩, rfl⟩

/-- A frame that asks for the hash of a block where only the one of block 5 is known. -/
def asking (number : Word) : Machine :=
  { Machine.bare ⟨#[0x40]⟩ ⟨#[number], [], Nat.le_of_ble_eq_true rfl⟩ .empty with
    world := { World.empty with blockHashes := Table.empty.insert 5 fifthHash } }

def hostAtBlock (number : Word) : Host :=
  .standard { Environment.blank with blockNumber := number } default .standard

theorem fifth_block_is_answered :
    ∃ final, Instruction.execute (hostAtBlock (.ofNat 261)) (fun _ => Run.halt .outOfGas) .blockhash
        (asking (.ofNat 5)) = .ok .proceed final ∧
      final.frame.stack.toList = [fifthHash.toWord] := by
  obtain ⟨final, done⟩ : ∃ final, Instruction.execute (hostAtBlock (.ofNat 261))
      (fun _ => Run.halt .outOfGas) .blockhash (asking (.ofNat 5)) = .ok .proceed final := ⟨_, rfl⟩
  obtain ⟨answer, pushed, found, -⟩ := recent_blocks_are_answered _ _ done
  refine ⟨final, done, ?_⟩
  rw [pushed, found]
  decide +kernel

/-- Not every block is answered for with its own hash. At block `2 ^ 64 + 10` nothing is recorded
for block `2 ^ 64 + 5`, and the hash of block 5 is pushed for it. -/
theorem distant_block_answers_for_another :
    ¬∀ (host : Host) (enter : Transfer → Run Outcome) (machine final : Machine) (signal : Signal),
      Instruction.execute host enter .blockhash machine = .ok signal final →
      final.frame.stack.toList =
        machine.world.visibleHash host.environment.blockNumber.toNat
          (machine.frame.stack.operand 0) :: machine.frame.stack.toList.drop 1 := by
  intro honest
  have answered := honest (hostAtBlock ⟨10, 1, 0, 0⟩) (fun _ => Run.halt .outOfGas)
    (asking ⟨5, 1, 0, 0⟩) _ .proceed rfl
  exact absurd answered (by decide +kernel)

end CancunMachine
