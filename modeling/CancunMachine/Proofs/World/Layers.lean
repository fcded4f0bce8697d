import Mathlib.Tactic
import CancunMachine.Proofs.World.Access
import CancunMachine.Proofs.World.Journal

/-!
# Checkpoints that were left open

A course of changes may leave checkpoints open. `World.LeavesOpen` counts them, whatever was opened
and closed in between; closing one of them makes one less, and reverting all that were opened after
a checkpoint restores what was there before it.
-/

namespace CancunMachine

open Ending

namespace World

/-- `next` comes after `world` with `count` checkpoints open that were not open before. -/
inductive LeavesOpen : World → Nat → World → Prop
  | none {world next : World} : world.Follows next → LeavesOpen world 0 next
  | one {world middle next : World} {count : Nat} :
      world.Follows middle → LeavesOpen middle.checkpoint count next →
        LeavesOpen world (count + 1) next

/-- Reverts the innermost checkpoints, as many as are asked for. -/
def revertTimes : Nat → World → Except StoreError World
  | 0, world => .ok world
  | count + 1, world => do revertTimes count (← world.revert)

namespace LeavesOpen

variable {world middle next closed : World} {count more : Nat}

theorem refl (world : World) : world.LeavesOpen 0 world := .none (.refl world)

theorem after (earlier : world.Follows middle) (later : middle.LeavesOpen count next) :
    world.LeavesOpen count next := by
  cases later with
  | none course => exact .none (earlier.trans course)
  | one course rest => exact .one (earlier.trans course) rest

theorem trans (earlier : world.LeavesOpen count middle) (later : middle.LeavesOpen more next) :
    world.LeavesOpen (more + count) next := by
  induction earlier with
  | none course => exact after course later
  | one course _ inductionHypothesis => exact .one course (inductionHypothesis later)

theorem checkpointDepth (leaves : world.LeavesOpen count next) :
    next.checkpointDepth = world.checkpointDepth + count := by
  induction leaves with
  | none course => exact course.checkpointDepth
  | @one world middle next count course _ inductionHypothesis =>
      have opened : middle.checkpoint.checkpointDepth = middle.checkpointDepth + 1 := rfl
      rw [inductionHypothesis, opened, course.checkpointDepth]
      omega

/-- Whatever closes a checkpoint so that the course before it goes on makes one less open. -/
theorem close (closes : ∀ {world ended : World}, world.checkpoint.Follows ended →
      ended = next → world.Follows closed)
    (leaves : world.LeavesOpen (count + 1) next) : world.LeavesOpen count closed := by
  induction count generalizing world with
  | zero =>
      cases leaves with
      | one course rest =>
          cases rest with
          | none inside => exact .none (course.trans (closes inside rfl))
  | succ count inductionHypothesis =>
      cases leaves with
      | one course rest => exact .one course (inductionHypothesis rest)

theorem commit (leaves : world.LeavesOpen (count + 1) next) (commits : next.commit = .ok closed) :
    world.LeavesOpen count closed := by
  refine leaves.close ?_
  rintro world ended inside rfl
  exact inside.commit commits

theorem revert (leaves : world.LeavesOpen (count + 1) next) (reverts : next.revert = .ok closed) :
    world.LeavesOpen count closed := by
  refine leaves.close ?_
  rintro world ended inside rfl
  exact (inside.revert reverts).follows

theorem layers_ne_nil (leaves : world.LeavesOpen (count + 1) next) : next.layers ≠ [] := by
  intro closed
  have depth := leaves.checkpointDepth
  rw [← length_layers, closed, List.length_nil] at depth
  omega

/-- Reverting a checkpoint and all that were left open since restores what was there before. -/
theorem restores (leaves : world.checkpoint.LeavesOpen count next) :
    ∃ restored, revertTimes (count + 1) next = .ok restored ∧ world.Restores restored := by
  induction count generalizing next with
  | zero =>
      cases leaves with
      | none inside =>
          have leaves : world.LeavesOpen 1 next := .one (.refl world) (.none inside)
          obtain ⟨restored, reverts⟩ := revert_of_open leaves.layers_ne_nil
          refine ⟨restored, ?_, inside.revert reverts⟩
          rw [revertTimes, reverts]
          rfl
  | succ count inductionHypothesis =>
      obtain ⟨closed, reverts⟩ := revert_of_open leaves.layers_ne_nil
      obtain ⟨restored, again, restores⟩ := inductionHypothesis (leaves.revert reverts)
      refine ⟨restored, ?_, restores⟩
      rw [revertTimes, reverts]
      exact again

end LeavesOpen

end World

namespace Access

variable {Alpha Beta : Type} {refusals : Refusals}

/-- An access whose changes can be taken back, however it ends. -/
def Journaled (access : Access Alpha) : Prop :=
  ∀ world : World, world.Follows (reached (access world))

theorem Journaled.bind {first : Access Alpha} {next : Alpha → Access Beta}
    (early : Journaled first) (late : ∀ value, Journaled (next value)) :
    Journaled (first >>= next) := by
  intro world
  have started := early world
  cases ended : first world with
  | error error middle =>
      rw [bind_of_error ended]
      rw [ended] at started
      exact started
  | ok value middle =>
      rw [bind_of_ok ended]
      rw [ended] at started
      exact started.trans (late value middle)

theorem Journaled.branch {condition : Prop} [Decidable condition] {left right : Access Alpha}
    (yes : Journaled left) (no : Journaled right) :
    Journaled (if condition then left else right) := by
  split
  · exact yes
  · exact no

theorem journaled_pure (value : Alpha) : Journaled (pure value : Access Alpha) :=
  fun world => .refl world

theorem journaled_throw (error : StoreError) : Journaled (throw error : Access Alpha) :=
  fun world => .refl world

theorem Reads.journaled {access : Access Alpha} {view : World → Alpha}
    (reads : Reads refusals access view) : Journaled access := by
  intro world
  cases ended : access world with
  | ok value final =>
      rw [reached, (reads.shows ended).2]
      exact .refl world
  | error error final =>
      rw [reached, reads.refuses ended]
      exact .refl world

theorem Writes.journaled {access : Access Unit} {change : World → World}
    (writes : Writes refusals access change)
    (follows : ∀ world : World, world.Follows (change world)) :
    Journaled access := by
  intro world
  cases ended : access world with
  | ok value final =>
      rw [reached, writes.changes ended]
      exact follows world
  | error error final =>
      rw [reached, writes.refuses ended]
      exact .refl world

theorem journaled_writeSlot (address : Address) (key value : Word) :
    Journaled (writeSlot refusals address key value) :=
  (writes_slot address key value).journaled fun world => world.follows_setSlot address key value

theorem journaled_writeBalance (address : Address) (balance : Word) :
    Journaled (writeBalance refusals address balance) :=
  (writes_balance address balance).journaled fun world => world.follows_setBalance address balance

theorem journaled_writeNonce (address : Address) (nonce : UInt64) :
    Journaled (writeNonce refusals address nonce) :=
  (writes_nonce address nonce).journaled fun world => world.follows_setNonce address nonce

theorem journaled_writeCode (address : Address) (code : ByteArray) :
    Journaled (writeCode refusals address code) :=
  (writes_code address code).journaled fun world => world.follows_setCode address code

theorem journaled_incrementNonce (address : Address) :
    Journaled (incrementNonce refusals address) := by
  have raises : ∀ nonce : UInt64, Journaled (do
      writeNonce refusals address (nonce + 1)
      return nonce) :=
    fun nonce => (journaled_writeNonce address _).bind fun _ => journaled_pure nonce
  exact (reads_nonce address).journaled.bind fun nonce =>
    .branch ((journaled_throw _).bind fun _ => raises nonce) (raises nonce)

/-- A transfer that fails half-way has left its records, too. -/
theorem journaled_transfer (source target : Address) (value : Word) :
    Journaled (transfer refusals source target value) := by
  have credits : ∀ held : Word, Journaled (do
      if (held.add value).lt held then throw (.custom "balance overflow")
      writeBalance refusals target (held.add value)) :=
    fun held => .branch ((journaled_throw _).bind fun _ => journaled_writeBalance target _)
      (journaled_writeBalance target _)
  have pays : ∀ available : Word, Journaled (do
      writeBalance refusals source (available.sub value)
      let held ← readBalance refusals target
      if (held.add value).lt held then throw (.custom "balance overflow")
      writeBalance refusals target (held.add value)) :=
    fun available => (journaled_writeBalance source _).bind fun _ =>
      (reads_balance target).journaled.bind credits
  refine .branch (journaled_pure _) ?_
  exact (reads_balance source).journaled.bind fun available =>
    .branch ((journaled_throw _).bind fun _ => pays available) (pays available)

end Access

end CancunMachine
