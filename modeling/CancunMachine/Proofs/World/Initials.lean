import Mathlib.Tactic
import CancunMachine.Proofs.World.Snapshots

/-!
# Slots at the start of the transaction

A slot keeps its initial value from its first write on, and this memory is not journaled: a value
that was noted under a checkpoint stays when the checkpoint is reverted. What makes it right all the
same is that a slot without a noted value was never written, so that it holds its initial value in
the accounts as they are and in every map that can still be gone back to.
-/

namespace CancunMachine

open Ending

/-- Whether a change removes an account. -/
def Change.destroys : Change → Bool
  | destroy _ => true
  | _ => false

/-- The value of a slot in a picture of the accounts. -/
def World.View.slot (view : World.View) (address : Address) (key : Word) : Word :=
  ((view address).getD .fresh).slots key

namespace World

variable {world next : World}

theorem slot_view (world : World) (address : Address) (key : Word) :
    world.view.slot address key = world.slot address key := by
  rw [View.slot, ← Account.view_empty, view_getD]
  rfl

theorem slot_eq_initialSlot {address : Address} {key : Word}
    (unwritten : world.initials.get? (address, key) = none) :
    world.slot address key = world.initialSlot address key := by
  rw [initialSlot, unwritten]
  rfl

end World

namespace Snapshots

variable {world next : World} {snapshots : Snapshots} {first : Address → Word → Word}

/-- The invariant: initial values are those of `first`, and so are the values of all slots that were
never written, in the accounts and in the saved maps. -/
structure Recalls (first : Address → Word → Word) (world : World) (snapshots : Snapshots) :
    Prop where
  mirrors : Mirrors world snapshots
  initial : ∀ address key, world.initialSlot address key = first address key
  unwritten : ∀ address key, world.initials.get? (address, key) = none →
    ∀ view ∈ snapshots.saved, view.slot address key = first address key

/-- A write notes the value it replaces, unless one was noted before. -/
theorem Recalls.write {changed : Snapshots} (recalls : Recalls first world snapshots)
    (follows : world.Follows next) (mirrors : Mirrors next changed)
    (saved : changed.saved = snapshots.saved) : Recalls first next changed where
  mirrors := mirrors
  initial := fun address key =>
    (follows.initialSlot address key).trans (recalls.initial address key)
  unwritten := by
    intro address key none view kept
    rw [saved] at kept
    exact recalls.unwritten address key (follows.unwritten address key none).1 view kept

/-- The map that a checkpoint saves holds what the accounts hold. -/
theorem Recalls.checkpoint (recalls : Recalls first world snapshots) :
    Recalls first world.checkpoint snapshots.save where
  mirrors := recalls.mirrors.checkpoint
  initial := recalls.initial
  unwritten := by
    intro address key none view kept
    rcases List.mem_cons.mp kept with rfl | saved
    · have same : world.slot address key = world.initialSlot address key :=
        World.slot_eq_initialSlot none
      have shown := recalls.initial address key
      rw [← same, ← World.slot_view, recalls.mirrors.view] at shown
      exact shown
    · exact recalls.unwritten address key none view saved

/-- A commit forgets a map and changes neither the accounts nor what was noted. -/
theorem Recalls.commit (recalls : Recalls first world snapshots) :
    Recalls first (Change.commit.onWorld world).2 snapshots.drop.2 := by
  have mirrors := recalls.mirrors.commit.2
  have same : (Change.commit.onWorld world).2.initials = world.initials ∧
      (Change.commit.onWorld world).2.view = world.view := by
    unfold Change.onWorld Change.access Access.commit Access.close
    simp only [bind_of_ok (get_apply world)]
    rcases world.commit_eq with ⟨_, refuses⟩ | ⟨_, _, _, _, commits, _⟩
    · rw [refuses]
      exact ⟨rfl, rfl⟩
    · rw [commits]
      exact ⟨rfl, rfl⟩
  have fewer : snapshots.drop.2.saved ⊆ snapshots.saved := by
    unfold drop
    split
    · exact List.Subset.refl _
    · rename_i saved
      rw [saved]
      exact List.subset_cons_self _ _
  refine ⟨mirrors, fun address key => ?_, fun address key none view kept => ?_⟩
  · rw [← recalls.initial address key, World.initialSlot, World.initialSlot, same.1,
      World.slot_of_view same.2]
  · rw [same.1] at none
    exact recalls.unwritten address key none view (fewer kept)

/-- A revert goes back to a saved map. A slot whose value was noted since keeps its note, and any
other slot holds its initial value there. -/
theorem Recalls.revert (recalls : Recalls first world snapshots) :
    Recalls first (Change.revert.onWorld world).2 snapshots.restore.2 := by
  have mirrors := recalls.mirrors.revert.2
  have same : (Change.revert.onWorld world).2.initials = world.initials := by
    unfold Change.onWorld Change.access Access.revert Access.close
    simp only [bind_of_ok (get_apply world)]
    rcases world.revert_eq with ⟨_, refuses⟩ | ⟨layer, _, _, _, reverts, _⟩
    · rw [refuses]
      rfl
    · rw [reverts]
      exact World.initials_foldl_undo layer world
  have back : (snapshots.restore.2 = snapshots ∨
      snapshots.restore.2.current ∈ snapshots.saved) ∧
      snapshots.restore.2.saved ⊆ snapshots.saved := by
    unfold restore
    split
    · exact ⟨.inl rfl, List.Subset.refl _⟩
    · rename_i saved
      rw [saved]
      exact ⟨.inr List.mem_cons_self, List.subset_cons_self _ _⟩
  refine ⟨mirrors, fun address key => ?_, fun address key none view kept => ?_⟩
  · have before := recalls.initial address key
    cases noted : world.initials.get? (address, key) with
    | some value =>
        rw [World.initialSlot, noted] at before
        rw [World.initialSlot, same, noted]
        exact before
    | none =>
        rw [World.initialSlot, same, noted, ← World.slot_view, mirrors.view]
        rcases back.1 with stays | saved
        · rw [stays, ← recalls.mirrors.view, World.slot_view]
          exact (World.slot_eq_initialSlot noted).trans before
        · exact recalls.unwritten address key noted _ saved
  · rw [same] at none
    exact recalls.unwritten address key none view (back.2 kept)

/-- Every change but a destruction keeps the initial values right. -/
theorem Recalls.change (recalls : Recalls first world snapshots) {change : Change}
    (kept : change.destroys = false) :
    Recalls first (change.onWorld world).2 (change.onSnapshots snapshots).2 := by
  have mirrors := (recalls.mirrors.change change).2
  cases change with
  | setSlot address key value =>
      exact recalls.write (World.follows_setSlot world address key value) mirrors rfl
  | setBalance address balance =>
      exact recalls.write (World.follows_setBalance world address balance) mirrors rfl
  | setNonce address nonce =>
      exact recalls.write (World.follows_setNonce world address nonce) mirrors rfl
  | setCode address code =>
      exact recalls.write (World.follows_setCode world address code) mirrors rfl
  | destroy address => cases kept
  | checkpoint => exact recalls.checkpoint
  | commit => exact recalls.commit
  | revert => exact recalls.revert

theorem Recalls.perform (recalls : Recalls first world snapshots) {changes : List Change}
    (kept : ∀ change ∈ changes, change.destroys = false) :
    Recalls first (world.perform changes).2 (snapshots.perform changes).2 := by
  induction changes generalizing world snapshots with
  | nil => exact recalls
  | cons change changes inductionHypothesis =>
      obtain ⟨now, later⟩ := List.forall_mem_cons.mp kept
      exact inductionHypothesis (recalls.change now) later

/-- Layers without records unwind to the accounts as they are. -/
theorem unwinds_of_empty {layers : List (List Undo)} (view : World.View)
    (unrecorded : ∀ layer ∈ layers, layer = []) :
    Unwinds layers view (List.replicate layers.length view) := by
  induction layers with
  | nil => trivial
  | cons layer outer inductionHypothesis =>
      obtain ⟨rfl, others⟩ := List.forall_mem_cons.mp unrecorded
      exact ⟨rfl, inductionHypothesis others⟩

/-- Where nothing was noted or recorded yet, the initial values are the present ones. -/
theorem recalls_start (unwritten : ∀ address key, world.initials.get? (address, key) = none)
    (unrecorded : ∀ layer ∈ world.layers, layer = []) :
    Recalls world.slot world
      ⟨world.view, List.replicate world.layers.length world.view⟩ where
  mirrors := ⟨rfl, unwinds_of_empty world.view unrecorded⟩
  initial := fun address key => (World.slot_eq_initialSlot (unwritten address key)).symm
  unwritten := by
    intro address key _ view saved
    rw [List.eq_of_mem_replicate saved, World.slot_view]

end Snapshots

/-- The initial value of a slot is what the slot held when the transaction began, whatever was
written, committed or reverted since and whichever accounts came and went with it. Accounts are
destroyed last; once the transaction has ended, the initial value is what the slot holds. -/
theorem initial_slots_stand_until_the_end (world : World)
    (unwritten : ∀ address key, world.initials.get? (address, key) = none)
    (unrecorded : ∀ layer ∈ world.layers, layer = []) (changes : List Change)
    (kept : ∀ change ∈ changes, change.destroys = false) (destroyed : List Address) :
    let changed := (world.perform changes).2
    let ended := (destroyed.foldl World.destroy changed).finalize
    (∀ address key, changed.initialSlot address key = world.slot address key) ∧
      ∀ address key, ended.initialSlot address key = ended.slot address key := by
  refine ⟨?_, fun address key => ?_⟩
  · exact ((Snapshots.recalls_start unwritten unrecorded).perform kept).initial
  · exact (World.slot_eq_initialSlot rfl).symm

/-- A slot that was first written under a reverted checkpoint, beside an account that was founded
there, and then written anew: its initial value is the one from before both writes, until its own
account is destroyed at the end. -/
theorem first_write_was_reverted :
    let address : Address := .ofNat 1
    let newcomer : Address := .ofNat 2
    let world :=
      World.empty.setAccount address {
        balance := .one
        nonce := 1
        code := ByteArray.empty
        storage := Table.empty.insert .one .max }
    let changes : List Change := [.checkpoint, .setSlot address .one .zero,
      .setSlot newcomer .one .one, .revert, .setSlot address .one .one]
    let changed := (world.perform changes).2
    (∀ address key, world.initials.get? (address, key) = none) ∧
      (∀ layer ∈ world.layers, layer = []) ∧ (∀ change ∈ changes, change.destroys = false) ∧
      changed.slot address .one = .one ∧ changed.initialSlot address .one = .max ∧
      (changed.account? newcomer).isSome = false ∧ changed.initialSlot newcomer .one = .zero ∧
      (changed.destroy address).finalize.initialSlot address .one = .zero := by
  intro address newcomer world changes changed
  have unwritten : ∀ address key, world.initials.get? (address, key) = none := fun _ _ => rfl
  have unrecorded : ∀ layer ∈ world.layers, layer = [] := nofun
  have kept : ∀ change ∈ changes, change.destroys = false := by simp [changes, Change.destroys]
  obtain ⟨initial, final⟩ := initial_slots_stand_until_the_end world unwritten unrecorded
    changes kept [address]
  refine ⟨unwritten, unrecorded, kept, by decide +kernel, ?_, by decide +kernel, ?_, ?_⟩
  · rw [initial]
    decide +kernel
  · rw [initial]
    decide +kernel
  · refine (final address .one).trans ?_
    decide +kernel

end CancunMachine
