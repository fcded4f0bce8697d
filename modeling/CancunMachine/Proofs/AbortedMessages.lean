import Mathlib.Tactic
import CancunMachine.Proofs.Layers.Frame
import CancunMachine.Proofs.Rollback

/-!
# What an aborted message leaves behind

A failure that ends the message passes through the frames without closing them, so that a message
that is aborted while its frames run leaves their checkpoints open and their changes in the world.
Nothing is lost, though: reverting the checkpoints that are still open takes back everything but the
nonce of the sender, which was raised before the first of them was opened.
-/

namespace CancunMachine

open Ending

namespace Access

variable {refusals : Refusals}

/-- A nonce that cannot be raised stays as it is. -/
theorem incrementNonce_eq_error {address : Address} {world final : World} {error : StoreError}
    (failed : incrementNonce refusals address world = .error error final) : final = world := by
  rcases bind_eq_error.mp failed with unread | ⟨nonce, middle, looked, rest⟩
  · exact (reads_nonce address).refuses unread
  · obtain ⟨rfl, rfl⟩ := (reads_nonce address).shows looked
    split at rest
    · cases rest
      rfl
    · rcases bind_eq_error.mp rest with unwritten | ⟨_, _, _, impossible⟩
      · exact (writes_nonce address _).refuses unwritten
      · cases impossible

end Access

namespace Transaction

variable {host : Host}

theorem prudent_validate : Prudent True True .looks (validate host) := by
  have counts : Prudent True True .looks (do
      if (← Run.onWorld (Access.readNonce host.refusals host.message.caller)) = maxUInt64 then
        throw (.invalidMessage (.nonceOverflow host.message.caller))) :=
    .ask (prudent_reading (Access.reads_nonce _)) fun _ =>
      .branch (prudent_throw nofun) (prudent_pure _)
  have measures : Prudent True True .looks (do
      if host.message.isCreation && host.config.maxInitcodeSize < host.message.data.size then
        throw (.invalidMessage (.initcodeSizeExceeded host.message.data.size))
      if (← Run.onWorld (Access.readNonce host.refusals host.message.caller)) = maxUInt64 then
        throw (.invalidMessage (.nonceOverflow host.message.caller))) :=
    .branch (.look (prudent_throw nofun) nofun fun _ => counts) counts
  exact .ask (prudent_reading (Access.reads_balance _)) fun _ =>
    .branch (.look (prudent_throw nofun) nofun fun _ => measures) measures

/-- A message that cannot be prepared leaves the world as it was. -/
theorem world_of_unprepared {machine final : Machine} {cause : Failure}
    (failed : prepareSettlement host machine = .error cause final) :
    final.world = machine.world := by
  cases begins : machine.warmth.begin with
  | error error =>
      unfold prepareSettlement at failed
      rw [bind_of_ok (get_apply machine)] at failed
      simp only [begins] at failed
      cases failed
      rfl
  | ok nothing =>
      rw [prepareSettlement_of_begin begins] at failed
      rcases bind_eq_error.mp failed with invalid | ⟨_, valid, validated, rest⟩
      · have validates : Prudent True True .looks (validate host) := prudent_validate
        have kept := validates.keeps trivial
          { machine with warmth := machine.warmth.setAlways host.policy.alwaysWarm }
        rw [invalid] at kept
        exact congrArg Prod.fst kept
      · obtain ⟨rfl, _⟩ := validate_eq_ok validated
        rcases bind_eq_error.mp rest with uncounted | ⟨_, counted, _, warming⟩
        · obtain ⟨_, world, refused, _, rfl⟩ := Run.onWorld_eq_error.mp uncounted
          exact Access.incrementNonce_eq_error refused
        · obtain ⟨warmth, warmed⟩ := warms_warmMessage counted
          rw [warmed] at warming
          cases warming

theorem destroy_forM_eq_error {addresses : List Address} {machine final : Machine}
    {cause : Failure}
    (failed : addresses.forM (fun address => Run.onWorld (Access.destroy host.refusals address))
      machine = .error cause final) :
    ∃ address error, host.refusals.account .destroy address = some error ∧
      cause = .store error := by
  induction addresses generalizing machine with
  | nil => cases failed
  | cons address addresses inductionHypothesis =>
      rcases bind_eq_error.mp failed with refused | ⟨_, middle, _, rest⟩
      · obtain ⟨error, world, destroys, rfl, _⟩ := Run.onWorld_eq_error.mp refused
        rcases Access.permit_bind_eq_error.mp destroys with ⟨refusal, _⟩ | ⟨_, impossible⟩
        · exact ⟨address, error, refusal, rfl⟩
        · cases impossible
      · exact inductionHypothesis rest

/-- Only a store that refuses to destroy an account can abort a message that has come to its
end. -/
theorem refused_of_finalizing {outcome : Outcome} {machine final : Machine} {cause : Failure}
    (failed : finalizeSettlement host outcome machine = .error cause final) :
    ∃ address error, host.refusals.account .destroy address = some error ∧
      cause = .store error := by
  rw [finalizeSettlement_eq] at failed
  rcases bind_eq_error.mp failed with undestroyed | ⟨_, middle, _, refunding⟩
  · unfold destroyAll at undestroyed
    split at undestroyed
    · rw [bind_of_ok (get_apply machine)] at undestroyed
      exact destroy_forM_eq_error undestroyed
    · cases undestroyed
  · rw [payRefund_apply] at refunding
    cases refunding

/-- What the frames of an aborted message have done is above the checkpoints that they have left
open. -/
theorem onlyCounts_of_aborted {machine ready final : Machine} {transfer : Transfer}
    {cause : Failure} (prepared : Prepared host machine ready)
    (aborted : Interpreter.runOutermost host transfer ready = .error cause final) :
    ∃ count restored,
      final.world.checkpointDepth = machine.world.checkpointDepth + count + 1 ∧
      World.revertTimes (count + 1) final.world = .ok restored ∧
      machine.world.OnlyCounts host.message.caller restored := by
  obtain ⟨accepted, warmth, rfl⟩ := prepared
  have leaves := Interpreter.leavesOpen_of_runFrame host (Interpreter.layered_runInstructions host)
    transfer { machine with
      warmth
      world := machine.world.setNonce host.message.caller
        (machine.world.nonce host.message.caller + 1) }
  unfold Interpreter.runOutermost at aborted
  rw [aborted] at leaves
  obtain ⟨count, leaves⟩ := leaves
  have counted := machine.world.follows_setNonce host.message.caller
    (machine.world.nonce host.message.caller + 1)
  obtain ⟨restored, reverts, restores⟩ := leaves.restores
  refine ⟨count, restored, ?_, reverts, ?_⟩
  · have opened : (machine.world.setNonce host.message.caller
        (machine.world.nonce host.message.caller + 1)).checkpoint.checkpointDepth =
        machine.world.checkpointDepth + 1 := congrArg (· + 1) counted.checkpointDepth
    rw [leaves.checkpointDepth, opened]
    omega
  · exact World.onlyCounts_of_view (nonce_ne_max_of_accepted accepted) restores.view
      (fun address key =>
        (restores.initialSlot address key).trans (counted.initialSlot address key))
      (restores.blockHashes.trans counted.blockHashes)

end Transaction

/-- However a message is aborted, what it has done can be taken back, unless the store refused to
destroy an account at its end: either it was never started, or reverting the checkpoints that its
frames have left open leaves nothing but the nonce of its sender. -/
theorem aborted_messages_can_be_taken_back (host : Host) (hooks : host.hooks = [.settlement])
    (world : World) (cache : Cache) (machine final : Machine) (cause : Failure)
    (booted : Transaction.boot host world cache = .ok machine)
    (aborted : Transaction.execute host machine = .error cause final) :
    final.world = world ∨
    (∃ count restored, final.world.checkpointDepth = world.checkpointDepth + count + 1 ∧
      World.revertTimes (count + 1) final.world = .ok restored ∧
      world.OnlyCounts host.message.caller restored) ∨
    ∃ address error, host.refusals.account .destroy address = some error ∧
      cause = .store error := by
  obtain rfl := (Transaction.boot_eq_ok booted).world
  rw [Transaction.execute_of_hooks hooks] at aborted
  rcases bind_eq_error.mp aborted with unprepared | ⟨_, ready, prepares, rest⟩
  · exact .inl (Transaction.world_of_unprepared unprepared)
  rw [bind_of_ok (Run.frame_apply _ _)] at rest
  rcases bind_eq_error.mp rest with running | ⟨outcome, ended, _, rest⟩
  · exact .inr (.inl (Transaction.onlyCounts_of_aborted
      (Transaction.prepareSettlement_eq_ok prepares) running))
  rcases bind_eq_error.mp rest with finalizing | ⟨_, _, _, reporting⟩
  · exact .inr (.inr (Transaction.refused_of_finalizing finalizing))
  · rw [Transaction.report_apply] at reporting
    cases reporting

/-- A store that lets nobody change the balance of the recipient of a message. -/
def stubbornHost : Host :=
  { Host.standard .blank
      ⟨.ofNat 1, .account (.ofNat 2), .ofNat 5, ByteArray.empty, 100000, []⟩ .standard with
    refusals := ⟨fun operation address =>
      if operation = .writeBalance ∧ address = .ofNat 2 then some (.custom "injected set_balance")
      else none, fun _ => none⟩ }

def stubbornWorld : World := World.empty.setBalance (.ofNat 1) (.ofNat 10)

/-- How many checkpoints an aborted message leaves open, and what its sender has left. -/
def Transaction.remains? (host : Host) (world : World) : Option (Nat × Word) :=
  match boot host world default with
  | .error _ => none
  | .ok machine =>
      match execute host machine with
      | .ok _ _ => none
      | .error _ final =>
          some (final.world.checkpointDepth, final.world.balance host.message.caller)

theorem stubborn_store_aborts :
    ∃ machine final cause, Transaction.boot stubbornHost stubbornWorld default = .ok machine ∧
      Transaction.execute stubbornHost machine = .error cause final ∧
      final.world.checkpointDepth = 1 ∧ final.world.balance (.ofNat 1) = .ofNat 5 := by
  have remains : Transaction.remains? stubbornHost stubbornWorld = some (1, .ofNat 5) := by
    decide +kernel
  unfold Transaction.remains? at remains
  split at remains
  · cases remains
  · rename_i machine booted
    split at remains
    · cases remains
    · rename_i cause final aborted
      obtain ⟨depth, balance⟩ := Prod.mk.inj (Option.some.inj remains)
      exact ⟨machine, final, cause, booted, aborted, depth, balance⟩

/-- Left alone, an aborted message is not as if it had not been sent: its sender has paid, and a
checkpoint is open. -/
theorem aborted_messages_are_not_atomic :
    ¬ ∀ (host : Host) (world : World) (cache : Cache) (machine final : Machine) (cause : Failure),
      Transaction.boot host world cache = .ok machine →
      Transaction.execute host machine = .error cause final →
      final.world.checkpointDepth = world.checkpointDepth ∧ world.LooksLike final.world := by
  intro atomic
  obtain ⟨machine, final, cause, booted, aborted, depth, _⟩ := stubborn_store_aborts
  obtain ⟨closed, _⟩ := atomic stubbornHost stubbornWorld default machine final cause booted aborted
  have before : stubbornWorld.checkpointDepth = 0 := rfl
  rw [depth, before] at closed
  cases closed

theorem stubborn_store_can_be_reverted :
    ∃ machine final cause count restored,
      Transaction.boot stubbornHost stubbornWorld default = .ok machine ∧
      Transaction.execute stubbornHost machine = .error cause final ∧
      World.revertTimes (count + 1) final.world = .ok restored ∧
      stubbornWorld.OnlyCounts (.ofNat 1) restored := by
  obtain ⟨machine, final, cause, booted, aborted, _, paid⟩ := stubborn_store_aborts
  rcases aborted_messages_can_be_taken_back stubbornHost rfl stubbornWorld default machine final
    cause booted aborted with unchanged | ⟨count, restored, _, reverts, counts⟩ |
      ⟨address, error, refused, _⟩
  · have before : stubbornWorld.balance (.ofNat 1) = .ofNat 10 := by decide +kernel
    rw [unchanged, before] at paid
    exact absurd paid (by decide)
  · exact ⟨machine, final, cause, count, restored, booted, aborted, reverts, counts⟩
  · simp [stubbornHost] at refused

end CancunMachine
