import Mathlib.Tactic
import CancunMachine.Proofs.Layers.Instruction
import CancunMachine.Proofs.Order.Queue

/-!
# What frames leave in the layers of the journal

A frame opens one checkpoint, and nobody but its exit closes one. A frame that does not get to its
exit leaves its checkpoint open, above which everything that has happened since can be found.
-/

namespace CancunMachine

open Ending

namespace Interpreter

variable {host : Host} {body : Run Outcome}

theorem layered_failFrame (cause : Failure) : Layered (failFrame cause) := by
  unfold failFrame
  refine .guard (layered_throw _) ?_
  exact .guard (layered_modifyFrame _) (layered_frame _)

theorem layered_depositCode : Layered (depositCode host) := by
  refine (layered_frame id).bind fun frame => ?_
  refine .guard (layered_halt _) ?_
  refine .guard (layered_halt _) ?_
  exact .silently (prudent_chargeCost _) fun _ =>
    layered_onWorld (Access.journaled_writeCode _ _)

theorem layered_stopFrame : Layered (stopFrame host) := by
  refine (layered_frame _).bind fun creates => .branch ?_ (layered_frame _)
  refine layered_depositCode.attempt.bind fun deposited => ?_
  cases deposited with
  | ok value => exact layered_frame _
  | error cause => exact layered_failFrame cause

theorem layered_fetch : Layered fetch :=
  (layered_frame _).bind fun _ => (layered_modifyFrame _).bind fun _ => layered_pure _

theorem layered_claimAddress (address : Address) : Layered (claimAddress host address) := by
  have claims : Layered (do
      Run.onWorld (Access.writeNonce host.refusals address 1)
      Run.modifySubstate (·.addCreated address)) :=
    (layered_onWorld (Access.journaled_writeNonce _ _)).bind fun _ => layered_modifySubstate _
  refine (layered_onWorld (Access.reads_account address).journaled).bind fun found => ?_
  cases found with
  | none => exact claims
  | some account => exact .guard (layered_halt _) claims

theorem layered_runPrecompile : Layered (runPrecompile host) := by
  refine (layered_frame id).bind fun frame => ?_
  dsimp only
  cases host.overrides.precompiles frame.invocation.codeAddress frame.invocation.calldata
      frame.gas with
  | none => exact layered_pure _
  | some answer =>
      cases answer with
      | error failure => exact layered_throw _
      | ok result =>
          exact .silently (prudent_charge _) fun _ => (layered_modifyFrame _).bind fun _ =>
            (layered_frame _).bind fun _ => layered_pure _

theorem layered_startFrame (transfer : Transfer) : Layered (startFrame host transfer) := by
  refine (layered_frame _).bind fun invocation => .guard (layered_claimAddress _) ?_
  exact (layered_onWorld (Access.journaled_transfer _ _ _)).bind fun _ =>
    .branch layered_runPrecompile (layered_pure _)

theorem layered_queueOnParent (halt : Halt) : Layered (queueOnParent halt) := by
  refine .of_keeps fun machine => ?_
  unfold queueOnParent
  rw [bind_of_ok (get_apply machine)]
  cases machine.suspended <;> rfl

theorem layered_applyActions (actions : List OutcomeAction) (outcome : Outcome) :
    Layered (applyActions actions outcome) := by
  induction actions generalizing outcome with
  | nil => exact layered_pure _
  | cons action rest inductionHypothesis =>
      cases action with
      | note event => exact (layered_record event).bind fun _ => inductionHypothesis outcome
      | replaceOutput output => exact inductionHypothesis _
      | queue halt =>
          exact (layered_queueOnParent halt).bind fun _ => (layered_record _).bind fun _ =>
            inductionHypothesis outcome
      | fail cause => exact layered_throw cause

theorem layered_settle (outcome : Outcome) : Layered (settle host outcome) := by
  unfold settle
  cases host.overrides.outcome with
  | none => exact layered_pure _
  | some hook =>
      have consults : ∀ outcome : Outcome, Layered (consult hook outcome) :=
        fun outcome => layered_get.bind fun _ => layered_applyActions _ outcome
      have again : ∀ outcome : Outcome, Layered (do
          let mut outcome := outcome
          if !outcome.isSuccess then outcome ← consult hook outcome
          return outcome) :=
        fun outcome => .branch ((consults outcome).bind fun _ => layered_pure _) (layered_pure _)
      refine .branch ?_ (again outcome)
      refine (consults outcome).attempt.bind fun answer => ?_
      cases answer with
      | ok settled => exact again settled
      | error cause => exact (layered_failFrame cause).bind again

theorem layered_concluding (runs : Layered body) (transfer : Transfer) :
    Layered (concluding host body transfer) := by
  refine (layered_startFrame transfer).attempt.bind fun started => ?_
  rcases started with cause | _ | outcome
  · exact layered_failFrame cause
  · exact runs
  · exact layered_pure outcome

/-- The exit of a frame closes one of the checkpoints that are open. -/
theorem exitFrame_of_leavesOpen (outcome : Outcome) {world : World} {machine : Machine}
    {count : Nat} (leaves : world.LeavesOpen (count + 1) machine.world) :
    ∃ closed, exitFrame host outcome machine = .ok () closed ∧
      world.LeavesOpen count closed.world := by
  obtain ⟨closed, exits⟩ : ∃ closed, exitFrame host outcome machine = .ok () closed :=
    exitFrame_closes leaves.layers_ne_nil
  rcases exitFrame_cases host outcome machine with ⟨final, ended, closes⟩ | ⟨cause, failed, _⟩
  · refine ⟨final, ended, ?_⟩
    cases closes with
    | kept world _ commits => exact leaves.commit commits
    | undone world _ reverts => exact leaves.revert reverts
  · rw [failed] at exits
    cases exits

/-- A frame that fails as a whole has left the checkpoint open that it has opened. -/
theorem leavesOpen_of_runFrame (host : Host) (runs : Layered body) (transfer : Transfer)
    (machine : Machine) :
    match runFrame host body transfer machine with
    | .ok _ final => ∃ count, machine.world.LeavesOpen count final.world
    | .error _ final => ∃ count, machine.world.checkpoint.LeavesOpen count final.world := by
  let inside : Run Outcome := do
    let outcome ← concluding host body transfer
    settle host outcome
  have layered : Layered inside := (layered_concluding runs transfer).bind layered_settle
  have whole : runFrame host body transfer machine = (inside >>= fun outcome => do
      exitFrame host outcome
      return outcome) (machine.opened host) := by
    rw [runFrame_apply, bind_assoc]
  obtain ⟨count, leaves⟩ := layered (machine.opened host)
  rw [whole]
  cases ended : inside (machine.opened host) with
  | error cause final =>
      rw [ended] at leaves
      rw [bind_of_error ended]
      exact ⟨count, leaves⟩
  | ok outcome settled =>
      rw [ended] at leaves
      have opened : machine.world.LeavesOpen (count + 1) settled.world := .one (.refl _) leaves
      obtain ⟨closed, exits, closes⟩ := exitFrame_of_leavesOpen outcome opened
      rw [bind_of_ok ended, bind_of_ok exits]
      exact ⟨count, closes⟩

theorem layered_runFrame (runs : Layered body) (transfer : Transfer) :
    Layered (runFrame host body transfer) := by
  intro machine
  have leaves := leavesOpen_of_runFrame host runs transfer machine
  cases ended : runFrame host body transfer machine with
  | ok outcome final =>
      rw [ended] at leaves
      exact leaves
  | error cause final =>
      rw [ended] at leaves
      obtain ⟨count, leaves⟩ := leaves
      exact ⟨count + 1, .one (.refl _) leaves⟩

theorem layered_run (host : Host) (budget : Nat) : Layered (run host budget) := by
  induction budget with
  | zero => exact layered_throw _
  | succ budget inductionHypothesis =>
      have enters : ∀ transfer, Layered (runFrame host (run host budget) transfer) :=
        layered_runFrame inductionHypothesis
      refine layered_fetch.bind fun opcode =>
        (Instruction.layered_execute enters opcode).attempt.bind fun answer => ?_
      rcases answer with cause | _ | _
      · exact layered_failFrame cause
      · exact inductionHypothesis
      · exact layered_stopFrame

theorem layered_runInstructions (host : Host) : Layered (runInstructions host) :=
  (layered_frame _).bind fun _ => layered_run host _

end Interpreter

end CancunMachine
