import Mathlib.Tactic
import CancunMachine.Proofs.Order.Frugality

/-!
# How a parent resumes

Whatever prices and collaborators there are, the frames that wait for a child are given back as they
were, with halts in the queue of the innermost at most. So the frame that started a child resumes as
it was left.
-/

namespace CancunMachine

open Ending

namespace Instruction

variable {host : Host} {enter : Transfer → Run Outcome} {outcome : Outcome}

/-- A function that leaves the frames that wait as they are, up to the queue of the innermost. -/
def Spares (enter : Transfer → Run Outcome) : Prop :=
  ∀ transfer machine, ∃ halts,
    (reached (enter transfer machine)).suspended = queueing halts machine.suspended

/-- A child runs on its own, and its parent resumes with what was queued for it. -/
theorem runChild_of_spares (host : Host) (spares : Spares enter) (entry : Entry) (ready : Machine) :
    ∃ halts, runChild host enter entry.child entry.transfer ready =
      match enter entry.transfer (ready.entering entry.child) with
      | .ok outcome closed =>
          .ok outcome (closed.resumed host (ready.frame.queueing halts) ready.suspended)
      | .error cause closed =>
          .error cause (closed.resumed host (ready.frame.queueing halts) ready.suspended) := by
  obtain ⟨halts, waits⟩ := spares entry.transfer (ready.entering entry.child)
  refine ⟨halts, ?_⟩
  cases ended : enter entry.transfer (ready.entering entry.child) with
  | ok outcome closed =>
      rw [ended] at waits
      exact runChild_of_queueing ended waits
  | error cause closed =>
      rw [ended] at waits
      exact runChild_of_failure ended waits

theorem stack_of_runChild (spares : Spares enter) {entry : Entry} {ready returned : Machine}
    (ran : runChild host enter entry.child entry.transfer ready = .ok outcome returned) :
    returned.frame.stack = ready.frame.stack := by
  obtain ⟨halts, course⟩ := runChild_of_spares host spares entry ready
  rw [ran] at course
  cases ended : enter entry.transfer (ready.entering entry.child) with
  | ok outcome closed =>
      rw [ended] at course
      cases course
      rfl
  | error cause closed =>
      rw [ended] at course
      cases course

theorem Finishes.keepsSuspended {action : Run Signal} (finishes : Finishes host outcome action) :
    Keeps Machine.suspended action := by
  intro machine
  cases ended : action machine with
  | ok signal final => exact (finishes.acts ended).1.evolves.samePlace.suspended
  | error cause final => exact (finishes.stays ended).1

theorem performing_keepsSuspended (spares : Spares enter) {prepare : Run (Option Entry)}
    {finish : Entry → Outcome → Run Signal} (prepares : Modest prepare)
    (finishes : ∀ entry outcome, Finishes host outcome (finish entry outcome)) :
    Keeps Machine.suspended (performing host enter prepare finish) := by
  refine prepares.suspended.bind fun answer => ?_
  cases answer with
  | none => exact .pure _
  | some entry =>
      refine Keeps.bind (fun ready => ?_) fun outcome => (finishes entry outcome).keepsSuspended
      obtain ⟨halts, course⟩ := runChild_of_spares host spares entry ready
      rw [course]
      cases enter entry.transfer (ready.entering entry.child) <;> rfl

/-- An instruction leaves the frames behind its own as they were. -/
theorem execute_keepsSuspended (host : Host) (spares : Spares enter) (opcode : Opcode) :
    Keeps Machine.suspended (execute host enter opcode) := by
  have calls : ∀ {read : Run CallRequest}, Orderly host (fun _ => True) True True 0 0 read →
      Keeps Machine.suspended (do performCall host enter (← read)) := by
    intro read reads
    refine (Modest.of_orderly reads).suspended.bind fun request => ?_
    have prepares : Orderly host (fun _ => True) True False _ _ (prepareCall host request) :=
      orderly_prepareCall request
    exact performing_keepsSuspended spares (.of_orderly prepares)
      fun _ _ => finishes_finishCall request.operands
  have creates : ∀ {read : Run CreationRequest}, Orderly host (fun _ => True) True True 0 0 read →
      Keeps Machine.suspended (do performCreation host enter (← read)) := by
    intro read reads
    refine (Modest.of_orderly reads).suspended.bind fun request => ?_
    have prepares : Orderly host (fun _ => True) False False _ _ (prepareCreation host request) :=
      orderly_prepareCreation request
    exact performing_keepsSuspended spares (.of_orderly prepares)
      fun entry _ => finishes_finishCreation entry.child.invocation.recipient
  rcases opcode.regular_or_startsChild with regular | rfl | starts
  · obtain ⟨cost, growth, orderly, _⟩ := execute_regular regular
    exact (Modest.of_orderly orderly).suspended
  · exact modest_selfdestruct.suspended
  · cases opcode
    case call => exact calls orderly_readCall
    case callcode => exact calls orderly_readCallcode
    case delegatecall => exact calls orderly_readDelegatecall
    case staticcall => exact calls orderly_readStaticcall
    case create => exact creates orderly_readCreate
    case create2 => exact creates orderly_readCreate2
    all_goals cases starts

end Instruction

namespace Interpreter

theorem spares_runFrame (host : Host) {body : Run Outcome} (runs : Keeps Machine.suspended body) :
    Instruction.Spares (runFrame host body) :=
  fun transfer machine => ⟨_, suspended_of_runFrame transfer machine runs⟩

/-- Whatever a frame executes, it leaves the frames behind it as they were. -/
theorem run_keepsSuspended (host : Host) (budget : Nat) :
    Keeps Machine.suspended (run host budget) := by
  induction budget with
  | zero => exact .throw _
  | succ budget inductionHypothesis =>
      intro machine
      have spares := spares_runFrame host inductionHypothesis
      have waits := Instruction.execute_keepsSuspended host spares machine.nextOpcode
        machine.fetched
      rw [run_succ]
      cases ended : Instruction.execute host (runFrame host (run host budget)) machine.nextOpcode
          machine.fetched with
      | error cause next =>
          rw [ended] at waits
          exact ((setting_of_failFrame cause).suspended next).trans waits
      | ok signal next =>
          rw [ended] at waits
          cases signal with
          | proceed => exact (inductionHypothesis next).trans waits
          | stop => exact (setting_of_stopFrame.suspended next).trans waits

theorem spares_children (host : Host) (budget : Nat) :
    Instruction.Spares (runFrame host (run host budget)) :=
  spares_runFrame host (run_keepsSuspended host budget)

end Interpreter

end CancunMachine
