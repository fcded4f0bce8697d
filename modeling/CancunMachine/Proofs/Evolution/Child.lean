import Mathlib.Tactic
import CancunMachine.Proofs.Evolution.Creation

/-!
# Instructions that start a child

Calls and creations have one course: they prepare a child, run it and take its outcome. The
function that runs the child is only known to be one that runs frames.
-/

namespace CancunMachine

open Ending

/-- A function that runs the frame of a machine from its entry to its exit. -/
structure Enters (host : Host) (enter : Transfer → Run Outcome) : Prop where
  runs : ∀ {transfer machine outcome final}, enter transfer machine = .ok outcome final →
    FrameRuns host transfer machine outcome final
  spends : ∀ {transfer machine outcome final}, host.schedule = .cancun →
    enter transfer machine = .ok outcome final →
      outcome.gasRemaining.toNat ≤ machine.frame.gas.toNat
  fatal : ∀ {transfer machine cause final}, enter transfer machine = .error cause final →
    cause.endsMessage = true
  stays : ∀ {transfer machine cause final}, enter transfer machine = .error cause final →
    final.suspended = machine.suspended

namespace Instruction

variable {host : Host} {enter : Transfer → Run Outcome} {outcome : Outcome}

theorem suspend_apply (child : Frame) (machine : Machine) :
    suspend child machine = .ok () (machine.entering child) := rfl

theorem resume_of_suspended {machine : Machine} {parent : Frame} {others : List Frame}
    (waiting : machine.suspended = parent :: others) :
    resume host machine = .ok () (machine.resumed host parent others) := by
  unfold resume
  rw [bind_of_ok (get_apply _)]
  simp only [waiting]
  rfl

theorem runChild_of_ok {entry : Entry} {machine closed : Machine} (enters : Enters host enter)
    (done : enter entry.transfer (machine.entering entry.child) = .ok outcome closed) :
    runChild host enter entry.child entry.transfer machine =
      .ok outcome (closed.resumed host machine.frame machine.suspended) := by
  have waiting : closed.suspended = machine.frame :: machine.suspended :=
    (enters.runs done).suspended
  unfold runChild
  rw [bind_of_ok (suspend_apply _ _), bind_of_ok (Run.attempt_of_ok done),
    bind_of_ok (resume_of_suspended waiting)]
  rfl

/-- A child that ends the message gives its place back to its parent all the same. -/
theorem runChild_of_error {entry : Entry} {machine closed : Machine} {cause : Failure}
    (enters : Enters host enter)
    (failed : enter entry.transfer (machine.entering entry.child) = .error cause closed) :
    runChild host enter entry.child entry.transfer machine =
      .error cause (closed.resumed host machine.frame machine.suspended) := by
  have waiting : closed.suspended = machine.frame :: machine.suspended := enters.stays failed
  unfold runChild
  rw [bind_of_ok (suspend_apply _ _), bind_of_ok (Run.attempt_of_error failed),
    bind_of_ok (resume_of_suspended waiting)]
  rfl

/-- The outcome of a child is the outcome of its frame. -/
theorem entered_of_runChild {entry : Entry} {machine final : Machine} (enters : Enters host enter)
    (done : runChild host enter entry.child entry.transfer machine = .ok outcome final) :
    ∃ closed, enter entry.transfer (machine.entering entry.child) = .ok outcome closed ∧
      final = closed.resumed host machine.frame machine.suspended := by
  cases ended : enter entry.transfer (machine.entering entry.child) with
  | error cause closed =>
      rw [runChild_of_error enters ended] at done
      cases done
  | ok shown closed =>
      rw [runChild_of_ok enters ended] at done
      cases done
      exact ⟨closed, rfl, rfl⟩

/-- A child that returns has run a whole frame, and its parent is as it was. -/
theorem runChild_eq_ok {entry : Entry} {machine final : Machine} (enters : Enters host enter)
    (legal : entry.Legal host machine)
    (done : runChild host enter entry.child entry.transfer machine = .ok outcome final) :
    Evolves host machine final ∧ final.frame = machine.frame ∧
      (host.schedule = .cancun →
        outcome.gasRemaining.toNat ≤ entry.child.invocation.gasLimit.toNat) := by
  obtain ⟨closed, ended, rfl⟩ := entered_of_runChild enters done
  refine ⟨Evolves.enter legal (enters.runs ended), rfl, fun cancun => ?_⟩
  have granted : entry.child.gas = entry.child.invocation.gasLimit := by
    rw [legal.fresh.start]
    rfl
  rw [← granted]
  exact enters.spends cancun ended

theorem runChild_eq_error {entry : Entry} {machine final : Machine} {cause : Failure}
    (enters : Enters host enter)
    (failed : runChild host enter entry.child entry.transfer machine = .error cause final) :
    cause.endsMessage = true ∧ final.frame = machine.frame ∧
      final.suspended = machine.suspended ∧
      ∃ closed, enter entry.transfer (machine.entering entry.child) = .error cause closed := by
  cases ended : enter entry.transfer (machine.entering entry.child) with
  | error reason closed =>
      rw [runChild_of_error enters ended] at failed
      cases failed
      exact ⟨enters.fatal ended, rfl, rfl, closed, rfl⟩
  | ok shown closed =>
      rw [runChild_of_ok enters ended] at failed
      cases failed

theorem orderly_raiseChildHalt (outcome : Outcome) {known : Invocation → Prop}
    {silent tame : Prop} : Orderly host known silent tame 0 0 (raiseChildHalt outcome) := by
  refine (orderly_frame _).step fun queued => orderly_clearQueuedHalt.step fun _ => ?_
  cases outcome.haltReason? with
  | none => exact orderly_pure _
  | some reason =>
      cases queued with
      | some raised => exact orderly_halt _ _ _
      | none => exact Orderly.branch (orderly_halt _ _ _) (orderly_pure _)

theorem returnGas_eq_ok {machine final : Machine}
    (done : returnGas outcome machine = .ok () final) :
    ∃ gas : UInt64, final = { machine with frame.gas := gas } ∧
      gas.toNat = machine.frame.gas.toNat + outcome.gasRemaining.toNat := by
  obtain ⟨gas, _, asked, rest⟩ := bind_eq_ok.mp done
  rw [Run.frame_apply] at asked
  cases asked
  cases sum : addWithin? machine.frame.gas outcome.gasRemaining with
  | none =>
      rw [sum] at rest
      cases rest
  | some total =>
      rw [sum] at rest
      cases rest
      exact ⟨total, rfl, addWithin?_eq_some sum⟩

theorem returnGas_eq_error {machine final : Machine} {cause : Failure}
    (failed : returnGas outcome machine = .error cause final) :
    cause.endsMessage = true ∧
      UInt64.size ≤ machine.frame.gas.toNat + outcome.gasRemaining.toNat ∧ final = machine := by
  rcases bind_eq_error.mp failed with unasked | ⟨gas, _, asked, rest⟩
  · cases unasked
  rw [Run.frame_apply] at asked
  cases asked
  by_cases fits : machine.frame.gas.toNat + outcome.gasRemaining.toNat < UInt64.size
  · rw [addWithin?_of_lt fits] at rest
    cases rest
  · cases sum : addWithin? machine.frame.gas outcome.gasRemaining with
    | none =>
        rw [sum] at rest
        cases rest
        exact ⟨rfl, not_lt.mp fits, rfl⟩
    | some total =>
        rw [sum] at rest
        cases rest

/-- What a parent does with the outcome of its child. -/
structure Finishes (host : Host) (outcome : Outcome) (action : Run Signal) : Prop where
  acts : ∀ {machine signal final}, action machine = .ok signal final →
    Acts host machine final ∧
      final.frame.gas.toNat ≤ machine.frame.gas.toNat + outcome.gasRemaining.toNat ∧
      final.frame.stack.size ≤ machine.frame.stack.size + 1
  failed : ∀ {machine cause final}, action machine = .error cause final →
    cause.endsMessage = false → Evolves host machine final
  stays : ∀ {machine cause final}, action machine = .error cause final →
    final.suspended = machine.suspended ∧
      final.frame.gas.toNat ≤ machine.frame.gas.toNat + outcome.gasRemaining.toNat
  settles : ∀ {machine cause final}, action machine = .error cause final →
    host.refusals = .none →
    machine.frame.gas.toNat + outcome.gasRemaining.toNat < UInt64.size →
      cause.endsMessage = false

/-- Both kinds of children are finished alike, up to what is pushed in the end. -/
theorem finishes_of_rest {rest : Run Signal}
    (orderly : Orderly host (fun _ => True) True True 0 1 rest) :
    Finishes host outcome (do
      raiseChildHalt outcome
      returnGas outcome
      rest) := by
  have raising : Orderly host (fun _ => True) True True _ _ (raiseChildHalt outcome) :=
    orderly_raiseChildHalt outcome
  have returning : ∀ (machine : Machine) (gas : UInt64),
      Acts host machine { machine with frame.gas := gas } := by
    intro machine gas
    exact .single (.compute { machine.frame with gas } ⟨rfl, rfl, rfl⟩)
  constructor
  case acts =>
    intro machine signal final done
    obtain ⟨_, raised, raises, later⟩ := bind_eq_ok.mp done
    obtain ⟨_, _, returns, finished⟩ := bind_eq_ok.mp later
    obtain ⟨gas, rfl, sum⟩ := returnGas_eq_ok returns
    have raisedSpent := raising.spends trivial raises
    have raisedGrown := raising.grows trivial raises
    have restSpent := orderly.spends trivial finished
    have restGrown := orderly.grows trivial finished
    refine ⟨?_, ?_, ?_⟩
    · exact ((raising.acts trivial raises).trans (returning raised gas)).trans
        (orderly.acts trivial finished)
    · simp only at restSpent
      omega
    · simp only at restGrown
      omega
  case failed =>
    intro machine cause final failed settled
    rcases bind_eq_error.mp failed with halted | ⟨_, raised, raises, later⟩
    · exact raising.failed trivial halted settled
    rcases bind_eq_error.mp later with overflow | ⟨_, _, returns, finished⟩
    · rw [(returnGas_eq_error overflow).1] at settled
      cases settled
    obtain ⟨gas, rfl, sum⟩ := returnGas_eq_ok returns
    exact ((raising.evolves trivial raises).trans (returning raised gas).evolves).trans
      (orderly.failed trivial finished settled)
  case stays =>
    intro machine cause final failed
    rcases bind_eq_error.mp failed with halted | ⟨_, raised, raises, later⟩
    · obtain ⟨waiting, spent⟩ := raising.stays trivial halted
      exact ⟨waiting, by omega⟩
    have raisedWaiting := (raising.evolves trivial raises).samePlace.suspended
    have raisedSpent := raising.spends trivial raises
    rcases bind_eq_error.mp later with overflow | ⟨_, _, returns, finished⟩
    · rw [(returnGas_eq_error overflow).2.2]
      exact ⟨raisedWaiting, by omega⟩
    obtain ⟨gas, rfl, sum⟩ := returnGas_eq_ok returns
    obtain ⟨waiting, spent⟩ := orderly.stays trivial finished
    refine ⟨waiting.trans raisedWaiting, ?_⟩
    simp only at spent
    omega
  case settles =>
    intro machine cause final failed granted room
    rcases bind_eq_error.mp failed with halted | ⟨_, raised, raises, later⟩
    · exact raising.settles trivial trivial halted granted
    rcases bind_eq_error.mp later with overflow | ⟨_, _, returns, finished⟩
    · have raisedSpent := raising.spends trivial raises
      have beyond := (returnGas_eq_error overflow).2.1
      omega
    · exact orderly.settles trivial trivial finished granted

theorem finishes_finishCall (operands : CallOperands) :
    Finishes host outcome (finishCall outcome operands) :=
  finishes_of_rest (((orderly_setReturnData _).bind fun _ =>
    (orderly_onMemory (Memory.haltsUnchanged_storePadded _ _ _)).bind fun _ =>
    (orderly_push _).bind fun _ => orderly_pure _).weaken (by omega) (by omega))

theorem finishes_finishCreation (address : Address) :
    Finishes host outcome (finishCreation outcome address) := by
  refine finishes_of_rest (Orderly.branch ?_ ?_)
  · exact ((orderly_push _).bind fun _ => orderly_pure _).weaken (by omega) (by omega)
  · exact ((orderly_setReturnData _).bind fun _ => (orderly_push _).bind fun _ =>
      orderly_pure _).weaken (by omega) (by omega)

end Instruction

end CancunMachine
