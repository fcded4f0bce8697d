import Mathlib.Tactic
import CancunMachine.Proofs.Evolution.Entry

/-!
# The course of a frame

A frame is opened, starts, runs its instructions and is closed. Whatever runs the instructions, the
frame as a whole is described by `FrameRuns`, provided that the instructions only let the machine
evolve.
-/

namespace CancunMachine

open Ending

namespace Interpreter

variable {host : Host} {known : Invocation → Prop} {silent tame : Prop}

theorem failFrame_of_fatal {cause : Failure} (fatal : cause.endsMessage = true)
    (machine : Machine) : failFrame cause machine = .error cause machine := by
  unfold failFrame
  simp only [if_pos fatal]
  rfl

/-- A failure that is settled leaves the frame with an outcome that tells of it. -/
theorem failFrame_of_settled (host : Host) {cause : Failure}
    (settled : cause.endsMessage = false) (machine : Machine) :
    ∃ outcome final, failFrame cause machine = .ok outcome final ∧ Evolves host machine final ∧
      outcome.Tells final.frame ∧ outcome.verdict = .failure cause ∧
      final.frame.gas.toNat ≤ machine.frame.gas.toNat := by
  have fatal : ¬cause.endsMessage = true := by rw [settled]; exact Bool.false_ne_true
  unfold failFrame
  simp only [if_neg fatal]
  cases reverts : cause.isRevert with
  | true =>
      refine ⟨_, _, rfl, .refl _, ⟨rfl, ?_, ?_⟩, rfl, le_refl _⟩
      · intro shown same
        cases same
        exact settled
      · intro reason same
        cases same
        cases reverts
  | false =>
      have forfeits : Evolves host machine { machine with
          frame := { machine.frame with gas := 0, output := ByteArray.empty } } :=
        (Act.compute { machine.frame with gas := 0, output := ByteArray.empty }
          ⟨rfl, rfl, rfl⟩).evolves
      refine ⟨_, _, rfl, forfeits, ⟨rfl, ?_, ?_⟩, rfl, ?_⟩
      · intro shown same
        cases same
        exact settled
      · intro reason same
        exact ⟨rfl, rfl⟩
      · exact Nat.zero_le _

/-- What is known of a computation that gives the outcome of a frame. -/
structure Concludes (host : Host) (body : Run Outcome) : Prop where
  evolves : ∀ {machine outcome final}, body machine = .ok outcome final →
    Evolves host machine final
  tells : ∀ {machine outcome final}, body machine = .ok outcome final →
    outcome.Tells final.frame
  spends : ∀ {machine outcome final}, host.schedule = .cancun →
    body machine = .ok outcome final →
      outcome.gasRemaining.toNat ≤ machine.frame.gas.toNat
  fatal : ∀ {machine cause final}, body machine = .error cause final → cause.endsMessage = true
  stays : ∀ {machine cause final}, body machine = .error cause final →
    final.suspended = machine.suspended

theorem concludes_failFrame (cause : Failure) : Concludes host (failFrame cause) := by
  cases ends : cause.endsMessage with
  | true =>
      have stops := failFrame_of_fatal ends
      constructor
      case fatal =>
        intro machine shown final failed
        rw [stops] at failed
        cases failed
        exact ends
      case stays =>
        intro machine shown final failed
        rw [stops] at failed
        cases failed
        rfl
      all_goals
        intros
        simp_all
  | false =>
      have settles := failFrame_of_settled host ends
      constructor
      case evolves =>
        intro machine outcome final done
        obtain ⟨shown, left, returns, evolved, _⟩ := settles machine
        rw [returns] at done
        cases done
        exact evolved
      case tells =>
        intro machine outcome final done
        obtain ⟨shown, left, returns, _, tells, _⟩ := settles machine
        rw [returns] at done
        cases done
        exact tells
      case spends =>
        intro machine outcome final _ done
        obtain ⟨shown, left, returns, _, tells, _, spent⟩ := settles machine
        rw [returns] at done
        cases done
        rw [tells.gasRemaining]
        exact spent
      all_goals
        intro machine shown final failed
        obtain ⟨_, _, returns, _⟩ := settles machine
        rw [returns] at failed
        cases failed

theorem orderly_depositCode
    (creates : ∀ invocation, known invocation → invocation.kind.isCreation = true) :
    Orderly host known False tame 0 0 (depositCode host) := by
  have stores : ∀ frame : Frame, Orderly host
      (fun invocation => known invocation ∧ frame.invocation = invocation) False tame 0 0 (do
        if host.config.maxCodeSize < frame.output.size then Run.halt .contractOutputTooBig
        if !frame.output.isEmpty && Bytes.get frame.output 0 = reservedCodeByte then
          Run.halt .invalidContractPrefix
        Run.chargeCost (host.schedule.codeDeposit frame.output.size)
        Run.onWorld
          (Access.writeCode host.refusals frame.invocation.recipient frame.output)) := by
    intro frame
    refine Orderly.guard fun small => Orderly.guard fun unreserved => ?_
    refine (orderly_chargeCost _ 0 fun _ _ => Nat.zero_le _).step fun _ =>
      (orderly_writing (Access.writes_code _ _) fun machine holds => ?_).weaken
        (by omega) (by omega)
    rw [holds.2]
    refine .deposit _ (creates _ holds.1) (not_lt.mp small) ?_
    by_cases empty : frame.output.isEmpty = true
    · exact .inl empty
    · right
      simpa [empty] using unreserved
  refine ((orderly_frame id).learn (fun frame invocation => frame.invocation = invocation) ?_
    stores).weaken (by omega) (by omega)
  intro machine frame final _ asked
  cases asked
  rfl

theorem concludes_success :
    Concludes host (Run.frame (Outcome.ofFrame · .success)) where
  evolves := fun done => by cases done; exact .refl _
  tells := by
    intro machine outcome final done
    cases done
    refine ⟨rfl, ?_, ?_⟩
    · intro cause impossible
      cases impossible
    · intro reason impossible
      cases impossible
  spends := fun _ done => by cases done; exact le_refl _
  fatal := fun failed => by cases failed
  stays := fun failed => by cases failed

/-- On this machine a computation ends as another one does on a machine with the same frames
waiting, and if it ends well, that machine has evolved. -/
def EndsAs (host : Host) (body : Run Outcome) (machine : Machine) : Prop :=
  ∃ rest middle, Concludes host rest ∧ body machine = rest middle ∧
    middle.suspended = machine.suspended ∧
    ∀ outcome final, rest middle = .ok outcome final → Evolves host machine middle ∧
      (host.schedule = .cancun → middle.frame.gas.toNat ≤ machine.frame.gas.toNat)

theorem concludes_of_endsAs {body : Run Outcome} (ends : ∀ machine, EndsAs host body machine) :
    Concludes host body := by
  constructor
  case evolves =>
    intro machine outcome final done
    obtain ⟨rest, middle, concludes, same, _, after⟩ := ends machine
    rw [same] at done
    exact (after outcome final done).1.trans (concludes.evolves done)
  case tells =>
    intro machine outcome final done
    obtain ⟨rest, middle, concludes, same, _⟩ := ends machine
    rw [same] at done
    exact concludes.tells done
  case spends =>
    intro machine outcome final cancun done
    obtain ⟨rest, middle, concludes, same, _, after⟩ := ends machine
    rw [same] at done
    exact le_trans (concludes.spends cancun done) ((after outcome final done).2 cancun)
  case fatal =>
    intro machine cause final failed
    obtain ⟨rest, middle, concludes, same, _⟩ := ends machine
    rw [same] at failed
    exact concludes.fatal failed
  case stays =>
    intro machine cause final failed
    obtain ⟨rest, middle, concludes, same, waiting, _⟩ := ends machine
    rw [same] at failed
    exact (concludes.stays failed).trans waiting

theorem endsAs_of_evolves {body rest : Run Outcome} {machine middle : Machine}
    (concludes : Concludes host rest) (same : body machine = rest middle)
    (evolved : Evolves host machine middle)
    (spent : host.schedule = .cancun → middle.frame.gas.toNat ≤ machine.frame.gas.toNat) :
    EndsAs host body machine :=
  ⟨rest, middle, concludes, same, evolved.samePlace.suspended, fun _ _ _ => ⟨evolved, spent⟩⟩

/-- A failure is settled where it happened, or it ends the message. -/
theorem endsAs_of_failure {body : Run Outcome} {machine middle : Machine} {cause : Failure}
    (same : body machine = failFrame cause middle)
    (waiting : middle.suspended = machine.suspended)
    (evolved : cause.endsMessage = false → Evolves host machine middle)
    (spent : host.schedule = .cancun → middle.frame.gas.toNat ≤ machine.frame.gas.toNat) :
    EndsAs host body machine := by
  refine ⟨_, middle, concludes_failFrame cause, same, waiting, fun outcome final settles => ?_⟩
  cases ends : cause.endsMessage with
  | true =>
      rw [failFrame_of_fatal ends] at settles
      cases settles
  | false => exact ⟨evolved ends, spent⟩

theorem stopFrame_of_call {machine : Machine}
    (calls : machine.frame.invocation.kind.isCreation = false) :
    stopFrame host machine = Run.frame (Outcome.ofFrame · .success) machine := by
  unfold stopFrame
  rw [bind_of_ok (Run.frame_apply _ _)]
  simp only [calls, Bool.false_eq_true, if_false]

theorem stopFrame_of_deposit {machine final : Machine}
    (creates : machine.frame.invocation.kind.isCreation = true)
    (deposited : depositCode host machine = .ok () final) :
    stopFrame host machine = Run.frame (Outcome.ofFrame · .success) final := by
  unfold stopFrame
  rw [bind_of_ok (Run.frame_apply _ _)]
  simp only [creates, if_true]
  rw [bind_of_ok (Run.attempt_of_ok deposited)]

theorem stopFrame_of_refusal {machine final : Machine} {cause : Failure}
    (creates : machine.frame.invocation.kind.isCreation = true)
    (refused : depositCode host machine = .error cause final) :
    stopFrame host machine = failFrame cause final := by
  unfold stopFrame
  rw [bind_of_ok (Run.frame_apply _ _)]
  simp only [creates, if_true]
  rw [bind_of_ok (Run.attempt_of_error refused)]

theorem concludes_stopFrame : Concludes host (stopFrame host) := by
  refine concludes_of_endsAs fun machine => ?_
  cases creates : machine.frame.invocation.kind.isCreation with
  | false =>
      exact endsAs_of_evolves concludes_success (stopFrame_of_call creates) (.refl _)
        fun _ => le_refl _
  | true =>
      have deposits : Orderly host (fun invocation => invocation.kind.isCreation = true) False True
          0 0 (depositCode host) := orderly_depositCode fun _ holds => holds
      cases deposited : depositCode host machine with
      | ok _ final =>
          exact endsAs_of_evolves concludes_success (stopFrame_of_deposit creates deposited)
            (deposits.evolves creates deposited) fun _ => deposits.spends creates deposited
      | error cause final =>
          obtain ⟨waiting, spent⟩ := deposits.stays creates deposited
          refine endsAs_of_failure (stopFrame_of_refusal creates deposited) waiting ?_ fun _ => spent
          exact fun settled => deposits.failed creates deposited settled

theorem claimAddress_eq_ok {machine final : Machine} {address : Address}
    (done : claimAddress host address machine = .ok () final) :
    (∀ account, machine.world.account? address = some account →
      account.hasCode = false ∧ account.nonce = 0) ∧
    final = { machine with
      world := machine.world.setNonce address 1
      substate := machine.substate.addCreated address } := by
  obtain ⟨found, _, looked, rest⟩ := bind_eq_ok.mp done
  obtain ⟨world, shown, rfl⟩ := Run.onWorld_eq_ok.mp looked
  obtain ⟨rfl, rfl⟩ := (Access.reads_account address).shows shown
  have claims : (do
      Run.onWorld (Access.writeNonce host.refusals address 1)
      Run.modifySubstate (·.addCreated address)) machine = .ok () final →
      final = { machine with
        world := machine.world.setNonce address 1
        substate := machine.substate.addCreated address } := by
    intro claimed
    obtain ⟨_, _, wrote, marked⟩ := bind_eq_ok.mp claimed
    obtain ⟨world, changed, rfl⟩ := Run.onWorld_eq_ok.mp wrote
    cases (Access.writes_nonce address 1).changes changed
    cases marked
    rfl
  cases holder : machine.world.account? address with
  | none =>
      rw [holder] at rest
      refine ⟨?_, claims rest⟩
      intro shown impossible
      cases impossible
  | some account =>
      rw [holder] at rest
      by_cases used : (account.hasCode || decide (account.nonce ≠ 0)) = true
      · simp only [if_pos used, bind_eq_ok, Run.halt_apply, reduceCtorEq, false_and,
          exists_false] at rest
      · simp only [if_neg used] at rest
        refine ⟨?_, claims rest⟩
        intro shown same
        cases same
        simpa using used

theorem claimAddress_failed {machine final : Machine} {address : Address} {cause : Failure}
    (failed : claimAddress host address machine = .error cause final)
    (settled : cause.endsMessage = false) : final = machine := by
  have fatal : ∀ {Alpha : Type} {access : Access Alpha} {middle : Machine},
      Run.onWorld access middle ≠ .error cause final := by
    intro Alpha access middle refused
    obtain ⟨error, world, _, rfl, _⟩ := Run.onWorld_eq_error.mp refused
    cases settled
  rcases bind_eq_error.mp failed with unread | ⟨found, _, looked, rest⟩
  · exact absurd unread fatal
  obtain ⟨world, shown, rfl⟩ := Run.onWorld_eq_ok.mp looked
  obtain ⟨rfl, rfl⟩ := (Access.reads_account address).shows shown
  have claims : (do
      Run.onWorld (Access.writeNonce host.refusals address 1)
      Run.modifySubstate (·.addCreated address)) machine ≠ .error cause final := by
    intro refused
    rcases bind_eq_error.mp refused with unwritten | ⟨_, _, _, marked⟩
    · exact fatal unwritten
    · cases marked
  cases holder : machine.world.account? address with
  | none =>
      rw [holder] at rest
      exact absurd rest claims
  | some account =>
      rw [holder] at rest
      by_cases used : (account.hasCode || decide (account.nonce ≠ 0)) = true
      · simp only [if_pos used] at rest
        cases rest
        rfl
      · simp only [if_neg used] at rest
        exact absurd rest claims

/-- A refusal of the store changes nothing but the world. -/
theorem onWorld_stays {Alpha : Type} {access : Access Alpha} {machine final : Machine}
    {cause : Failure} (failed : Run.onWorld access machine = .error cause final) :
    final.suspended = machine.suspended ∧ final.frame = machine.frame := by
  obtain ⟨_, _, _, _, rfl⟩ := Run.onWorld_eq_error.mp failed
  exact ⟨rfl, rfl⟩

theorem claimAddress_stays {machine final : Machine} {address : Address} {cause : Failure}
    (failed : claimAddress host address machine = .error cause final) :
    final.suspended = machine.suspended ∧ final.frame = machine.frame := by
  rcases bind_eq_error.mp failed with unread | ⟨found, _, looked, rest⟩
  · exact onWorld_stays unread
  obtain ⟨world, _, rfl⟩ := Run.onWorld_eq_ok.mp looked
  have claims : (do
      Run.onWorld (Access.writeNonce host.refusals address 1)
      Run.modifySubstate (·.addCreated address)) { machine with world } = .error cause final →
      final.suspended = machine.suspended ∧ final.frame = machine.frame := by
    intro refused
    rcases bind_eq_error.mp refused with unwritten | ⟨_, _, _, marked⟩
    · have same := onWorld_stays unwritten
      exact same
    · cases marked
  cases found with
  | none => exact claims rest
  | some account =>
      by_cases used : (account.hasCode || decide (account.nonce ≠ 0)) = true
      · simp only [if_pos used] at rest
        cases rest
        exact ⟨rfl, rfl⟩
      · simp only [if_neg used] at rest
        exact claims rest

/-- Whether no native contract ends the message. -/
def TamePrecompiles (host : Host) : Prop :=
  ∀ address input gas failure,
    host.overrides.precompiles address input gas = some (.error failure) →
      failure.endsMessage = false

theorem orderly_runPrecompile :
    Orderly host known silent (TamePrecompiles host) 0 0 (runPrecompile host) := by
  refine (orderly_frame id).step fun frame => ?_
  cases found : host.overrides.precompiles frame.invocation.codeAddress
      frame.invocation.calldata frame.gas with
  | none =>
      simp only [found]
      exact orderly_pure _
  | some answer =>
      simp only [found]
      cases answer with
      | error failure =>
          constructor
          case settles =>
            intro machine cause final isTame _ failed _
            cases failed
            exact isTame _ _ _ _ found
          case failed =>
            intro machine cause final _ failed _
            cases failed
            exact .refl _
          case stays =>
            intro machine cause final _ failed
            cases failed
            exact ⟨rfl, le_refl _⟩
          all_goals
            intros
            contradiction
      | ok result =>
          exact ((orderly_charge _).bind fun _ => (orderly_setFrameOutput _).bind fun _ =>
            (orderly_frame _).bind fun _ => orderly_pure _).weaken (by omega) (by omega)

theorem tells_of_runPrecompile {machine final : Machine} {outcome : Outcome}
    (done : runPrecompile host machine = .ok (some outcome) final) :
    outcome.Tells final.frame := by
  have succeeds : Concludes host (Run.frame (Outcome.ofFrame · .success)) := concludes_success
  obtain ⟨frame, _, asked, rest⟩ := bind_eq_ok.mp done
  rw [Run.frame_apply, id] at asked
  cases asked
  cases found : host.overrides.precompiles machine.frame.invocation.codeAddress
      machine.frame.invocation.calldata machine.frame.gas with
  | none =>
      simp only [found] at rest
      cases rest
  | some answer =>
      simp only [found] at rest
      cases answer with
      | error failure => cases rest
      | ok result =>
          obtain ⟨_, _, _, rest⟩ := bind_eq_ok.mp rest
          obtain ⟨_, _, _, rest⟩ := bind_eq_ok.mp rest
          obtain ⟨_, left, shows, returned⟩ := bind_eq_ok.mp rest
          cases returned
          exact succeeds.tells shows

/-- The start of a frame after its address was claimed, if it has to be. -/
def paying (host : Host) (transfer : Transfer) (invocation : Invocation) :
    Run (Option Outcome) := do
  Run.onWorld (Access.transfer host.refusals transfer.source transfer.target transfer.value)
  if !invocation.kind.isCreation && host.policy.isPrecompile invocation.codeAddress then
    runPrecompile host
  else return none

theorem startFrame_of_call {transfer : Transfer} {machine : Machine}
    (calls : machine.frame.invocation.kind.isCreation = false) :
    startFrame host transfer machine =
      paying host transfer machine.frame.invocation machine := by
  unfold startFrame
  rw [bind_of_ok (Run.frame_apply _ _)]
  have skips : ¬machine.frame.invocation.kind.isCreation = true := by simp [calls]
  simp only [if_neg skips]
  rfl

theorem startFrame_of_creation {transfer : Transfer} {machine : Machine}
    (creates : machine.frame.invocation.kind.isCreation = true) :
    startFrame host transfer machine = (do
      claimAddress host machine.frame.invocation.recipient
      paying host transfer machine.frame.invocation) machine := by
  unfold startFrame
  rw [bind_of_ok (Run.frame_apply _ _)]
  simp only [if_pos creates]
  rfl

theorem orderly_serving (invocation : Invocation) :
    Orderly host known silent (TamePrecompiles host) 0 0 (do
      if !invocation.kind.isCreation && host.policy.isPrecompile invocation.codeAddress then
        runPrecompile host
      else return none) :=
  .branch orderly_runPrecompile (orderly_pure _)

theorem paying_eq_ok {transfer : Transfer} {invocation : Invocation} {machine final : Machine}
    {shown : Option Outcome} (done : paying host transfer invocation machine = .ok shown final) :
    ∃ world, World.Moves transfer.source transfer.target transfer.value machine.world world ∧
      Acts host { machine with world } final ∧
      final.frame.gas.toNat ≤ machine.frame.gas.toNat ∧
      ∀ outcome, shown = some outcome → outcome.Tells final.frame := by
  have serves : Orderly host (fun _ => True) True _ _ _ _ := orderly_serving invocation
  obtain ⟨_, _, moved, rest⟩ := bind_eq_ok.mp done
  obtain ⟨world, transferred, rfl⟩ := Run.onWorld_eq_ok.mp moved
  have spent := serves.spends trivial rest
  refine ⟨world, Access.moves_of_transfer transferred, serves.acts trivial rest, spent, ?_⟩
  rintro outcome rfl
  split at rest
  · exact tells_of_runPrecompile rest
  · cases rest

theorem paying_failed {transfer : Transfer} {invocation : Invocation} {machine final : Machine}
    {cause : Failure} (failed : paying host transfer invocation machine = .error cause final)
    (settled : cause.endsMessage = false) :
    ∃ world, World.Moves transfer.source transfer.target transfer.value machine.world world ∧
      Evolves host { machine with world } final := by
  have serves : Orderly host (fun _ => True) True _ _ _ _ := orderly_serving invocation
  rcases bind_eq_error.mp failed with unpaid | ⟨_, _, moved, rest⟩
  · obtain ⟨error, world, _, rfl, _⟩ := Run.onWorld_eq_error.mp unpaid
    cases settled
  obtain ⟨world, transferred, rfl⟩ := Run.onWorld_eq_ok.mp moved
  exact ⟨world, Access.moves_of_transfer transferred, serves.failed trivial rest settled⟩

theorem paying_stays {transfer : Transfer} {invocation : Invocation}
    {machine final : Machine} {cause : Failure}
    (failed : paying host transfer invocation machine = .error cause final) :
    final.suspended = machine.suspended ∧ final.frame.gas.toNat ≤ machine.frame.gas.toNat := by
  have serves : Orderly host (fun _ => True) True _ _ _ _ := orderly_serving invocation
  rcases bind_eq_error.mp failed with unpaid | ⟨_, _, moved, rest⟩
  · obtain ⟨waiting, sameFrame⟩ := onWorld_stays unpaid
    rw [sameFrame]
    exact ⟨waiting, le_refl _⟩
  obtain ⟨world, _, rfl⟩ := Run.onWorld_eq_ok.mp moved
  have stays := serves.stays trivial rest
  exact stays

/-- How a frame is before its first instruction, given that its start has ended well. -/
theorem startFrame_eq_ok {transfer : Transfer} {machine final : Machine}
    {shown : Option Outcome} (done : startFrame host transfer machine = .ok shown final) :
    ∃ started, Starts host transfer machine started ∧ Evolves host started final ∧
      final.frame.gas.toNat ≤ machine.frame.gas.toNat ∧
      ∀ outcome, shown = some outcome → outcome.Tells final.frame := by
  cases creates : machine.frame.invocation.kind.isCreation with
  | false =>
      rw [startFrame_of_call creates] at done
      obtain ⟨world, moves, acted, spent, tells⟩ := paying_eq_ok done
      exact ⟨_, .called world creates moves, acted.evolves, spent, tells⟩
  | true =>
      rw [startFrame_of_creation creates] at done
      obtain ⟨_, _, claimed, rest⟩ := bind_eq_ok.mp done
      obtain ⟨unused, rfl⟩ := claimAddress_eq_ok claimed
      obtain ⟨world, moves, acted, spent, tells⟩ := paying_eq_ok rest
      exact ⟨_, .created world creates unused moves, acted.evolves, spent, tells⟩

theorem runPrecompile_eq_none {machine final : Machine}
    (done : runPrecompile host machine = .ok none final) : final = machine := by
  obtain ⟨frame, _, asked, rest⟩ := bind_eq_ok.mp done
  rw [Run.frame_apply, id] at asked
  cases asked
  cases found : host.overrides.precompiles machine.frame.invocation.codeAddress
      machine.frame.invocation.calldata machine.frame.gas with
  | none =>
      simp only [found] at rest
      cases rest
      rfl
  | some answer =>
      simp only [found] at rest
      cases answer with
      | error failure => cases rest
      | ok result =>
          obtain ⟨_, _, _, rest⟩ := bind_eq_ok.mp rest
          obtain ⟨_, _, _, rest⟩ := bind_eq_ok.mp rest
          obtain ⟨_, _, _, returned⟩ := bind_eq_ok.mp rest
          cases returned

theorem frame_of_paying {transfer : Transfer} {invocation : Invocation} {machine final : Machine}
    (done : paying host transfer invocation machine = .ok none final) :
    final.frame = machine.frame := by
  obtain ⟨_, _, moved, rest⟩ := bind_eq_ok.mp done
  obtain ⟨world, _, rfl⟩ := Run.onWorld_eq_ok.mp moved
  split at rest
  · rw [runPrecompile_eq_none rest]
  · cases rest
    rfl

/-- The instructions of a frame begin with the frame as it was entered. -/
theorem frame_of_startFrame {transfer : Transfer} {machine final : Machine}
    (done : startFrame host transfer machine = .ok none final) : final.frame = machine.frame := by
  cases creates : machine.frame.invocation.kind.isCreation with
  | false =>
      rw [startFrame_of_call creates] at done
      exact frame_of_paying done
  | true =>
      rw [startFrame_of_creation creates] at done
      obtain ⟨_, _, claimed, rest⟩ := bind_eq_ok.mp done
      obtain ⟨_, rfl⟩ := claimAddress_eq_ok claimed
      have same := frame_of_paying rest
      exact same

theorem startFrame_failed {transfer : Transfer} {machine final : Machine} {cause : Failure}
    (failed : startFrame host transfer machine = .error cause final)
    (settled : cause.endsMessage = false) :
    ∃ started, Starts host transfer machine started ∧ Evolves host started final := by
  cases creates : machine.frame.invocation.kind.isCreation with
  | false =>
      rw [startFrame_of_call creates] at failed
      obtain ⟨world, moves, evolved⟩ := paying_failed failed settled
      exact ⟨_, .called world creates moves, evolved⟩
  | true =>
      rw [startFrame_of_creation creates] at failed
      rcases bind_eq_error.mp failed with occupied | ⟨_, _, claimed, rest⟩
      · rw [claimAddress_failed occupied settled]
        exact ⟨machine, .refused, .refl _⟩
      obtain ⟨unused, rfl⟩ := claimAddress_eq_ok claimed
      obtain ⟨world, moves, evolved⟩ := paying_failed rest settled
      exact ⟨_, .created world creates unused moves, evolved⟩

/-- However the start of a frame fails, the frames that wait are in place and no gas was made. -/
theorem startFrame_stays {transfer : Transfer} {machine final : Machine} {cause : Failure}
    (failed : startFrame host transfer machine = .error cause final) :
    final.suspended = machine.suspended ∧ final.frame.gas.toNat ≤ machine.frame.gas.toNat := by
  cases creates : machine.frame.invocation.kind.isCreation with
  | false =>
      rw [startFrame_of_call creates] at failed
      exact paying_stays failed
  | true =>
      rw [startFrame_of_creation creates] at failed
      rcases bind_eq_error.mp failed with occupied | ⟨_, _, claimed, rest⟩
      · obtain ⟨waiting, sameFrame⟩ := claimAddress_stays occupied
        rw [sameFrame]
        exact ⟨waiting, le_refl _⟩
      obtain ⟨_, rfl⟩ := claimAddress_eq_ok claimed
      have stays := paying_stays rest
      exact stays

theorem openFrame_apply (machine : Machine) :
    openFrame host machine = .ok () (machine.opened host) := by
  unfold openFrame Run.trace Machine.opened
  cases host.isTraced <;> rfl

theorem settle_of_plain (plain : host.Plain) (outcome : Outcome) (machine : Machine) :
    settle host outcome machine = .ok outcome machine := by
  unfold settle
  simp only [plain.outcome]
  rfl

theorem close_of_ok {closing : World → Except StoreError World} {machine : Machine}
    {world : World} (closes : closing machine.world = .ok world) :
    Run.onWorld (Access.close closing) machine = .ok () { machine with world } := by
  refine Run.onWorld_eq_ok.mpr ⟨world, ?_, rfl⟩
  unfold Access.close
  rw [bind_of_ok (get_apply _)]
  simp only [closes]
  rfl

theorem close_of_error {closing : World → Except StoreError World} {machine : Machine}
    {error : StoreError} (fails : closing machine.world = .error error) :
    Run.onWorld (Access.close closing) machine = .error (.store error) machine := by
  refine Run.onWorld_eq_error.mpr ⟨error, machine.world, ?_, rfl, rfl⟩
  unfold Access.close
  rw [bind_of_ok (get_apply _)]
  simp only [fails]
  rfl

/-- The report at the end of a frame. -/
def reporting (host : Host) (outcome : Outcome) : Run Unit := do
  let frame ← Run.frame id
  Run.modifyFrame fun frame => { frame with lastWrite := none }
  if let some (key, value) := frame.lastWrite then
    Run.trace host (.updated frame.invocation.recipient key value)
  Run.trace host (.exit frame.invocation.depth outcome)

theorem reporting_apply (outcome : Outcome) (machine : Machine) :
    reporting host outcome machine = .ok () (machine.reported host outcome) := by
  unfold reporting Run.trace Machine.reported Machine.exitEvents
  rw [bind_of_ok (Run.frame_apply _ _), bind_of_ok (Run.modifyFrame_apply _ _)]
  cases written : machine.frame.lastWrite <;> cases host.isTraced <;>
    simp only [id, written] <;> rfl

theorem exitFrame_of_success {outcome : Outcome} {machine : Machine} {world : World}
    (succeeds : outcome.isSuccess = true) (commits : machine.world.commit = .ok world) :
    exitFrame host outcome machine = .ok () (.reported host outcome { machine with
      world, substate := machine.substate.commitBackup }) := by
  have closes : Run.onWorld Access.commit machine = .ok () { machine with world } :=
    close_of_ok commits
  unfold exitFrame
  simp only [if_pos succeeds]
  rw [bind_of_ok closes, bind_of_ok (Run.modifySubstate_apply _ _)]
  exact reporting_apply outcome _

theorem exitFrame_of_failure {outcome : Outcome} {machine : Machine} {world : World}
    (fails : outcome.isSuccess = false) (reverts : machine.world.revert = .ok world) :
    exitFrame host outcome machine = .ok () (.reported host outcome { machine with
      world
      substate := machine.substate.revertBackup
      warmth := machine.warmth.unwind machine.frame.warmMark }) := by
  have closes : Run.onWorld Access.revert machine = .ok () { machine with world } :=
    close_of_ok reverts
  have failing : ¬outcome.isSuccess = true := by simp [fails]
  unfold exitFrame
  simp only [if_neg failing]
  rw [bind_of_ok closes, bind_of_ok (Run.modifySubstate_apply _ _),
    bind_of_ok (Run.frame_apply _ _), bind_of_ok (Run.modifyWarmth_apply _ _)]
  exact reporting_apply outcome _

/-- A frame is closed whenever the checkpoint that it has opened is still open. -/
theorem exitFrame_closes {outcome : Outcome} {machine : Machine}
    (opened : machine.world.layers ≠ []) :
    ∃ closed, exitFrame host outcome machine = .ok () closed := by
  cases succeeds : outcome.isSuccess with
  | true =>
      obtain ⟨world, commits⟩ := World.commit_of_open opened
      exact ⟨_, exitFrame_of_success succeeds commits⟩
  | false =>
      obtain ⟨world, reverts⟩ := World.revert_of_open opened
      exact ⟨_, exitFrame_of_failure succeeds reverts⟩

theorem exitFrame_cases (host : Host) (outcome : Outcome) (machine : Machine) :
    (∃ closed, exitFrame host outcome machine = .ok () closed ∧
      Closes host outcome machine closed) ∨
    ∃ cause, exitFrame host outcome machine = .error cause machine ∧
      cause.endsMessage = true := by
  cases succeeds : outcome.isSuccess with
  | true =>
      cases commits : machine.world.commit with
      | ok world =>
          exact .inl ⟨_, exitFrame_of_success succeeds commits, .kept world succeeds commits⟩
      | error error =>
          have fails : Run.onWorld Access.commit machine = .error (.store error) machine :=
            close_of_error commits
          right
          unfold exitFrame
          simp only [if_pos succeeds]
          exact ⟨_, bind_of_error fails, rfl⟩
  | false =>
      have failing : ¬outcome.isSuccess = true := by simp [succeeds]
      cases reverts : machine.world.revert with
      | ok world =>
          exact .inl ⟨_, exitFrame_of_failure succeeds reverts, .undone world succeeds reverts⟩
      | error error =>
          have fails : Run.onWorld Access.revert machine = .error (.store error) machine :=
            close_of_error reverts
          right
          unfold exitFrame
          simp only [if_neg failing]
          exact ⟨_, bind_of_error fails, rfl⟩

/-- A frame between its opening and its closing. -/
def concluding (host : Host) (body : Run Outcome) (transfer : Transfer) : Run Outcome := do
  match ← Run.attempt (startFrame host transfer) with
  | .ok (some outcome) => pure outcome
  | .ok none => body
  | .error cause => failFrame cause

theorem concluding_of_ok {body : Run Outcome} {transfer : Transfer} {machine started : Machine}
    {shown : Option Outcome} (starts : startFrame host transfer machine = .ok shown started) :
    concluding host body transfer machine =
      match shown with
      | some outcome => .ok outcome started
      | none => body started := by
  unfold concluding
  rw [bind_of_ok (Run.attempt_of_ok starts)]
  cases shown <;> rfl

theorem concluding_of_error {body : Run Outcome} {transfer : Transfer}
    {machine started : Machine} {cause : Failure}
    (fails : startFrame host transfer machine = .error cause started) :
    concluding host body transfer machine = failFrame cause started := by
  unfold concluding
  rw [bind_of_ok (Run.attempt_of_error fails)]

theorem runFrame_of_plain (plain : host.Plain) (body : Run Outcome) (transfer : Transfer)
    (machine : Machine) :
    runFrame host body transfer machine = (do
      let outcome ← concluding host body transfer
      exitFrame host outcome
      return outcome) (machine.opened host) := by
  have settles : ∀ outcome, (do
      let outcome ← settle host outcome
      exitFrame host outcome
      return outcome) = (do
      exitFrame host outcome
      return outcome : Run Outcome) := by
    intro outcome
    funext middle
    rw [bind_of_ok (settle_of_plain plain outcome middle)]
  unfold runFrame concluding
  rw [bind_of_ok (openFrame_apply machine), bind_assoc]
  simp only [settles]
  cases attempted : Run.attempt (startFrame host transfer) (machine.opened host) with
  | error cause started => exact absurd attempted Run.attempt_ne_error
  | ok answer started =>
      rw [bind_of_ok attempted, bind_of_ok attempted]
      rcases answer with cause | _ | outcome <;> rfl

theorem concluding_eq_ok {body : Run Outcome} {transfer : Transfer} {machine final : Machine}
    {outcome : Outcome} (concludes : Concludes host body)
    (done : concluding host body transfer machine = .ok outcome final) :
    ∃ started, Starts host transfer machine started ∧ Evolves host started final ∧
      outcome.Tells final.frame ∧ (host.schedule = .cancun →
        outcome.gasRemaining.toNat ≤ machine.frame.gas.toNat) := by
  cases starts : startFrame host transfer machine with
  | ok shown middle =>
      rw [concluding_of_ok starts] at done
      obtain ⟨started, begun, evolved, spent, tells⟩ := startFrame_eq_ok starts
      cases shown with
      | some result =>
          cases done
          have telling := tells outcome rfl
          refine ⟨started, begun, evolved, telling, fun _ => ?_⟩
          rw [telling.gasRemaining]
          exact spent
      | none =>
          refine ⟨started, begun, evolved.trans (concludes.evolves done), concludes.tells done,
            fun cancun => le_trans (concludes.spends cancun done) spent⟩
  | error cause middle =>
      rw [concluding_of_error starts] at done
      have failing : Concludes host (failFrame cause) := concludes_failFrame cause
      cases ends : cause.endsMessage with
      | true =>
          rw [failFrame_of_fatal ends] at done
          cases done
      | false =>
          obtain ⟨started, begun, evolved⟩ := startFrame_failed starts ends
          exact ⟨started, begun, evolved.trans (failing.evolves done), failing.tells done,
            fun cancun => le_trans (failing.spends cancun done) (startFrame_stays starts).2⟩

theorem concluding_eq_error {body : Run Outcome} {transfer : Transfer} {machine final : Machine}
    {cause : Failure} (concludes : Concludes host body)
    (failed : concluding host body transfer machine = .error cause final) :
    cause.endsMessage = true ∧ final.suspended = machine.suspended := by
  cases starts : startFrame host transfer machine with
  | ok shown middle =>
      rw [concluding_of_ok starts] at failed
      obtain ⟨_, begun, evolved, _⟩ := startFrame_eq_ok starts
      have waiting := (begun.samePlace.trans evolved.samePlace).suspended
      cases shown with
      | some result => cases failed
      | none => exact ⟨concludes.fatal failed, (concludes.stays failed).trans waiting⟩
  | error reason middle =>
      have failing : Concludes host (failFrame reason) := concludes_failFrame reason
      rw [concluding_of_error starts] at failed
      exact ⟨failing.fatal failed, (failing.stays failed).trans (startFrame_stays starts).1⟩

theorem enters_runFrame (plain : host.Plain) {body : Run Outcome}
    (concludes : Concludes host body) : Enters host (runFrame host body) := by
  have describes : ∀ {transfer machine outcome final},
      runFrame host body transfer machine = .ok outcome final →
      FrameRuns host transfer machine outcome final ∧ (host.schedule = .cancun →
        outcome.gasRemaining.toNat ≤ machine.frame.gas.toNat) := by
    intro transfer machine outcome final done
    rw [runFrame_of_plain plain] at done
    obtain ⟨shown, ended, concluded, rest⟩ := bind_eq_ok.mp done
    obtain ⟨_, closed, exits, returned⟩ := bind_eq_ok.mp rest
    cases returned
    obtain ⟨started, starts, evolved, tells, spent⟩ := concluding_eq_ok concludes concluded
    refine ⟨?_, spent⟩
    rcases exitFrame_cases host outcome ended with ⟨left, exited, closes⟩ | ⟨_, fails, _⟩
    · rw [exited] at exits
      cases exits
      exact .intro starts evolved tells closes
    · rw [fails] at exits
      cases exits
  have fails : ∀ {transfer machine cause final},
      runFrame host body transfer machine = .error cause final →
      cause.endsMessage = true ∧ final.suspended = machine.suspended := by
    intro transfer machine cause final failed
    rw [runFrame_of_plain plain] at failed
    rcases bind_eq_error.mp failed with unfinished | ⟨shown, ended, concluded, rest⟩
    · have ends := concluding_eq_error concludes unfinished
      exact ends
    rcases bind_eq_error.mp rest with unclosed | ⟨_, _, _, returned⟩
    · obtain ⟨_, begun, evolved, _⟩ := concluding_eq_ok concludes concluded
      rcases exitFrame_cases host shown ended with ⟨left, exited, _⟩ | ⟨_, fails, fatal⟩
      · rw [exited] at unclosed
        cases unclosed
      · rw [fails] at unclosed
        cases unclosed
        have waiting := (begun.samePlace.trans evolved.samePlace).suspended
        exact ⟨fatal, waiting⟩
    · cases returned
  constructor
  case runs => exact fun done => (describes done).1
  case spends => exact fun cancun done => (describes done).2 cancun
  case fatal => exact fun failed => (fails failed).1
  case stays => exact fun failed => (fails failed).2

end Interpreter

end CancunMachine
