import Mathlib.Tactic
import CancunMachine.Transaction
import CancunMachine.Proofs.Substate
import CancunMachine.Proofs.World.Header

/-!
# Around the frames of a message

What is done before the outermost frame and after it. Preparing a message validates it, counts it on
its sender and warms addresses; nothing else changes. Finalizing it destroys accounts only after a
success.
-/

namespace CancunMachine

open Ending

theorem Outcome.verdict_of_isSuccess (outcome : Outcome) (succeeds : outcome.isSuccess = true) :
    outcome.verdict = .success := by
  unfold Outcome.isSuccess at succeeds
  split at succeeds
  · assumption
  · cases succeeds

namespace Transaction

variable {host : Host}

/-- A computation that only warms. -/
def Warms (action : Run Unit) : Prop :=
  ∀ machine, ∃ warmth, action machine = .ok () { machine with warmth }

theorem warms_pure : Warms (pure ()) := fun machine => ⟨machine.warmth, rfl⟩

theorem warms_bind {first : Run Unit} {next : Unit → Run Unit} (early : Warms first)
    (late : Warms (next ())) : Warms (first >>= next) := by
  intro machine
  obtain ⟨earlier, done⟩ := early machine
  obtain ⟨later, rest⟩ := late { machine with warmth := earlier }
  exact ⟨later, by rw [bind_of_ok done, rest]⟩

theorem warms_asking {Alpha : Type} {question : Frame → Alpha} {next : Alpha → Run Unit}
    (warms : ∀ answer, Warms (next answer)) : Warms (Run.frame question >>= next) := by
  intro machine
  rw [bind_of_ok (Run.frame_apply question machine)]
  exact warms _ machine

theorem warms_warmAddress (address : Address) : Warms (Run.warmAddress address) :=
  fun machine => ⟨machine.warmth.touchAddress address, rfl⟩

theorem warms_forM {Alpha : Type} {each : Alpha → Run Unit} (warms : ∀ item, Warms (each item))
    (items : List Alpha) : Warms (items.forM each) := by
  induction items with
  | nil => exact warms_pure
  | cons item items inductionHypothesis =>
      exact warms_bind (warms item) inductionHypothesis

theorem warms_warmEntry (entry : Address × List Word) : Warms (warmEntry entry) := by
  refine warms_bind (warms_warmAddress entry.1) (warms_forM ?_ entry.2)
  exact fun key machine => ⟨machine.warmth.touchSlot entry.1 key, rfl⟩

/-- Why a message is refused, if it is. -/
def refusal? (host : Host) (world : World) : Option MessageError :=
  if (world.balance host.message.caller).lt host.message.value then
    some (.insufficientBalance host.message.caller)
  else if host.message.isCreation && host.config.maxInitcodeSize < host.message.data.size then
    some (.initcodeSizeExceeded host.message.data.size)
  else if world.nonce host.message.caller = maxUInt64 then
    some (.nonceOverflow host.message.caller)
  else none

theorem validate_eq_ok {machine final : Machine} (done : validate host machine = .ok () final) :
    final = machine ∧ refusal? host machine.world = none := by
  unfold validate at done
  obtain ⟨balance, middle, asked, rest⟩ := bind_eq_ok.mp done
  obtain ⟨world, looked, rfl⟩ := Run.onWorld_eq_ok.mp asked
  obtain ⟨rfl, rfl⟩ := (Access.reads_balance _).shows looked
  unfold refusal?
  by_cases poor : (machine.world.balance host.message.caller).lt host.message.value = true
  · simp only [if_pos poor] at rest
    cases rest
  simp only [if_neg poor] at rest ⊢
  by_cases large :
      (host.message.isCreation && decide (host.config.maxInitcodeSize < host.message.data.size)) =
        true
  · simp only [if_pos large] at rest
    cases rest
  simp only [if_neg large] at rest ⊢
  obtain ⟨nonce, middle, asked, rest⟩ := bind_eq_ok.mp rest
  obtain ⟨world, looked, rfl⟩ := Run.onWorld_eq_ok.mp asked
  obtain ⟨rfl, rfl⟩ := (Access.reads_nonce _).shows looked
  by_cases full : machine.world.nonce host.message.caller = maxUInt64
  · simp only [if_pos full] at rest
    cases rest
  · simp only [if_neg full] at rest ⊢
    cases rest
    exact ⟨rfl, trivial⟩

/-- A store that refuses nothing leaves the decision to `refusal?`. -/
theorem validate_of_granted (granted : host.refusals = .none) (machine : Machine) :
    validate host machine =
      match refusal? host machine.world with
      | some error => .error (.invalidMessage error) machine
      | none => .ok () machine := by
  have balance : Run.onWorld (Access.readBalance host.refusals host.message.caller) machine =
      .ok (machine.world.balance host.message.caller) machine :=
    Run.onWorld_eq_ok.mpr ⟨_, (Access.reads_balance _).granted granted _, rfl⟩
  have nonce : Run.onWorld (Access.readNonce host.refusals host.message.caller) machine =
      .ok (machine.world.nonce host.message.caller) machine :=
    Run.onWorld_eq_ok.mpr ⟨_, (Access.reads_nonce _).granted granted _, rfl⟩
  unfold validate refusal?
  rw [bind_of_ok balance]
  split
  · rfl
  · simp only
    split
    · rfl
    · rw [bind_of_ok nonce]
      split <;> rfl

/-- What preparing a message leaves behind. -/
structure Prepared (host : Host) (machine ready : Machine) : Prop where
  accepted : refusal? host machine.world = none
  counted : ∃ warmth, ready = { machine with
    warmth
    world := machine.world.setNonce host.message.caller
      (machine.world.nonce host.message.caller + 1) }

/-- The addresses that a message warms. -/
def warmMessage (host : Host) : Run Unit := do
  Run.warmAddress host.environment.origin
  Run.warmAddress host.message.caller
  Run.warmAddress (← Run.frame (·.invocation.recipient))
  Run.warmAddress host.environment.coinbase
  host.message.accessList.forM warmEntry

theorem warms_warmMessage : Warms (warmMessage host) := by
  apply warms_bind (warms_warmAddress _)
  apply warms_bind (warms_warmAddress _)
  apply warms_asking
  intro recipient
  apply warms_bind (warms_warmAddress _)
  apply warms_bind (warms_warmAddress _)
  exact warms_forM warms_warmEntry _

theorem prepareSettlement_of_begin {machine : Machine} (begins : machine.warmth.begin = .ok ()) :
    prepareSettlement host machine = (do
      validate host
      let _ ← Run.onWorld (Access.incrementNonce host.refusals host.message.caller)
      warmMessage host) { machine with warmth := machine.warmth.setAlways host.policy.alwaysWarm } := by
  unfold prepareSettlement
  rw [bind_of_ok (get_apply machine)]
  simp only [begins]
  rfl

theorem prepareSettlement_eq_ok {machine ready : Machine}
    (done : prepareSettlement host machine = .ok () ready) : Prepared host machine ready := by
  cases begins : machine.warmth.begin with
  | error error =>
      unfold prepareSettlement at done
      rw [bind_of_ok (get_apply machine)] at done
      simp only [begins] at done
      cases done
  | ok nothing =>
      rw [prepareSettlement_of_begin begins] at done
      obtain ⟨_, valid, validated, rest⟩ := bind_eq_ok.mp done
      obtain ⟨rfl, accepted⟩ := validate_eq_ok validated
      obtain ⟨nonce, raised, counted, warming⟩ := bind_eq_ok.mp rest
      obtain ⟨world, incremented, rfl⟩ := Run.onWorld_eq_ok.mp counted
      obtain ⟨rfl, _, rfl⟩ := Access.incrementNonce_eq_ok incremented
      refine ⟨accepted, ?_⟩
      obtain ⟨warmth, warmed⟩ := warms_warmMessage _
      rw [warmed] at warming
      cases warming
      exact ⟨warmth, rfl⟩

theorem prepareSettlement_of_refusal (granted : host.refusals = .none) {machine : Machine}
    {error : MessageError} (begins : machine.warmth.begin = .ok ())
    (refused : refusal? host machine.world = some error) :
    ∃ final, prepareSettlement host machine = .error (.invalidMessage error) final := by
  have validated := validate_of_granted granted
    { machine with warmth := machine.warmth.setAlways host.policy.alwaysWarm }
  simp only [refused] at validated
  rw [prepareSettlement_of_begin begins]
  exact ⟨_, bind_of_error validated⟩

theorem nonce_ne_max_of_accepted {world : World} (accepted : refusal? host world = none) :
    world.nonce host.message.caller ≠ maxUInt64 := by
  intro full
  unfold refusal? at accepted
  rw [if_pos full] at accepted
  split at accepted
  · cases accepted
  · split at accepted <;> cases accepted

theorem balance_of_accepted {world : World} (accepted : refusal? host world = none) :
    (world.balance host.message.caller).lt host.message.value = false := by
  unfold refusal? at accepted
  split at accepted
  · cases accepted
  · rename_i affordable
    exact Bool.eq_false_iff.mpr affordable

/-- Nothing but the message itself keeps a message from being prepared. -/
theorem prepareSettlement_of_accepted (granted : host.refusals = .none) {machine : Machine}
    (begins : machine.warmth.begin = .ok ()) (accepted : refusal? host machine.world = none) :
    ∃ ready, prepareSettlement host machine = .ok () ready := by
  let begun : Machine :=
    { machine with warmth := machine.warmth.setAlways host.policy.alwaysWarm }
  have validated : validate host begun = .ok () begun := by
    rw [validate_of_granted granted begun]
    simp only [begun, accepted]
  have incremented :=
    Access.incrementNonce_of_granted granted (nonce_ne_max_of_accepted accepted)
  have counted : Run.onWorld (Access.incrementNonce host.refusals host.message.caller) begun = _ :=
    Run.onWorld_eq_ok.mpr ⟨_, incremented, rfl⟩
  rw [prepareSettlement_of_begin begins, bind_of_ok validated, bind_of_ok counted]
  obtain ⟨warmth, warmed⟩ := warms_warmMessage _
  exact ⟨_, warmed⟩

/-- What all collaborators do before a message. -/
def prepareAll (host : Host) : Run Unit := host.hooks.forM (prepare host)

theorem prepareAll_of_hooks (hooks : host.hooks = [.settlement]) :
    prepareAll host = prepareSettlement host := by
  unfold prepareAll
  rw [hooks]
  simp [List.forM, prepare]

theorem frame_of_prepare {hook : Hook} {machine ready : Machine}
    (done : prepare host hook machine = .ok () ready) :
    ready.frame = machine.frame ∧ ready.suspended = machine.suspended := by
  cases hook with
  | settlement =>
      obtain ⟨warmth, rfl⟩ := (prepareSettlement_eq_ok done).counted
      exact ⟨rfl, rfl⟩
  | recorder =>
      cases done
      exact ⟨rfl, rfl⟩

/-- No collaborator touches the outermost frame before it runs. -/
theorem frame_of_prepareAll {machine ready : Machine}
    (done : prepareAll host machine = .ok () ready) :
    ready.frame = machine.frame ∧ ready.suspended = machine.suspended := by
  unfold prepareAll at done
  generalize host.hooks = hooks at done
  induction hooks generalizing machine with
  | nil =>
      cases done
      exact ⟨rfl, rfl⟩
  | cons hook hooks inductionHypothesis =>
      obtain ⟨_, middle, first, rest⟩ := bind_eq_ok.mp done
      obtain ⟨frame, suspended⟩ := frame_of_prepare first
      obtain ⟨frameLater, suspendedLater⟩ := inductionHypothesis rest
      exact ⟨frameLater.trans frame, suspendedLater.trans suspended⟩

/-- Execution with the usual collaborator alone. -/
theorem execute_of_hooks (hooks : host.hooks = [.settlement]) :
    execute host = (do
      prepareSettlement host
      let recipient ← Run.frame (·.invocation.recipient)
      let outcome ←
        Interpreter.runOutermost host ⟨host.message.caller, recipient, host.message.value⟩
      let outcome ← finalizeSettlement host outcome
      report host outcome) := by
  unfold execute
  rw [hooks]
  simp [List.forM, List.foldlM, prepare, finalize]

/-- How the accounts to be destroyed go. -/
def destroyAll (host : Host) (outcome : Outcome) : Run Unit := do
  if outcome.isSuccess then
    (← get).substate.destroyedAddresses.forM fun address =>
      Run.onWorld (Access.destroy host.refusals address)

/-- What is done after the accounts are destroyed. -/
def payRefund (outcome : Outcome) : Run Outcome := do
  let refund := cappedRefund (← get).substate.refund outcome.gasUsed
  Run.modifySubstate (·.setRefund refund)
  Run.modifyWarmth (·.finish)
  Run.onWorld Access.finalize
  return { outcome with gasUsed := subSaturating outcome.gasUsed (UInt64.ofNat refund) }

theorem finalizeSettlement_eq (outcome : Outcome) :
    finalizeSettlement host outcome = destroyAll host outcome >>= fun _ => payRefund outcome := by
  unfold finalizeSettlement destroyAll
  split
  · rw [bind_assoc]
    rfl
  · rfl

theorem payRefund_apply (outcome : Outcome) (machine : Machine) :
    payRefund outcome machine =
      .ok { outcome with
          gasUsed := subSaturating outcome.gasUsed
            (UInt64.ofNat (cappedRefund machine.substate.refund outcome.gasUsed)) }
        { machine with
          substate := machine.substate.setRefund
            (cappedRefund machine.substate.refund outcome.gasUsed)
          warmth := machine.warmth.finish
          world := machine.world.finalize } := rfl

/-- A failed message destroys nothing. -/
theorem destroyAll_of_failure {outcome : Outcome} (failed : outcome.isSuccess = false)
    (machine : Machine) : destroyAll host outcome machine = .ok () machine := by
  unfold destroyAll
  rw [if_neg (Bool.eq_false_iff.mp failed)]
  rfl

theorem report_apply (outcome : Outcome) (machine : Machine) :
    report host outcome machine = .ok {
      verdict := outcome.verdict
      gasUsed := outcome.gasUsed
      gasRefunded := machine.substate.refund.toNat
      output := outcome.output
      logs := if outcome.isSuccess then machine.substate.logs else []
      createdAddress :=
        if outcome.isSuccess && host.message.isCreation then
          some machine.frame.invocation.recipient
        else none } machine := rfl

/-- What the sender of a message gives to its recipient. -/
def payment (host : Host) (machine : Machine) : Transfer :=
  ⟨host.message.caller, machine.frame.invocation.recipient, host.message.value⟩

theorem destroy_forM_eq_ok {addresses : List Address} {machine final : Machine}
    (done : addresses.forM (fun address => Run.onWorld (Access.destroy host.refusals address))
      machine = .ok () final) :
    final = { machine with world := addresses.foldl World.destroy machine.world } := by
  induction addresses generalizing machine with
  | nil =>
      cases done
      rfl
  | cons address addresses inductionHypothesis =>
      obtain ⟨_, middle, destroyed, rest⟩ := bind_eq_ok.mp done
      obtain ⟨world, changed, rfl⟩ := Run.onWorld_eq_ok.mp destroyed
      cases (Access.writes_destroy address).changes changed
      rw [inductionHypothesis rest]
      rfl

/-- The world after the accounts of a message that are to be destroyed have gone. -/
def destroyedWorld (outcome : Outcome) (machine : Machine) : World :=
  if outcome.isSuccess then machine.substate.destroyedAddresses.foldl World.destroy machine.world
  else machine.world

theorem destroyAll_eq_ok {outcome : Outcome} {machine final : Machine}
    (done : destroyAll host outcome machine = .ok () final) :
    final = { machine with world := destroyedWorld outcome machine } := by
  unfold destroyedWorld
  cases succeeds : outcome.isSuccess with
  | false =>
      rw [destroyAll_of_failure succeeds] at done
      cases done
      rfl
  | true =>
      unfold destroyAll at done
      simp only [if_pos succeeds] at done
      rw [bind_of_ok (get_apply machine)] at done
      exact destroy_forM_eq_ok done

/-- How a message gets its report: it is prepared, its outermost frame runs, and what the frame
leaves is settled. -/
structure Settles (host : Host) (machine ready ended : Machine) (outcome : Outcome)
    (report : Report) (final : Machine) : Prop where
  prepares : prepareSettlement host machine = .ok () ready
  runs : Interpreter.runOutermost host (payment host ready) ready = .ok outcome ended
  verdict : report.verdict = outcome.verdict
  gasRefunded : report.gasRefunded = cappedRefund ended.substate.refund outcome.gasUsed
  gasUsed : report.gasUsed = subSaturating outcome.gasUsed (UInt64.ofNat report.gasRefunded)
  logs : report.logs = if outcome.isSuccess then ended.substate.logs else []
  createdAddress : report.createdAddress =
    if outcome.isSuccess && host.message.isCreation then some ended.frame.invocation.recipient
    else none
  world : final.world = (destroyedWorld outcome ended).finalize
  substate : final.substate = ended.substate.setRefund report.gasRefunded

theorem execute_eq_ok (hooks : host.hooks = [.settlement]) {machine final : Machine}
    {report : Report} (done : execute host machine = .ok report final) :
    ∃ ready ended outcome, Settles host machine ready ended outcome report final := by
  rw [execute_of_hooks hooks] at done
  obtain ⟨_, ready, prepared, rest⟩ := bind_eq_ok.mp done
  rw [bind_of_ok (Run.frame_apply _ _)] at rest
  obtain ⟨outcome, ended, ran, rest⟩ := bind_eq_ok.mp rest
  rw [finalizeSettlement_eq, bind_assoc] at rest
  obtain ⟨_, destroyed, destroys, rest⟩ := bind_eq_ok.mp rest
  cases destroyAll_eq_ok destroys
  rw [bind_of_ok (payRefund_apply _ _), report_apply] at rest
  cases rest
  have logs := Substate.logs_setRefund ended.substate
    (cappedRefund ended.substate.refund outcome.gasUsed)
  refine ⟨ready, ended, outcome, ⟨prepared, ran, rfl, rfl, rfl, ?_, rfl, rfl, rfl⟩⟩
  rw [← logs]
  rfl

/-- A machine in which nothing has happened yet. -/
structure Booted (host : Host) (world : World) (machine : Machine) : Prop where
  world : machine.world = world
  substate : machine.substate = .empty
  warmth : machine.warmth = .empty
  suspended : machine.suspended = []
  fresh : machine.frame =
    .start machine.frame.invocation machine.frame.program .empty .empty
  gasLimit : machine.frame.invocation.gasLimit = host.message.gasLimit

theorem outermost_eq_ok {world final : World} {invocation : Invocation} {code : ByteArray}
    (done : outermost host world = .ok (invocation, code) final) :
    final = world ∧ invocation.gasLimit = host.message.gasLimit := by
  unfold outermost at done
  cases destination : host.message.destination with
  | account address =>
      simp only [destination] at done
      obtain ⟨_, _, asked, returned⟩ := bind_eq_ok.mp done
      cases returned
      exact ⟨((Access.reads_code address).shows asked).2, rfl⟩
  | creation =>
      simp only [destination] at done
      obtain ⟨_, _, asked, returned⟩ := bind_eq_ok.mp done
      cases returned
      exact ⟨((Access.reads_nonce host.message.caller).shows asked).2, rfl⟩

theorem boot_eq_ok {world : World} {cache : Cache} {machine : Machine}
    (booted : boot host world cache = .ok machine) : Booted host world machine := by
  unfold boot at booted
  split at booted
  · cases booted
  · rename_i invocation code final read
    obtain ⟨rfl, gasLimit⟩ := outermost_eq_ok read
    cases booted
    exact ⟨rfl, rfl, rfl, rfl, rfl, gasLimit⟩

/-- What a report and the machine after it show, if there is a report. -/
def shown? {Alpha : Type} (host : Host) (world : World) (question : Report → Machine → Alpha) :
    Option Alpha :=
  match boot host world default with
  | .error _ => none
  | .ok machine =>
      match execute host machine with
      | .error _ _ => none
      | .ok report final => some (question report final)

theorem shown?_eq_some {Alpha : Type} {world : World} {question : Report → Machine → Alpha}
    {answer : Alpha} (shown : shown? host world question = some answer) :
    ∃ machine report final, boot host world default = .ok machine ∧
      execute host machine = .ok report final ∧ question report final = answer := by
  unfold shown? at shown
  split at shown
  · cases shown
  · rename_i machine booted
    split at shown
    · cases shown
    · rename_i report final done
      cases shown
      exact ⟨machine, report, final, booted, done, rfl⟩

/-- The verdict on a message, if there is a report of it. -/
def verdict? (host : Host) (world : World) : Option Verdict :=
  shown? host world fun report _ => report.verdict

theorem verdict?_eq_some {world : World} {verdict : Verdict}
    (shown : verdict? host world = some verdict) :
    ∃ machine report final, boot host world default = .ok machine ∧
      execute host machine = .ok report final ∧ report.verdict = verdict :=
  shown?_eq_some shown

end Transaction

end CancunMachine
