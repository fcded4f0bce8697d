import Mathlib.Tactic
import CancunMachine.Proofs.Rollback
import CancunMachine.Proofs.Settlement
import CancunMachine.Proofs.Termination
import CancunMachine.Proofs.World.Supply

/-!
# Execution never gets stuck

Every failure that would end a message is excluded by an invariant of its own: transfers by the
supply of value, the end of a frame by the layer it has opened, the gas of a child by what its
parent paid, the step budget by the weight of the frame. Together they leave only the refusal of a
message before its first frame.
-/

namespace CancunMachine

open Ending

variable {host : Host} {transfer : Transfer} {outcome : Outcome}

theorem Act.funded {machine final : Machine} (act : Act host machine final)
    (funded : machine.world.Funded) : final.world.Funded := by
  cases act with
  | compute | warm | report | cache | pool | writeTransient | refund | log => exact funded
  | writeSlot key value =>
      exact funded.of_balance fun other => World.balance_setSlot _ _ other key value
  | raiseNonce => exact funded.of_balance fun other => World.balance_setNonce _ _ other _
  | bequeath _ _ _ moves => exact funded.moves moves
  | destroy =>
      apply funded.of_le
      intro other
      rw [World.balance_setBalance]
      split
      · exact Nat.zero_le _
      · exact le_refl _
  | deposit code => exact funded.of_balance fun other => World.balance_setCode _ _ other code

theorem Starts.funded {machine started : Machine} (starts : Starts host transfer machine started)
    (funded : machine.world.Funded) : started.world.Funded := by
  cases starts with
  | refused => exact funded
  | called world _ moves => exact funded.moves moves
  | created world _ _ moves =>
      have counted : (machine.world.setNonce machine.frame.invocation.recipient 1).Funded :=
        funded.of_balance fun other => World.balance_setNonce _ _ other _
      exact counted.moves moves

/-- After a failed frame the balances are those before it, after a successful one its own. -/
theorem Closes.funded {machine ended closed : Machine} (closes : Closes host outcome ended closed)
    (course : (machine.opened host).Reversible ended)
    (mark : ended.frame.warmMark = machine.warmth.size) (before : machine.world.Funded)
    (after : ended.world.Funded) : closed.world.Funded := by
  cases succeeded : outcome.isSuccess with
  | false =>
      have restored := closes.restored course mark succeeded
      exact before.of_balance (World.looksLike_of_view restored.world.view).balance
  | true =>
      cases closes with
      | undone world failed =>
          rw [succeeded] at failed
          cases failed
      | kept world _ commits =>
          exact after.of_balance (World.looksLike_of_view (World.view_of_commit commits)).balance

/-- Whatever a frame and its children do, the balances together fit in a word. -/
theorem Evolves.funded {machine final : Machine} (evolves : Evolves host machine final)
    (funded : machine.world.Funded) : final.world.Funded := by
  induction evolves with
  | refl => exact funded
  | act _ acted inductionHypothesis => exact acted.funded (inductionHypothesis funded)
  | @child start middle started ended closed entry outcome before _ starts course _ closes
      earlier childFunded =>
      have before := earlier funded
      have during : (middle.entering entry.child).world.Funded := before
      exact closes.funded (starts.reversible.trans course.reversible)
        (warmMark_of_course starts course) during (childFunded (starts.funded before))

/-- A host at the prices of the Cancun fork that leaves frames alone, whose store refuses nothing
and whose native contracts settle their failures. -/
structure Host.Sound (host : Host) : Prop where
  plain : host.Plain
  cancun : host.schedule = .cancun
  granted : host.refusals = .none
  tame : Interpreter.TamePrecompiles host

namespace Interpreter

/-- The value of a transfer is there. -/
def Affordable (transfer : Transfer) (world : World) : Prop :=
  transfer.value.isZero = true ∨ (world.balance transfer.source).lt transfer.value = false

theorem moves_of_affordable {world : World} (funded : world.Funded)
    (affordable : Affordable transfer world) :
    ∃ final, World.Moves transfer.source transfer.target transfer.value world final := by
  rcases affordable with zero | enough
  · exact ⟨world, .nothing zero⟩
  · exact funded.solvent _ _ _ enough

theorem paying_settles (sound : host.Sound) {invocation : Invocation} {machine final : Machine}
    {cause : Failure} (funded : machine.world.Funded)
    (affordable : Affordable transfer machine.world)
    (failed : paying host transfer invocation machine = .error cause final) :
    cause.endsMessage = false := by
  have serves : Orderly host (fun _ => True) True _ _ _ _ := orderly_serving invocation
  obtain ⟨world, moves⟩ := moves_of_affordable funded affordable
  have moved := Run.onWorld_eq_ok.mpr
    ⟨world, Access.transfer_of_granted sound.granted moves, rfl⟩
  unfold paying at failed
  rw [bind_of_ok moved] at failed
  exact serves.settles sound.tame trivial failed sound.granted

theorem claimAddress_settles (granted : host.refusals = .none) {address : Address}
    {machine final : Machine} {cause : Failure}
    (failed : claimAddress host address machine = .error cause final) :
    cause.endsMessage = false := by
  have looked := Run.onWorld_eq_ok.mpr
    ⟨_, (Access.reads_account address).granted granted machine.world, rfl⟩
  have claims : (do
      Run.onWorld (Access.writeNonce host.refusals address 1)
      Run.modifySubstate (·.addCreated address)) machine ≠ .error cause final := by
    have wrote := Run.onWorld_eq_ok.mpr
      ⟨_, (Access.writes_nonce address 1).granted granted machine.world, rfl⟩
    intro refused
    rw [bind_of_ok wrote] at refused
    cases refused
  unfold claimAddress at failed
  rw [bind_of_ok looked] at failed
  cases holder : machine.world.account? address with
  | none =>
      simp only [holder] at failed
      exact absurd failed claims
  | some account =>
      simp only [holder] at failed
      by_cases used : (account.hasCode || decide (account.nonce ≠ 0)) = true
      · simp only [if_pos used] at failed
        cases failed
        rfl
      · simp only [if_neg used] at failed
        exact absurd failed claims

theorem startFrame_settles (sound : host.Sound) {machine final : Machine} {cause : Failure}
    (funded : machine.world.Funded) (affordable : Affordable transfer machine.world)
    (failed : startFrame host transfer machine = .error cause final) :
    cause.endsMessage = false := by
  cases creates : machine.frame.invocation.kind.isCreation with
  | false =>
      rw [startFrame_of_call creates] at failed
      exact paying_settles sound funded affordable failed
  | true =>
      rw [startFrame_of_creation creates] at failed
      rcases bind_eq_error.mp failed with unclaimed | ⟨_, _, claimed, rest⟩
      · exact claimAddress_settles sound.granted unclaimed
      obtain ⟨_, rfl⟩ := claimAddress_eq_ok claimed
      refine paying_settles sound ?_ ?_ rest
      · exact funded.of_balance fun other => World.balance_setNonce _ _ other _
      · unfold Affordable
        rw [World.balance_setNonce]
        exact affordable

theorem failFrame_returns (host : Host) {cause : Failure} (settled : cause.endsMessage = false)
    (machine : Machine) : ∃ outcome final, failFrame cause machine = .ok outcome final := by
  obtain ⟨outcome, final, returns, _⟩ := failFrame_of_settled host settled machine
  exact ⟨outcome, final, returns⟩

theorem stopFrame_returns (granted : host.refusals = .none) (machine : Machine) :
    ∃ outcome final, stopFrame host machine = .ok outcome final := by
  cases creates : machine.frame.invocation.kind.isCreation with
  | false => exact ⟨_, _, stopFrame_of_call creates⟩
  | true =>
      have deposits : Orderly host (fun invocation => invocation.kind.isCreation = true) False True
          0 0 (depositCode host) := orderly_depositCode fun _ holds => holds
      cases deposited : depositCode host machine with
      | ok _ final => exact ⟨_, _, stopFrame_of_deposit creates deposited⟩
      | error cause final =>
          rw [stopFrame_of_refusal creates deposited]
          exact failFrame_returns host (deposits.settles trivial creates deposited granted) final

/-- A frame returns if its instructions do. -/
theorem runFrame_returns (sound : host.Sound) {body : Run Outcome} {machine : Machine}
    (concludes : Concludes host body) (funded : machine.world.Funded)
    (affordable : Affordable transfer machine.world)
    (returns : ∀ {started}, startFrame host transfer (machine.opened host) = .ok none started →
      started.world.Funded → ∃ outcome final, body started = .ok outcome final) :
    ∃ outcome final, runFrame host body transfer machine = .ok outcome final := by
  have concluded : ∃ outcome ended,
      concluding host body transfer (machine.opened host) = .ok outcome ended := by
    cases starts : startFrame host transfer (machine.opened host) with
    | error cause started =>
        have opened : (machine.opened host).world.Funded := funded
        rw [concluding_of_error starts]
        exact failFrame_returns host (startFrame_settles sound opened affordable starts) started
    | ok shown started =>
        rw [concluding_of_ok starts]
        cases shown with
        | some outcome => exact ⟨outcome, started, rfl⟩
        | none =>
            obtain ⟨first, begins, evolved, _⟩ := startFrame_eq_ok starts
            exact returns starts (evolved.funded (begins.funded funded))
  obtain ⟨outcome, ended, concluded⟩ := concluded
  obtain ⟨started, starts, course, _⟩ := concluding_eq_ok concludes concluded
  have unclosed : ended.world.layers ≠ [] := by
    obtain ⟨records, layers, _⟩ := (starts.reversible.trans course.reversible).world.layer
    rw [layers]
    exact List.cons_ne_nil _ _
  obtain ⟨closed, exits⟩ := exitFrame_closes unclosed
  refine ⟨outcome, closed, ?_⟩
  rw [runFrame_of_plain sound.plain, bind_of_ok concluded, bind_of_ok exits]
  rfl

/-- With enough budget the instructions of a frame come to an end, and so do those of every frame
below it. -/
theorem run_returns (sound : host.Sound) {budget : Nat} {machine : Machine}
    (funded : machine.world.Funded) (enough : machine.frame.weight < budget) :
    ∃ outcome final, run host budget machine = .ok outcome final := by
  induction budget generalizing machine with
  | zero => omega
  | succ budget inductionHypothesis =>
      have concludes := concludes_run sound.plain budget
      have enters := enters_runFrame sound.plain concludes
      have behaves := Instruction.execute_behaves sound.plain enters machine.nextOpcode
      have fetched : machine.fetched.world.Funded := funded
      have children : ∀ {entry ready},
          Instruction.preparation host machine.nextOpcode machine.fetched = .ok (some entry) ready →
          ∃ outcome closed, runFrame host (run host budget) entry.transfer
            (ready.entering entry.child) = .ok outcome closed := by
        intro entry ready prepares
        obtain ⟨evolved, prepared⟩ := Instruction.preparation_eq_some prepares
        have entered : (ready.entering entry.child).world.Funded := evolved.funded fetched
        apply runFrame_returns sound concludes entered prepared.legal.affordable
        intro started starts startedFunded
        have weight := weight_of_child prepared starts
        have paid := prepared.gas sound.cancun
        rw [Machine.gas_fetched] at paid
        apply inductionHypothesis startedFunded
        unfold Frame.weight at enough
        omega
      rw [run_succ]
      cases ended : Instruction.execute host (runFrame host (run host budget)) machine.nextOpcode
          machine.fetched with
      | error cause next =>
          exact failFrame_returns host (Instruction.execute_settles sound.plain enters sound.cancun
            sound.granted fetched.solvent children ended) next
      | ok signal next =>
          cases signal with
          | stop => exact stopFrame_returns sound.granted next
          | proceed =>
              have advanced := behaves.advances sound.cancun ended
              rw [Machine.weight_fetched] at advanced
              apply inductionHypothesis ((behaves.evolves ended).funded fetched)
              omega

theorem runOutermost_returns (sound : host.Sound) {machine : Machine}
    (funded : machine.world.Funded) (affordable : Affordable transfer machine.world) :
    ∃ outcome final, runOutermost host transfer machine = .ok outcome final := by
  apply runFrame_returns sound (concludes_runInstructions sound.plain) funded affordable
  intro started starts startedFunded
  rw [runInstructions_apply]
  exact run_returns sound startedFunded (weight_lt_stepBudget started.frame)

theorem tamePrecompiles_of_standard (standard : host.overrides.precompiles = Precompile.standard) :
    TamePrecompiles host := by
  intro address input gas failure served
  rw [standard] at served
  unfold Precompile.standard Precompile.identity at served
  split at served
  · injection served with answer
    split at answer
    · cases answer
      rfl
    · split at answer
      · cases answer
        rfl
      · cases answer
  · cases served

end Interpreter

theorem Host.sound_of_standard (cancun : host.schedule = .cancun)
    (overrides : host.overrides = .none) (granted : host.refusals = .none) : host.Sound where
  plain := by
    constructor <;> rw [overrides] <;> rfl
  cancun := cancun
  granted := granted
  tame := by
    apply Interpreter.tamePrecompiles_of_standard
    rw [overrides]
    rfl

namespace Transaction

theorem boot_of_granted (granted : host.refusals = .none) (world : World) (cache : Cache) :
    ∃ machine, boot host world cache = .ok machine := by
  have read : ∃ invocation code, outermost host world = .ok (invocation, code) world := by
    unfold outermost
    cases host.message.destination with
    | account address =>
        exact ⟨_, _, bind_of_ok ((Access.reads_code address).granted granted world)⟩
    | creation =>
        exact ⟨_, _, bind_of_ok ((Access.reads_nonce host.message.caller).granted granted world)⟩
  obtain ⟨invocation, code, done⟩ := read
  unfold boot
  rw [done]
  exact ⟨_, rfl⟩

theorem destroyAll_returns (granted : host.refusals = .none) (outcome : Outcome)
    (machine : Machine) : ∃ final, destroyAll host outcome machine = .ok () final := by
  have each : ∀ (addresses : List Address) (machine : Machine), ∃ final,
      addresses.forM (fun address => Run.onWorld (Access.destroy host.refusals address)) machine =
        .ok () final := by
    intro addresses
    induction addresses with
    | nil => exact fun machine => ⟨machine, rfl⟩
    | cons address addresses inductionHypothesis =>
        intro machine
        have destroyed := Run.onWorld_eq_ok.mpr
          ⟨_, (Access.writes_destroy address).granted granted machine.world, rfl⟩
        obtain ⟨final, rest⟩ := inductionHypothesis
          { machine with world := machine.world.destroy address }
        refine ⟨final, ?_⟩
        exact (bind_of_ok destroyed).trans rest
  unfold destroyAll
  split
  · rw [bind_of_ok (get_apply machine)]
    exact each _ machine
  · exact ⟨machine, rfl⟩

theorem execute_of_refusal (hooks : host.hooks = [.settlement]) (granted : host.refusals = .none)
    {machine : Machine} {error : MessageError} (begins : machine.warmth.begin = .ok ())
    (refused : refusal? host machine.world = some error) :
    ∃ final, execute host machine = .error (.invalidMessage error) final := by
  obtain ⟨final, failed⟩ := prepareSettlement_of_refusal granted begins refused
  rw [execute_of_hooks hooks]
  exact ⟨final, bind_of_error failed⟩

theorem execute_of_accepted (sound : host.Sound) (hooks : host.hooks = [.settlement])
    {machine : Machine} (begins : machine.warmth.begin = .ok ()) (funded : machine.world.Funded)
    (accepted : refusal? host machine.world = none) :
    ∃ report final, execute host machine = .ok report final := by
  obtain ⟨ready, prepares⟩ := prepareSettlement_of_accepted sound.granted begins accepted
  obtain ⟨_, warmth, same⟩ := prepareSettlement_eq_ok prepares
  have counted : ready.world.Funded := by
    rw [same]
    exact funded.of_balance fun other => World.balance_setNonce _ _ other _
  have affordable : Interpreter.Affordable
      ⟨host.message.caller, ready.frame.invocation.recipient, host.message.value⟩ ready.world := by
    right
    rw [same, World.balance_setNonce]
    exact balance_of_accepted accepted
  obtain ⟨outcome, ended, ran⟩ := Interpreter.runOutermost_returns sound counted affordable
  obtain ⟨destroyed, destroys⟩ := destroyAll_returns sound.granted outcome ended
  rw [execute_of_hooks hooks, bind_of_ok prepares, bind_of_ok (Run.frame_apply _ _),
    bind_of_ok ran, finalizeSettlement_eq, bind_assoc, bind_of_ok destroys,
    bind_of_ok (payRefund_apply _ _), report_apply]
  exact ⟨_, _, rfl⟩

/-- A message is refused for the reason that `refusal?` gives, and for no other. -/
theorem execute_refuses_iff (sound : host.Sound) (hooks : host.hooks = [.settlement])
    {machine : Machine} (begins : machine.warmth.begin = .ok ()) (funded : machine.world.Funded)
    (error : MessageError) :
    (∃ final, execute host machine = .error (.invalidMessage error) final) ↔
      refusal? host machine.world = some error := by
  constructor
  · rintro ⟨final, failed⟩
    cases refused : refusal? host machine.world with
    | none =>
        obtain ⟨report, ended, done⟩ := execute_of_accepted sound hooks begins funded refused
        rw [done] at failed
        cases failed
    | some shown =>
        obtain ⟨ended, same⟩ := execute_of_refusal hooks sound.granted begins refused
        rw [same] at failed
        cases failed
        rfl
  · exact execute_of_refusal hooks sound.granted begins

/-- The sender cannot pay the value of the message. -/
def Poor (host : Host) (world : World) : Prop :=
  (world.balance host.message.caller).toNat < host.message.value.toNat

/-- The message creates a contract from too much initcode. -/
def Oversized (host : Host) : Prop :=
  host.message.isCreation = true ∧ host.config.maxInitcodeSize < host.message.data.size

theorem oversized_iff : Oversized host ↔
    (host.message.isCreation && decide (host.config.maxInitcodeSize < host.message.data.size)) =
      true := by
  simp [Oversized]

theorem refusal?_of_poor {world : World} (poor : Poor host world) :
    refusal? host world = some (.insufficientBalance host.message.caller) :=
  if_pos (Word.lt_iff.mpr poor)

theorem refusal?_of_oversized {world : World} (funded : ¬Poor host world)
    (oversized : Oversized host) :
    refusal? host world = some (.initcodeSizeExceeded host.message.data.size) := by
  unfold refusal?
  rw [if_neg fun poor => funded (Word.lt_iff.mp poor), if_pos (oversized_iff.mp oversized)]

theorem refusal?_of_valid {world : World} (funded : ¬Poor host world)
    (small : ¬Oversized host) :
    refusal? host world =
      if world.nonce host.message.caller = maxUInt64 then
        some (.nonceOverflow host.message.caller)
      else none := by
  unfold refusal?
  rw [if_neg fun poor => funded (Word.lt_iff.mp poor),
    if_neg fun oversized => small (oversized_iff.mpr oversized)]

theorem refusal?_eq_insufficientBalance_iff {world : World} :
    refusal? host world = some (.insufficientBalance host.message.caller) ↔ Poor host world := by
  constructor
  · intro refused
    by_contra funded
    by_cases oversized : Oversized host
    · rw [refusal?_of_oversized funded oversized] at refused
      cases refused
    · rw [refusal?_of_valid funded oversized] at refused
      split at refused <;> cases refused
  · exact refusal?_of_poor

theorem refusal?_eq_initcodeSizeExceeded_iff {world : World} (funded : ¬Poor host world) :
    refusal? host world = some (.initcodeSizeExceeded host.message.data.size) ↔
      Oversized host := by
  constructor
  · intro refused
    by_contra small
    rw [refusal?_of_valid funded small] at refused
    split at refused <;> cases refused
  · exact refusal?_of_oversized funded

theorem refusal?_eq_nonceOverflow_iff {world : World} (funded : ¬Poor host world)
    (small : ¬Oversized host) :
    refusal? host world = some (.nonceOverflow host.message.caller) ↔
      world.nonce host.message.caller = maxUInt64 := by
  rw [refusal?_of_valid funded small]
  split <;> simp_all

end Transaction

/-- Execution never gets stuck: a message on a world whose balances fit in a word is executed or
refused, and it is refused for exactly three reasons, of which the first that applies is given. -/
theorem execution_never_gets_stuck (host : Host) (cancun : host.schedule = .cancun)
    (hooks : host.hooks = [.settlement]) (overrides : host.overrides = .none)
    (granted : host.refusals = .none) (world : World) (fits : world.supply < 2 ^ 256)
    (cache : Cache) :
    ∃ machine, Transaction.boot host world cache = .ok machine ∧
      ((∃ report final, Transaction.execute host machine = .ok report final) ∨
        ∃ error final, Transaction.execute host machine = .error (.invalidMessage error) final) ∧
      ((∃ final, Transaction.execute host machine =
          .error (.invalidMessage (.insufficientBalance host.message.caller)) final) ↔
        Transaction.Poor host world) ∧
      (¬Transaction.Poor host world → ((∃ final, Transaction.execute host machine =
          .error (.invalidMessage (.initcodeSizeExceeded host.message.data.size)) final) ↔
        Transaction.Oversized host)) ∧
      (¬Transaction.Poor host world → ¬Transaction.Oversized host →
        ((∃ final, Transaction.execute host machine =
            .error (.invalidMessage (.nonceOverflow host.message.caller)) final) ↔
          world.nonce host.message.caller = maxUInt64)) := by
  have sound := Host.sound_of_standard cancun overrides granted
  obtain ⟨machine, booted⟩ := Transaction.boot_of_granted granted world cache
  obtain ⟨rfl, -, warmth, -⟩ := Transaction.boot_eq_ok booted
  have begins : machine.warmth.begin = .ok () := warmth ▸ Warmth.begin_empty
  have funded : machine.world.Funded := World.funded_of_supply fits
  have refuses := Transaction.execute_refuses_iff sound hooks begins funded
  refine ⟨machine, booted, ?_, ?_, ?_, ?_⟩
  · cases refused : Transaction.refusal? host machine.world with
    | none => exact .inl (Transaction.execute_of_accepted sound hooks begins funded refused)
    | some error =>
        exact .inr ⟨error, Transaction.execute_of_refusal hooks granted begins refused⟩
  · rw [refuses]
    exact Transaction.refusal?_eq_insufficientBalance_iff
  · intro paid
    rw [refuses]
    exact Transaction.refusal?_eq_initcodeSizeExceeded_iff paid
  · intro paid small
    rw [refuses]
    exact Transaction.refusal?_eq_nonceOverflow_iff paid small

/-- A message that sends seven units from an account that holds five. -/
def overdrawnHost : Host :=
  .standard .blank ⟨.zero, .creation, .ofLimb 7, ByteArray.empty, 100000, []⟩ .standard

/-- An account that holds five units, a contract that passes two units on to another one, and the
latter, which writes down what it has got. -/
def forwardingWorld : World :=
  ((World.empty.setBalance .zero (.ofLimb 5)).setCode (.ofNat 1000)
    ⟨#[0x5f, 0x5f, 0x5f, 0x5f, 0x60, 2, 0x61, 0x07, 0xd0, 0x61, 0xff, 0xff, 0xf1, 0]⟩).setCode
      (.ofNat 2000) ⟨#[0x47, 0x5f, 0x55, 0]⟩

/-- A message that sends three units from the account to the first contract. -/
def forwardingHost : Host :=
  .standard .blank ⟨.zero, .account (.ofNat 1000), .ofLimb 3, ByteArray.empty, 100000, []⟩ .standard

theorem overdrawn_message_is_refused_and_forwarded_one_runs :
    (∃ machine final, Transaction.boot overdrawnHost
        (World.empty.setBalance .zero (.ofLimb 5)) default = .ok machine ∧
      Transaction.execute overdrawnHost machine =
        .error (.invalidMessage (.insufficientBalance .zero)) final) ∧
    ∃ machine report final, Transaction.boot forwardingHost forwardingWorld default = .ok machine ∧
      Transaction.execute forwardingHost machine = .ok report final ∧
      report.verdict = .success ∧ final.world.balance (.ofNat 1000) = .ofLimb 1 ∧
      final.world.balance (.ofNat 2000) = .ofLimb 2 ∧
      final.world.slot (.ofNat 2000) .zero = .ofLimb 2 ∧
      ¬Transaction.Poor forwardingHost forwardingWorld := by
  constructor
  · obtain ⟨machine, booted, _, refuses, _⟩ := execution_never_gets_stuck overdrawnHost rfl rfl rfl
      rfl (World.empty.setBalance .zero (.ofLimb 5)) (by decide +kernel) default
    have poor : Transaction.Poor overdrawnHost (World.empty.setBalance .zero (.ofLimb 5)) := by
      unfold Transaction.Poor
      decide +kernel
    obtain ⟨final, refused⟩ := refuses.mpr poor
    exact ⟨machine, final, booted, refused⟩
  · have shown : Transaction.shown? forwardingHost forwardingWorld (fun report final =>
        (report.verdict, final.world.balance (.ofNat 1000), final.world.balance (.ofNat 2000),
          final.world.slot (.ofNat 2000) .zero)) =
        some (.success, .ofLimb 1, .ofLimb 2, .ofLimb 2) := by decide +kernel
    obtain ⟨machine, report, final, booted, done, answer⟩ := Transaction.shown?_eq_some shown
    simp only [Prod.mk.injEq] at answer
    obtain ⟨succeeds, kept, passed, written⟩ := answer
    obtain ⟨other, sameBoot, _, refuses, _⟩ := execution_never_gets_stuck forwardingHost rfl rfl rfl
      rfl forwardingWorld (by decide +kernel) default
    cases booted.symm.trans sameBoot
    refine ⟨machine, report, final, booted, done, succeeds, kept, passed, written, fun poor => ?_⟩
    obtain ⟨_, refused⟩ := refuses.mpr poor
    cases done.symm.trans refused

end CancunMachine
