import Mathlib.Tactic
import CancunMachine.Proofs.Evolution.Run
import CancunMachine.Proofs.Settlement
import CancunMachine.Proofs.Warmth
import CancunMachine.Proofs.World.Journal

/-!
# Failed frames leave no trace

The journal of the world, the backups of the substate and the order of warming are opened and
closed together. Along the course of a frame each of them holds what is needed to go back, whether
the children of the frame succeed or fail, so a frame that fails is as if it had not run.
-/

namespace CancunMachine

/-- Everything that was done between two machines can be taken back. -/
structure Machine.Reversible (machine next : Machine) : Prop where
  world : machine.world.Follows next.world
  below : next.substate.below = machine.substate.below
  warmth : machine.warmth.Extends next.warmth

/-- Everything that was done between two machines has been taken back. -/
structure Machine.Restored (machine next : Machine) : Prop where
  world : machine.world.Restores next.world
  substate : next.substate = machine.substate
  warmth : machine.warmth.Alike next.warmth

variable {host : Host} {transfer : Transfer} {outcome : Outcome}

theorem Machine.Restored.reversible {machine next : Machine} (restored : machine.Restored next) :
    machine.Reversible next where
  world := restored.world.follows
  below := congrArg Substate.below restored.substate
  warmth := restored.warmth.grows

theorem Machine.Reversible.refl (machine : Machine) : machine.Reversible machine :=
  ⟨.refl _, rfl, .refl _⟩

theorem Machine.Reversible.trans {first second third : Machine} (earlier : first.Reversible second)
    (later : second.Reversible third) : first.Reversible third where
  world := earlier.world.trans later.world
  below := later.below.trans earlier.below
  warmth := earlier.warmth.trans later.warmth

theorem Act.reversible {machine final : Machine} (act : Act host machine final) :
    machine.Reversible final := by
  cases act with
  | compute | report | cache | pool => exact ⟨.refl _, rfl, .refl _⟩
  | warm key => exact ⟨.refl _, rfl, machine.warmth.extends_touch key⟩
  | writeSlot key value => exact ⟨machine.world.follows_setSlot _ key value, rfl, .refl _⟩
  | writeTransient | refund | log => exact ⟨.refl _, rfl, .refl _⟩
  | raiseNonce => exact ⟨machine.world.follows_setNonce _ _, rfl, .refl _⟩
  | bequeath _ _ _ moves => exact ⟨World.follows_of_moves moves, rfl, .refl _⟩
  | destroy =>
      exact ⟨machine.world.follows_setBalance _ _, machine.substate.below_addDestroyed _, .refl _⟩
  | deposit code => exact ⟨machine.world.follows_setCode _ code, rfl, .refl _⟩

theorem Starts.reversible {machine started : Machine}
    (starts : Starts host transfer machine started) : machine.Reversible started := by
  cases starts with
  | refused => exact .refl machine
  | called world _ moves => exact ⟨World.follows_of_moves moves, rfl, .refl _⟩
  | created world _ _ moves =>
      have counted := machine.world.follows_setNonce machine.frame.invocation.recipient 1
      exact ⟨counted.trans (World.follows_of_moves moves), machine.substate.below_addCreated _,
        .refl _⟩

/-- The mark of a frame is the number of keys that were warm when it was opened. -/
theorem warmMark_of_course {machine started ended : Machine}
    (starts : Starts host transfer (machine.opened host) started)
    (course : Evolves host started ended) : ended.frame.warmMark = machine.warmth.size :=
  course.samePlace.context.warmMark.trans starts.samePlace.context.warmMark

/-- The end of a frame takes back what a failed frame did. -/
theorem Closes.restored {machine ended closed : Machine}
    (course : (machine.opened host).Reversible ended)
    (mark : ended.frame.warmMark = machine.warmth.size)
    (closes : Closes host outcome ended closed) (failed : outcome.isSuccess = false) :
    machine.Restored closed := by
  cases closes with
  | kept world succeeded =>
      rw [failed] at succeeded
      cases succeeded
  | undone world _ reverts =>
      refine ⟨course.world.revert reverts, ?_, ?_⟩
      · have backup : ended.substate.below = machine.substate.layers := course.below
        simp only [Machine.reported, Substate.revertBackup, backup, Substate.layers]
      · simp only [Machine.reported, mark]
        exact course.warmth.unwind

theorem Closes.reversible {machine ended closed : Machine}
    (course : (machine.opened host).Reversible ended)
    (mark : ended.frame.warmMark = machine.warmth.size)
    (closes : Closes host outcome ended closed) : machine.Reversible closed := by
  cases succeeded : outcome.isSuccess with
  | false => exact (closes.restored course mark succeeded).reversible
  | true =>
      cases closes with
      | undone world failed =>
          rw [succeeded] at failed
          cases failed
      | kept world _ commits =>
          have backup : ended.substate.below = machine.substate.layers := course.below
          refine ⟨course.world.commit commits, ?_, course.warmth⟩
          simp only [Machine.reported, Substate.commitBackup, backup, Substate.layers]

/-- Whatever a frame and its children do can be taken back. -/
theorem Evolves.reversible {machine final : Machine} (evolves : Evolves host machine final) :
    machine.Reversible final := by
  induction evolves with
  | refl => exact .refl _
  | act _ acted inductionHypothesis => exact inductionHypothesis.trans acted.reversible
  | @child start middle started ended closed entry outcome _ _ starts course _ closes
      before childReversible =>
      have during := starts.reversible.trans childReversible
      have mark : ended.frame.warmMark = (middle.entering entry.child).warmth.size :=
        warmMark_of_course starts course
      -- Entering and resuming move frames only.
      have around : (middle.entering entry.child).Reversible closed :=
        closes.reversible during mark
      exact before.trans ⟨around.world, around.below, around.warmth⟩

theorem FrameRuns.restored {machine final : Machine}
    (runs : FrameRuns host transfer machine outcome final) (failed : outcome.isSuccess = false) :
    machine.Restored final := by
  cases runs with
  | intro starts course _ closes =>
      exact closes.restored (starts.reversible.trans course.reversible)
        (warmMark_of_course starts course) failed

theorem FrameRuns.forfeits {machine final : Machine} {reason : Halt}
    (runs : FrameRuns host transfer machine outcome final)
    (halted : outcome.verdict = .failure (.halt reason)) :
    outcome.gasRemaining = 0 ∧ outcome.output = ByteArray.empty := by
  cases runs with
  | intro _ _ tells _ =>
      obtain ⟨gas, output⟩ := tells.forfeits reason halted
      rw [tells.shows]
      exact ⟨gas, output⟩

/-- The additions of two substates cannot be told apart. -/
structure Substate.LooksLike (substate other : Substate) : Prop where
  logs : other.logs = substate.logs
  refund : other.refund = substate.refund
  transient : ∀ address key, other.transient address key = substate.transient address key
  isDestroyed : ∀ address, other.isDestroyed address = substate.isDestroyed address
  isCreated : ∀ address, other.isCreated address = substate.isCreated address

theorem Substate.LooksLike.of_eq {substate other : Substate} (same : other = substate) :
    substate.LooksLike other := by
  subst same
  exact ⟨rfl, rfl, fun _ _ => rfl, fun _ => rfl, fun _ => rfl⟩

/-- What a frame, its parent or an observer of the transaction can see is the same. -/
structure Machine.Indistinguishable (machine next : Machine) : Prop where
  world : machine.world.LooksLike next.world
  initialSlot : ∀ address key,
    next.world.initialSlot address key = machine.world.initialSlot address key
  substate : machine.substate.LooksLike next.substate
  isWarmAddress : ∀ address,
    next.warmth.isWarmAddress address = machine.warmth.isWarmAddress address
  isWarmSlot : ∀ address key,
    next.warmth.isWarm ⟨address, some key⟩ = machine.warmth.isWarm ⟨address, some key⟩

theorem Machine.Restored.indistinguishable {machine next : Machine}
    (restored : machine.Restored next) : machine.Indistinguishable next where
  world := World.looksLike_of_view restored.world.view
  initialSlot := restored.world.initialSlot
  substate := .of_eq restored.substate
  isWarmAddress := restored.warmth.isWarmAddress
  isWarmSlot := fun _ _ => restored.warmth.isWarm _

/-- `final` is `world` after a message of `caller` that did nothing else. -/
structure World.OnlyCounts (caller : Address) (world final : World) : Prop where
  isPresent : ∀ address, address ≠ caller →
    (final.account? address).isSome = (world.account? address).isSome
  balance : ∀ address, final.balance address = world.balance address
  nonce : ∀ address, address ≠ caller → final.nonce address = world.nonce address
  callerNonce : (final.nonce caller).toNat = (world.nonce caller).toNat + 1
  code : ∀ address, final.code address = world.code address
  codeHash : ∀ address, final.codeHash address = world.codeHash address
  slot : ∀ address key, final.slot address key = world.slot address key
  initialSlot : ∀ address key, final.initialSlot address key = world.initialSlot address key
  blockHashes : final.blockHashes = world.blockHashes

/-- Raising a nonce does not touch the storage. -/
theorem World.slot_of_counted {caller : Address} {nonce : UInt64} {world final : World}
    (view : final.view = (world.setNonce caller nonce).view) (address : Address) (key : Word) :
    final.slot address key = world.slot address key := by
  rw [(World.looksLike_of_view view).slot]
  exact slot_updateHeader world caller address key fun _ => rfl

theorem World.onlyCounts_of_view {caller : Address} {world final : World}
    (room : world.nonce caller ≠ maxUInt64)
    (view : final.view = (world.setNonce caller (world.nonce caller + 1)).view)
    (initialSlot : ∀ address key, final.initialSlot address key = world.initialSlot address key)
    (blockHashes : final.blockHashes = world.blockHashes) : world.OnlyCounts caller final := by
  have same := World.looksLike_of_view view
  constructor
  case isPresent =>
    intro address different
    rw [same.isPresent, setNonce, account?_updateHeader, if_neg different]
  case balance =>
    intro address
    rw [same.balance, balance_setNonce]
  case nonce =>
    intro address different
    rw [same.nonce, nonce_setNonce, if_neg different]
  case callerNonce =>
    rw [same.nonce, nonce_setNonce, if_pos rfl]
    exact toNat_add_one_of_ne_max room
  case code =>
    intro address
    rw [same.code, code_setNonce]
  case codeHash =>
    intro address
    rw [same.codeHash, codeHash_setNonce]
  case slot => exact World.slot_of_counted view
  case initialSlot => exact initialSlot
  case blockHashes => exact blockHashes

namespace Interpreter

/-- A frame that fails has no effect, whatever runs its instructions. -/
theorem indistinguishable_of_failure (plain : host.Plain) {body : Run Outcome}
    (concludes : Concludes host body) {machine final : Machine}
    (done : runFrame host body transfer machine = .ok outcome final)
    (failed : outcome.isSuccess = false) :
    machine.Indistinguishable final ∧ ∀ reason, outcome.verdict = .failure (.halt reason) →
      outcome.gasRemaining = 0 ∧ outcome.output = ByteArray.empty := by
  have runs := (enters_runFrame plain concludes).runs done
  exact ⟨(runs.restored failed).indistinguishable, fun _ halted => runs.forfeits halted⟩

end Interpreter

open Ending

namespace Transaction

theorem gasRefunded_of_failure (plain : host.Plain) {world : World}
    {machine ready ended final : Machine} {report : Report} (booted : Booted host world machine)
    (settles : Settles host machine ready ended outcome report final)
    (failed : outcome.isSuccess = false) : report.gasRefunded = 0 := by
  obtain ⟨_, _, rfl⟩ := prepareSettlement_eq_ok settles.prepares
  have restored := ((Interpreter.enters_runFrame plain
    (Interpreter.concludes_runInstructions plain)).runs settles.runs).restored failed
  have refunded : ended.substate.refund = 0 := by
    rw [restored.substate, booted.substate]
    rfl
  rw [settles.gasRefunded, refunded]
  rfl

theorem onlyCounts_of_failure (plain : host.Plain) (hooks : host.hooks = [.settlement])
    {world : World} (unwritten : world.initials = .empty) {cache : Cache} {machine final : Machine}
    {report : Report} (booted : boot host world cache = .ok machine)
    (done : execute host machine = .ok report final) (failed : report.verdict ≠ .success) :
    world.OnlyCounts host.message.caller final.world ∧ report.logs = [] ∧
      report.gasRefunded = 0 ∧ report.createdAddress = none := by
  have fresh := boot_eq_ok booted
  obtain rfl := fresh.world
  obtain ⟨ready, ended, outcome, settles⟩ := execute_eq_ok hooks done
  rw [settles.verdict] at failed
  have unsuccessful : outcome.isSuccess = false :=
    Bool.eq_false_iff.mpr fun succeeds => failed (outcome.verdict_of_isSuccess succeeds)
  have refunded := gasRefunded_of_failure plain fresh settles unsuccessful
  obtain ⟨accepted, warmth, rfl⟩ := prepareSettlement_eq_ok settles.prepares
  have failing : ¬outcome.isSuccess = true := Bool.eq_false_iff.mp unsuccessful
  have runs := (Interpreter.enters_runFrame plain
    (Interpreter.concludes_runInstructions plain)).runs settles.runs
  have restored := runs.restored unsuccessful
  have counted : (machine.world.setNonce host.message.caller
      (machine.world.nonce host.message.caller + 1)).blockHashes = machine.world.blockHashes :=
    (machine.world.follows_setNonce _ _).blockHashes
  refine ⟨?_, ?_, ?_, ?_⟩
  · rw [settles.world, destroyedWorld, if_neg failing]
    refine World.onlyCounts_of_view (nonce_ne_max_of_accepted accepted) restored.world.view ?_
      (restored.world.blockHashes.trans counted)
    intro address key
    have slot := World.slot_of_counted restored.world.view address key
    have none : ended.world.finalize.initials = .empty := rfl
    rw [World.initialSlot, World.initialSlot, unwritten, none]
    exact slot
  · rw [settles.logs, if_neg failing]
  · exact refunded
  · rw [settles.createdAddress, unsuccessful]
    rfl

end Transaction

/-- Failed frames leave no trace, be they children or outermost frames, and a failed message leaves
none but the nonce of its sender. -/
theorem failed_frames_leave_no_trace (host : Host) (plain : host.Plain) :
    (∀ budget transfer machine outcome final,
      Interpreter.runFrame host (Interpreter.run host budget) transfer machine =
        .ok outcome final →
      outcome.isSuccess = false →
      machine.Indistinguishable final ∧ ∀ reason, outcome.verdict = .failure (.halt reason) →
        outcome.gasRemaining = 0 ∧ outcome.output = ByteArray.empty) ∧
    (∀ transfer machine outcome final,
      Interpreter.runOutermost host transfer machine = .ok outcome final →
      outcome.isSuccess = false →
      machine.Indistinguishable final ∧ ∀ reason, outcome.verdict = .failure (.halt reason) →
        outcome.gasRemaining = 0 ∧ outcome.output = ByteArray.empty) ∧
    (∀ world cache machine report final,
      host.hooks = [.settlement] →
      world.initials = .empty →
      Transaction.boot host world cache = .ok machine →
      Transaction.execute host machine = .ok report final →
      report.verdict ≠ .success →
      world.OnlyCounts host.message.caller final.world ∧ report.logs = [] ∧
        report.gasRefunded = 0 ∧ report.createdAddress = none) := by
  refine ⟨?_, ?_, ?_⟩
  · intro budget transfer machine outcome final done failed
    exact Interpreter.indistinguishable_of_failure plain (Interpreter.concludes_run plain budget)
      done failed
  · intro transfer machine outcome final done failed
    exact Interpreter.indistinguishable_of_failure plain
      (Interpreter.concludes_runInstructions plain) done failed
  · intro world cache machine report final hooks unwritten booted done failed
    exact Transaction.onlyCounts_of_failure plain hooks unwritten booted done failed

/-- A world with one contract, which writes a slot and then halts. -/
def forgetfulWorld : World :=
  World.empty.setCode (.ofNat 1000) ⟨#[0x60, 1, 0x60, 0, 0x55, 0xfe]⟩

def forgetfulHost : Host :=
  .standard .blank ⟨.zero, .account (.ofNat 1000), .zero, ByteArray.empty, 100000, []⟩ .standard

theorem forgetful_contract_leaves_no_trace :
    ∃ machine report final, Transaction.boot forgetfulHost forgetfulWorld default = .ok machine ∧
      Transaction.execute forgetfulHost machine = .ok report final ∧
      report.verdict = .failure (.halt .invalidOpcode) ∧
      forgetfulWorld.OnlyCounts .zero final.world ∧ report.logs = [] ∧
      report.gasRefunded = 0 ∧ report.createdAddress = none := by
  have shown : Transaction.verdict? forgetfulHost forgetfulWorld =
      some (.failure (.halt .invalidOpcode)) := by decide +kernel
  obtain ⟨machine, report, final, booted, done, verdict⟩ := Transaction.verdict?_eq_some shown
  have failed : report.verdict ≠ .success := by
    rw [verdict]
    exact Verdict.noConfusion
  have traceless := (failed_frames_leave_no_trace forgetfulHost ⟨rfl, rfl⟩).2.2
    forgetfulWorld default machine report final rfl rfl booted done failed
  exact ⟨machine, report, final, booted, done, verdict, traceless⟩

end CancunMachine
