import Mathlib.Tactic
import CancunMachine.Proofs.Evolution.Moments
import CancunMachine.Proofs.Prewarming
import CancunMachine.Proofs.Rollback

/-!
# What is open belongs to the open frames

Every open frame has one checkpoint of the world, one backup of the substate and one mark in the
order of warming. Instructions leave these stacks as high as they were, whatever the frames below
them did, and entering a child raises each of them by one; so they stay in step with the frames
until the message has ended, which leaves all of them as they were before it.
-/

namespace CancunMachine

open Ending

/-- The frames of a machine are in step with what was opened for them, above `opened` checkpoints
that the message has found. -/
structure Machine.InStep (host : Host) (opened : Nat) (machine : Machine) : Prop where
  depth : machine.frame.invocation.depth = machine.suspended.length
  depthAllowed : machine.frame.invocation.depth ≤ host.config.maxCallDepth ∨
    machine.frame.invocation.depth = 0
  checkpoints : machine.world.checkpointDepth = opened + machine.frame.invocation.depth + 1
  backups : machine.substate.backupDepth = machine.frame.invocation.depth + 1
  /-- No frame has a later mark than the frames it waits for. -/
  marks : (machine.frame :: machine.suspended).Pairwise fun inner outer =>
    outer.warmMark ≤ inner.warmMark
  warmed : ∀ frame ∈ machine.frame :: machine.suspended, frame.warmMark ≤ machine.warmth.size

/-- Nothing is open but the `opened` checkpoints that a message has found. -/
structure Machine.AtRest (opened : Nat) (machine : Machine) : Prop where
  suspended : machine.suspended = []
  checkpoints : machine.world.checkpointDepth = opened
  backups : machine.substate.backupDepth = 0
  cold : ∀ key, machine.warmth.isWarm key = false
  unordered : machine.warmth.size = 0

theorem Warmth.Extends.size {warmth next : Warmth} (grown : warmth.Extends next) :
    warmth.size ≤ next.size := by
  obtain ⟨keys, order, _⟩ := grown.warmed
  rw [← Warmth.length_order, ← Warmth.length_order, order, List.length_append]
  exact Nat.le_add_left _ _

theorem FrameRuns.reversible {host : Host} {transfer : Transfer} {machine final : Machine}
    {outcome : Outcome} (runs : FrameRuns host transfer machine outcome final) :
    machine.Reversible final := by
  cases runs with
  | intro starts course _ closes =>
      exact closes.reversible (starts.reversible.trans course.reversible)
        (warmMark_of_course starts course)

namespace Machine

variable {host : Host} {opened : Nat} {machine next : Machine}

/-- What can be taken back leaves everything as far open as it was. -/
theorem InStep.of_reversible (inStep : machine.InStep host opened) (place : machine.SamePlace next)
    (course : machine.Reversible next) : next.InStep host opened := by
  have invocation := place.context.invocation
  have grown := course.warmth.size
  constructor
  case depth => rw [invocation, place.suspended, inStep.depth]
  case depthAllowed =>
    rw [invocation]
    exact inStep.depthAllowed
  case checkpoints => rw [course.world.checkpointDepth, inStep.checkpoints, invocation]
  case backups =>
    have backups : machine.substate.below.length = _ := inStep.backups
    unfold Substate.backupDepth
    rw [course.below, backups, invocation]
  case marks =>
    obtain ⟨latest, waiting⟩ := List.pairwise_cons.mp inStep.marks
    rw [place.suspended]
    refine List.pairwise_cons.mpr ⟨fun frame member => ?_, waiting⟩
    rw [place.context.warmMark]
    exact latest frame member
  case warmed =>
    intro frame member
    rw [place.suspended] at member
    rcases List.mem_cons.mp member with rfl | waiting
    · rw [place.context.warmMark]
      exact (inStep.warmed machine.frame List.mem_cons_self).trans grown
    · exact (inStep.warmed frame (List.mem_cons_of_mem _ waiting)).trans grown

theorem InStep.fetched (inStep : machine.InStep host opened) :
    machine.fetched.InStep host opened := by
  have fetches : Evolves host machine machine.fetched := machine.evolves_fetched
  exact inStep.of_reversible ⟨rfl, rfl, rfl, rfl⟩ fetches.reversible

/-- The frame that is opened for a child comes with a checkpoint, a backup and a mark of its
own. -/
theorem InStep.entered {entry : Entry} (inStep : machine.InStep host opened)
    (legal : entry.Legal host machine) :
    ((machine.entering entry.child).opened host).InStep host opened := by
  have deeper : ((machine.entering entry.child).opened host).frame.invocation.depth =
      machine.frame.invocation.depth + 1 := legal.depth
  constructor
  case depth =>
    have waiting : ((machine.entering entry.child).opened host).suspended.length =
        machine.suspended.length + 1 := rfl
    rw [deeper, waiting, inStep.depth]
  case depthAllowed =>
    rw [deeper]
    exact .inl legal.depthAllowed
  case checkpoints =>
    have raised : ((machine.entering entry.child).opened host).world.checkpointDepth =
        machine.world.checkpointDepth + 1 := rfl
    rw [deeper, raised, inStep.checkpoints]
    omega
  case backups =>
    have raised : ((machine.entering entry.child).opened host).substate.backupDepth =
        machine.substate.backupDepth + 1 := rfl
    rw [deeper, raised, inStep.backups]
  case marks => exact List.pairwise_cons.mpr ⟨inStep.warmed, inStep.marks⟩
  case warmed =>
    intro frame member
    rcases List.mem_cons.mp member with rfl | waiting
    · exact le_refl _
    · exact inStep.warmed frame waiting

theorem InStep.started {transfer : Transfer} (inStep : (machine.opened host).InStep host opened)
    (starts : Interpreter.startFrame host transfer (machine.opened host) = .ok none next) :
    next.InStep host opened := by
  obtain ⟨_, begun, evolved, _, _⟩ := Interpreter.startFrame_eq_ok starts
  exact inStep.of_reversible (begun.samePlace.trans evolved.samePlace)
    (begun.reversible.trans evolved.reversible)

end Machine

/-- Every moment of a run finds the frames in step if its first one does. -/
theorem Interpreter.Visits.inStep {host : Host} (plain : host.Plain) {opened budget : Nat}
    {machine visited : Machine} (visits : Interpreter.Visits host budget machine visited)
    (inStep : machine.InStep host opened) : visited.InStep host opened := by
  refine visits.preserves ?_ ?_ inStep
  · intro budget machine next before done
    have behaves := Instruction.execute_behaves plain
      (Interpreter.enters_runFrame plain (Interpreter.concludes_run plain budget))
      machine.nextOpcode
    have evolved := behaves.evolves done
    exact before.fetched.of_reversible evolved.samePlace evolved.reversible
  · intro machine ready started entry before prepares starts
    obtain ⟨evolved, prepared⟩ := Instruction.preparation_eq_some prepares
    have waiting := before.fetched.of_reversible evolved.samePlace evolved.reversible
    exact (waiting.entered prepared.legal).started starts

namespace Transaction

variable {host : Host} {world : World} {cache : Cache} {machine ready final : Machine}
  {report : Report}

theorem depth_of_boot (booted : boot host world cache = .ok machine) :
    machine.frame.invocation.depth = 0 := by
  unfold boot at booted
  split at booted
  · cases booted
  · rename_i invocation code read made
    cases booted
    unfold outermost at made
    cases destination : host.message.destination with
    | account address =>
        simp only [destination] at made
        obtain ⟨_, _, _, returned⟩ := bind_eq_ok.mp made
        cases returned
        rfl
    | creation =>
        simp only [destination] at made
        obtain ⟨_, _, _, returned⟩ := bind_eq_ok.mp made
        cases returned
        rfl

/-- Preparing a message opens nothing. -/
theorem reversible_of_prepareSettlement (done : prepareSettlement host machine = .ok () ready) :
    Machine.Reversible
      { machine with warmth := machine.warmth.setAlways host.policy.alwaysWarm } ready := by
  have warmth := warmth_of_prepareSettlement done
  obtain ⟨_, counted⟩ := (prepareSettlement_eq_ok done).counted
  refine ⟨?_, ?_, ?_⟩
  · rw [counted]
    exact machine.world.follows_setNonce _ _
  · rw [counted]
  · rw [warmth]
    exact Warmth.extends_visitAll _ _

/-- The outermost frame is opened in step. -/
theorem inStep_of_prepareSettlement (booted : boot host world cache = .ok machine)
    (done : prepareSettlement host machine = .ok () ready) :
    (ready.opened host).InStep host world.checkpointDepth := by
  have fresh := boot_eq_ok booted
  obtain ⟨_, counted⟩ := (prepareSettlement_eq_ok done).counted
  have reversible := reversible_of_prepareSettlement done
  have suspended : (ready.opened host).suspended = [] := by
    rw [← fresh.suspended, counted]
    rfl
  have outermost : (ready.opened host).frame.invocation.depth = 0 := by
    rw [← depth_of_boot booted, counted]
    rfl
  have raised : (ready.opened host).world.checkpointDepth = ready.world.checkpointDepth + 1 := rfl
  have backed : (ready.opened host).substate.backupDepth = ready.substate.below.length + 1 := rfl
  constructor
  case depth => rw [outermost, suspended, List.length_nil]
  case depthAllowed => exact .inr outermost
  case checkpoints =>
    rw [outermost, raised, reversible.world.checkpointDepth, fresh.world]
  case backups =>
    rw [outermost, backed, reversible.below, fresh.substate]
    rfl
  case marks =>
    rw [suspended]
    exact List.pairwise_singleton _ _
  case warmed =>
    intro frame member
    rw [suspended, List.mem_singleton] at member
    rw [member]
    exact le_refl _

/-- What settling a message does to the machine that its outermost frame has left. -/
theorem final_of_execute (hooks : host.hooks = [.settlement])
    (done : execute host machine = .ok report final) :
    ∃ ready ended outcome refund, prepareSettlement host machine = .ok () ready ∧
      Interpreter.runOutermost host (payment host ready) ready = .ok outcome ended ∧
      final = { ended with
        substate := ended.substate.setRefund refund
        warmth := ended.warmth.finish
        world := (destroyedWorld outcome ended).finalize } := by
  rw [execute_of_hooks hooks] at done
  obtain ⟨_, ready, prepared, rest⟩ := bind_eq_ok.mp done
  rw [bind_of_ok (Run.frame_apply _ _)] at rest
  obtain ⟨outcome, ended, ran, rest⟩ := bind_eq_ok.mp rest
  rw [finalizeSettlement_eq, bind_assoc] at rest
  obtain ⟨_, destroyed, destroys, rest⟩ := bind_eq_ok.mp rest
  cases destroyAll_eq_ok destroys
  rw [bind_of_ok (payRefund_apply _ _), report_apply] at rest
  cases rest
  exact ⟨ready, ended, outcome, _, prepared, ran, rfl⟩

theorem checkpointDepth_destroy (world : World) (address : Address) :
    (world.destroy address).checkpointDepth = world.checkpointDepth := by
  unfold World.destroy
  split
  · rfl
  · change (world.record _).checkpointDepth = world.checkpointDepth
    rw [← World.length_layers, World.layers_record, List.length_modifyHead, World.length_layers]

theorem checkpointDepth_destroyedWorld (outcome : Outcome) (ended : Machine) :
    (destroyedWorld outcome ended).checkpointDepth = ended.world.checkpointDepth := by
  unfold destroyedWorld
  split
  · generalize ended.substate.destroyedAddresses = addresses
    generalize ended.world = world
    induction addresses generalizing world with
    | nil => rfl
    | cons address addresses inductionHypothesis =>
        rw [List.foldl_cons, inductionHypothesis, checkpointDepth_destroy]
  · rfl

theorem atRest_of_execute (plain : host.Plain) (hooks : host.hooks = [.settlement])
    (booted : boot host world cache = .ok machine)
    (done : execute host machine = .ok report final) : final.AtRest world.checkpointDepth := by
  have fresh := boot_eq_ok booted
  obtain ⟨ready, ended, outcome, refund, prepares, ran, rfl⟩ := final_of_execute hooks done
  have runs := (Interpreter.enters_runFrame plain
    (Interpreter.concludes_runInstructions plain)).runs ran
  obtain ⟨_, counted⟩ := (prepareSettlement_eq_ok prepares).counted
  have course := (reversible_of_prepareSettlement prepares).trans runs.reversible
  -- Ending the transaction cools back to the empty order with which the message began.
  have cooled := course.warmth.unwind
  rw [fresh.warmth] at cooled
  constructor
  case suspended =>
    have same : ready.suspended = [] := by
      rw [counted]
      exact fresh.suspended
    exact runs.suspended.trans same
  case checkpoints =>
    have settled := checkpointDepth_destroyedWorld outcome ended
    change (destroyedWorld outcome ended).checkpointDepth = _
    rw [settled, course.world.checkpointDepth, fresh.world]
  case backups =>
    change ended.substate.below.length = 0
    rw [course.below, fresh.substate]
    rfl
  case cold => exact cooled.isWarm
  case unordered => exact (Warmth.length_order _).symm.trans (congrArg List.length cooled.order)

end Transaction

/-- Frames, checkpoints, backups and marks stay in step at every instruction of a message, and a
message that gets its report leaves nothing open and nothing warm. -/
theorem frames_stay_in_step (host : Host) (plain : host.Plain)
    (hooks : host.hooks = [.settlement]) (world : World) (cache : Cache) (machine : Machine)
    (booted : Transaction.boot host world cache = .ok machine) :
    (∀ visited, Transaction.Visits host machine visited →
      visited.InStep host world.checkpointDepth) ∧
    ∀ report final, Transaction.execute host machine = .ok report final →
      final.AtRest world.checkpointDepth := by
  refine ⟨?_, fun report final done => Transaction.atRest_of_execute plain hooks booted done⟩
  rintro visited ⟨started, first, visits⟩
  obtain ⟨ready, prepares, starts⟩ := Transaction.firstFetch?_eq_some first
  rw [Transaction.prepareAll_of_hooks hooks] at prepares
  exact visits.inStep plain ((Transaction.inStep_of_prepareSettlement booted prepares).started
    starts)

/-- A world with an open checkpoint and two contracts: one writes a slot and lends itself to the
other, which reads a slot and reverts. -/
def lendingWorld : World :=
  ((World.empty.setCode (.ofNat 1000)
      ⟨#[0x60, 1, 0x5f, 0x55, 0x5f, 0x5f, 0x5f, 0x5f, 0x61, 0x07, 0xd0, 0x61, 0xff, 0xff, 0xf4,
        0]⟩).setCode (.ofNat 2000) ⟨#[0x60, 1, 0x54, 0x5f, 0x5f, 0xfd]⟩).checkpoint

def lendingHost : Host :=
  .standard .blank ⟨.zero, .account (.ofNat 1000), .zero, ByteArray.empty, 200000, []⟩ .standard

/-- The way to the frame of the borrower after it has read its slot. -/
def borrowing : List Turn := List.replicate 9 .past ++ [.inside, .past, .past]

theorem borrower_is_in_step :
    ∃ machine visited report final, Transaction.boot lendingHost lendingWorld default = .ok machine ∧
      Transaction.Visits lendingHost machine visited ∧ visited.suspended.length = 1 ∧
      visited.warmth.size = 5 ∧ visited.InStep lendingHost 1 ∧
      Transaction.execute lendingHost machine = .ok report final ∧ final.AtRest 1 := by
  obtain ⟨moment, shown⟩ :
      (Transaction.moment? lendingHost lendingWorld borrowing).map (fun moments =>
          (moments.2.suspended.length, moments.2.warmth.size)) = some (1, 5) ∧
        Transaction.verdict? lendingHost lendingWorld = some .success := by
    decide +kernel
  obtain ⟨machine, report, final, booted, done, _⟩ := Transaction.verdict?_eq_some shown
  obtain ⟨same, visited, boots, visits, answer⟩ :=
    Transaction.moment?_shows (fun moment => (moment.suspended.length, moment.warmth.size))
      (by decide) moment
  rw [booted] at boots
  cases boots
  obtain ⟨depth, warm⟩ := Prod.mk.inj answer
  obtain ⟨moments, ends⟩ := frames_stay_in_step lendingHost ⟨rfl, rfl⟩ rfl lendingWorld default
    machine booted
  exact ⟨machine, visited, report, final, booted, visits, depth, warm, moments visited visits, done,
    ends report final done⟩

end CancunMachine
