import Mathlib.Tactic
import CancunMachine.Proofs.Evolution.Moments
import CancunMachine.Proofs.GasOrder
import CancunMachine.Proofs.Order.Frugality

/-!
# Queued halts

A collaborator may queue halts on the parent of a frame that ends. The parent raises the last of
them if its child has halted, and forgets them otherwise; in either case the queue is empty again
before an instruction is fetched, and no frame behind the parent has seen it.
-/

namespace CancunMachine

open Ending

/-- No halt is queued in any frame. -/
def Machine.Unqueued (machine : Machine) : Prop :=
  ∀ frame ∈ machine.frame :: machine.suspended, frame.queuedHalt = none

namespace Machine.Unqueued

variable {host : Host} {machine : Machine}

theorem running (unqueued : machine.Unqueued) : machine.frame.queuedHalt = none :=
  unqueued machine.frame List.mem_cons_self

theorem of_frames {next : Machine} (frame : next.frame.queuedHalt = none)
    (suspended : ∀ waiting ∈ next.suspended, waiting.queuedHalt = none) : next.Unqueued := by
  intro shown member
  rcases List.mem_cons.mp member with rfl | waiting
  · exact frame
  · exact suspended shown waiting

theorem suspended (unqueued : machine.Unqueued) :
    ∀ waiting ∈ machine.suspended, waiting.queuedHalt = none :=
  fun _ waiting => unqueued _ (List.mem_cons_of_mem _ waiting)

theorem fetched (unqueued : machine.Unqueued) : machine.fetched.Unqueued :=
  .of_frames unqueued.running unqueued.suspended

/-- What prepares a child queues nothing. -/
theorem prepared {opcode : Opcode} {entry : Entry} {ready : Machine} (unqueued : machine.Unqueued)
    (prepares : Instruction.preparation host opcode machine = .ok (some entry) ready) :
    ready.Unqueued := by
  have same := (Instruction.setting_of_preparation host opcode).of_ok prepares
  refine .of_frames ((congrArg (·.2.2) same).trans unqueued.running) ?_
  rw [show ready.suspended = machine.suspended from congrArg Prod.fst same]
  exact unqueued.suspended

/-- A frame that starts has an empty queue. -/
theorem started {transfer : Transfer} {started : Machine} (unqueued : machine.Unqueued)
    (starts : Interpreter.startFrame host transfer (machine.opened host) = .ok none started) :
    started.Unqueued := by
  have same := (Interpreter.setting_of_startFrame transfer).of_ok starts
  refine .of_frames ((congrArg (·.2.2) same).trans unqueued.running) ?_
  rw [show started.suspended = machine.suspended from congrArg Prod.fst same]
  exact unqueued.suspended

theorem entered {opcode : Opcode} {entry : Entry} {ready started : Machine}
    (unqueued : ready.Unqueued)
    (prepares : Instruction.preparation host opcode machine = .ok (some entry) ready)
    (starts : Interpreter.startFrame host entry.transfer
      ((ready.entering entry.child).opened host) = .ok none started) : started.Unqueued := by
  have fresh := congrArg Frame.queuedHalt
    (Instruction.preparation_eq_some prepares).2.legal.fresh.start
  have entering : (ready.entering entry.child).Unqueued := .of_frames fresh unqueued
  exact entering.started starts

/-- An instruction leaves no halt in a queue. -/
theorem executed {budget : Nat} {signal : Signal} {next : Machine} (unqueued : machine.Unqueued)
    (cancun : host.schedule = .cancun)
    (done : Instruction.execute host (Interpreter.runFrame host (Interpreter.run host budget))
      machine.nextOpcode machine.fetched = .ok signal next) : next.Unqueued := by
  have still := unqueued.fetched
  have returns := Interpreter.returns_runFrame cancun (Interpreter.delivers_run cancun budget)
  have waits := (Instruction.suspended_of_execute cancun returns machine.nextOpcode).of_ok done
  refine .of_frames (Instruction.unqueued_of_execute still.running done) ?_
  rw [waits]
  exact still.suspended

end Machine.Unqueued

theorem Interpreter.Visits.allUnqueued {host : Host} {budget : Nat} {machine visited : Machine}
    (cancun : host.schedule = .cancun) (visits : Visits host budget machine visited)
    (first : machine.Unqueued) : visited.Unqueued := by
  refine visits.preserves ?_ ?_ first
  · intro budget machine next unqueued done
    exact unqueued.executed cancun done
  · intro machine ready started entry unqueued prepares starts
    exact (unqueued.fetched.prepared prepares).entered prepares starts

/-- Nothing is queued when the outermost frame is entered. -/
theorem Transaction.Booted.unqueued {host : Host} {world : World} {machine ready : Machine}
    (booted : Booted host world machine) (prepares : prepareAll host machine = .ok () ready) :
    ready.Unqueued := by
  obtain ⟨frame, suspended⟩ := frame_of_prepareAll prepares
  refine .of_frames ?_ ?_
  · rw [frame]
    exact congrArg Frame.queuedHalt booted.fresh
  · rw [suspended, booted.suspended]
    exact fun _ impossible => nomatch impossible

/-- No frame waits with a halt in its queue while an instruction is fetched. -/
theorem Transaction.Visits.allUnqueued {host : Host} {world : World} {cache : Cache}
    {machine visited : Machine} (cancun : host.schedule = .cancun)
    (booted : Transaction.boot host world cache = .ok machine)
    (visits : Transaction.Visits host machine visited) : visited.Unqueued := by
  obtain ⟨started, first, visits⟩ := visits
  obtain ⟨ready, prepares, starts⟩ := Transaction.firstFetch?_eq_some first
  exact visits.allUnqueued cancun (((boot_eq_ok booted).unqueued prepares).started starts)

namespace Interpreter

variable {host : Host} {budget : Nat} {machine ready closed final : Machine} {entry : Entry}
  {outcome settled : Outcome}

/-- A collaborator cannot turn a failure into a success, nor into another failure. -/
theorem verdict_of_settle (fails : outcome.isSuccess = false)
    (settles : settle host outcome machine = .ok settled final) :
    settled.verdict = outcome.verdict := by
  cases watched : host.overrides.outcome with
  | none =>
      rw [settle_of_unwatched watched] at settles
      cases settles
      rfl
  | some hook =>
      rw [settle_of_failure watched fails] at settles
      exact (verdict_of_consult settles).1

/-- How the end of a child reaches the instruction that has started it, `queued` being the halt
that was queued last while the child was settled. -/
structure Reaches (host : Host) (budget : Nat) (machine ready : Machine) (entry : Entry)
    (outcome : Outcome) (closed : Machine) (queued : Option Halt) : Prop where
  /-- Only the direct parent is touched, and only its queue. -/
  waits : closed.suspended = { ready.frame with queuedHalt := queued } :: machine.suspended
  /-- A failure of the child is settled as the failure that it is. -/
  verdict : ∀ concluded ended, concluding host (run host budget) entry.transfer
      ((ready.entering entry.child).opened host) = .ok concluded ended →
    concluded.isSuccess = false → outcome.verdict = concluded.verdict
  raisesQueued : ∀ own halt, outcome.verdict = .failure (.halt own) → queued = some halt →
    ∃ next, Instruction.execute host (runFrame host (run host budget)) machine.nextOpcode
      machine.fetched = .error (.halt halt) next
  raisesSticky : ∀ own, outcome.verdict = .failure (.halt own) → queued = none →
    own.isSticky = true →
    ∃ next, Instruction.execute host (runFrame host (run host budget)) machine.nextOpcode
      machine.fetched = .error (.halt own) next
  goesOn : (∀ own, outcome.verdict = .failure (.halt own) →
      queued = none ∧ own.isSticky = false) →
    ∃ next, Instruction.execute host (runFrame host (run host budget)) machine.nextOpcode
        machine.fetched = .ok .proceed next ∧ next.frame.queuedHalt = none ∧
      ready.frame.stack.push (machine.nextOpcode.answer entry outcome) = .ok next.frame.stack

theorem reaches_of_runFrame (cancun : host.schedule = .cancun) (unqueued : machine.Unqueued)
    (prepares : Instruction.preparation host machine.nextOpcode machine.fetched =
      .ok (some entry) ready)
    (ran : runFrame host (run host budget) entry.transfer (ready.entering entry.child) =
      .ok outcome closed) :
    Reaches host budget machine ready entry outcome closed
      (queuedByFrame host (run host budget) entry.transfer
        (ready.entering entry.child)).getLast? := by
  have delivers : Delivers (run host budget) := delivers_run cancun budget
  have still := unqueued.fetched.prepared prepares
  have same := (Instruction.setting_of_preparation host machine.nextOpcode).suspended.of_ok prepares
  have waits : (reached (runFrame host (run host budget) entry.transfer
      (ready.entering entry.child))).suspended = _ :=
    suspended_of_runFrame entry.transfer (ready.entering entry.child) delivers.waits
  rw [ran] at waits
  obtain ⟨raises, goesOn⟩ := Instruction.execute_of_entered cancun
    (returns_runFrame cancun delivers) still.running prepares ran waits
  constructor
  case waits =>
    have queue : closed.suspended = queueing (queuedByFrame host (run host budget) entry.transfer
      (ready.entering entry.child)) (ready.frame :: ready.suspended) := waits
    rw [queue, queueing, Frame.queueing, still.running, Option.or_none, same]
    rfl
  case verdict =>
    intro concluded ended concludes fails
    rw [runFrame_apply, bind_of_ok concludes] at ran
    obtain ⟨shown, closing, settles, rest⟩ := bind_eq_ok.mp ran
    obtain ⟨_, left, _, returned⟩ := bind_eq_ok.mp rest
    cases returned
    exact verdict_of_settle fails settles
  case raisesQueued =>
    intro own halt halted queued
    apply raises halt
    unfold Outcome.raises?
    rw [Outcome.haltReason?_eq_some.mpr halted, queued]
  case raisesSticky =>
    intro own halted queued sticky
    apply raises own
    unfold Outcome.raises?
    rw [Outcome.haltReason?_eq_some.mpr halted, queued]
    exact if_pos sticky
  case goesOn =>
    intro swallows
    apply goesOn
    unfold Outcome.raises?
    cases halted : outcome.haltReason? with
    | none => rfl
    | some own =>
        obtain ⟨queued, ordinary⟩ := swallows own (Outcome.haltReason?_eq_some.mp halted)
        rw [queued]
        exact if_neg (by simp [ordinary])

/-- A frame in which a halt is raised ends with that halt, and all frames behind it wait as
before. -/
theorem run_of_raised {halt : Halt} {next : Machine} (cancun : host.schedule = .cancun)
    (raised : Instruction.execute host (runFrame host (run host budget)) machine.nextOpcode
      machine.fetched = .error (.halt halt) next) :
    ∃ outcome ended, run host (budget + 1) machine = .ok outcome ended ∧
      outcome.verdict = .failure (.halt halt) ∧ ended.suspended = machine.suspended := by
  obtain ⟨outcome, ended, fails, _, _, verdict, _⟩ :=
    failFrame_of_settled host (show (Failure.halt halt).endsMessage = false from rfl) next
  have ran : run host (budget + 1) machine = .ok outcome ended := by
    rw [run_succ, raised]
    exact fails
  have delivers : Delivers (run host (budget + 1)) := delivers_run cancun (budget + 1)
  exact ⟨outcome, ended, ran, verdict, delivers.waits.of_ok ran⟩

end Interpreter

/-- What halts do that a collaborator queues on the parents of frames. -/
structure QueuesReachParents (host : Host) (machine : Machine) : Prop where
  /-- The halts that a parent raises of its own accord. -/
  named : ∀ halt : Halt, halt.isSticky = true ↔
    halt = .invalidContractId ∨ halt = .insufficientChildRecords
  moments : ∀ visited, Transaction.Visits host machine visited → visited.Unqueued
  exits : ∀ visited budget entry ready outcome closed, Transaction.Visits host machine visited →
    Instruction.preparation host visited.nextOpcode visited.fetched = .ok (some entry) ready →
    Interpreter.runFrame host (Interpreter.run host budget) entry.transfer
      (ready.entering entry.child) = .ok outcome closed →
    Interpreter.Reaches host budget visited ready entry outcome closed
      (Interpreter.queuedByFrame host (Interpreter.run host budget) entry.transfer
        (ready.entering entry.child)).getLast?
  /-- A raised halt is the parent's own, so frames further out see it as that of their child. -/
  raised : ∀ visited budget halt next, Transaction.Visits host machine visited →
    Instruction.execute host (Interpreter.runFrame host (Interpreter.run host budget))
      visited.nextOpcode visited.fetched = .error (.halt halt) next →
    ∃ outcome ended, Interpreter.run host (budget + 1) visited = .ok outcome ended ∧
      outcome.verdict = .failure (.halt halt) ∧ ended.suspended = visited.suspended

/-- Whatever a collaborator queues, the halt that it has queued last reaches the direct parent of a
halted child once, and nobody else. -/
theorem queued_halts_reach_direct_parents_once (host : Host) (cancun : host.schedule = .cancun)
    (world : World) (cache : Cache) (machine : Machine)
    (booted : Transaction.boot host world cache = .ok machine) :
    QueuesReachParents host machine := by
  constructor
  case named => exact fun _ => Halt.isSticky_iff
  case moments => exact fun visited visits => visits.allUnqueued cancun booted
  case exits =>
    intro visited budget entry ready outcome closed visits prepares ran
    exact Interpreter.reaches_of_runFrame cancun (visits.allUnqueued cancun booted) prepares ran
  case raised =>
    intro visited budget halt next _ raised
    exact Interpreter.run_of_raised cancun raised

/-- The end of the child that an instruction starts, and what is queued for it. -/
def Interpreter.childEnd? (host : Host) (budget : Nat) (machine : Machine) :
    Option (Verdict × List Halt) :=
  match Instruction.preparation host machine.nextOpcode machine.fetched with
  | .ok (some entry) ready =>
      match runFrame host (run host budget) entry.transfer (ready.entering entry.child) with
      | .ok outcome _ => some (outcome.verdict,
          queuedByFrame host (run host budget) entry.transfer (ready.entering entry.child))
      | .error _ _ => none
  | _ => none

theorem Interpreter.childEnd?_eq_some {host : Host} {budget : Nat} {machine : Machine}
    {ending : Verdict × List Halt} (shown : childEnd? host budget machine = some ending) :
    ∃ entry ready outcome closed,
      Instruction.preparation host machine.nextOpcode machine.fetched = .ok (some entry) ready ∧
      runFrame host (run host budget) entry.transfer (ready.entering entry.child) =
        .ok outcome closed ∧
      outcome.verdict = ending.1 ∧
      queuedByFrame host (run host budget) entry.transfer (ready.entering entry.child) =
        ending.2 := by
  unfold childEnd? at shown
  split at shown
  · rename_i entry ready prepares
    split at shown
    · rename_i outcome closed ran
      cases shown
      exact ⟨entry, ready, outcome, closed, prepares, ran, rfl, rfl⟩
    · cases shown
  · cases shown

/-- A contract that calls one that calls one that halts. -/
def relayingWorld : World :=
  ((World.empty.setCode (.ofNat 1000)
    ⟨#[0x5f, 0x5f, 0x5f, 0x5f, 0x5f, 0x61, 0x07, 0xd0, 0x61, 0xff, 0xff, 0xf1, 0x00]⟩).setCode
      (.ofNat 2000)
      ⟨#[0x5f, 0x5f, 0x5f, 0x5f, 0x5f, 0x61, 0x0b, 0xb8, 0x61, 0xff, 0xff, 0xf1, 0x00]⟩).setCode
        (.ofNat 3000) ⟨#[0xfe]⟩

/-- A host whose collaborator queues two halts when a frame at the depth of 2 fails. -/
def relayingHost : Host :=
  let host := Host.standard .blank
    ⟨.zero, .account (.ofNat 1000), .zero, ByteArray.empty, 200000, []⟩ .standard
  let rule : Halt → OutcomeRule := fun halt =>
    ⟨false, some 2, none, none, none, some (.fixed halt), none⟩
  { host with overrides := { host.overrides with
      outcome := some (OutcomeRule.hook [rule .outOfGas, rule .invalidAddress]) } }

/-- The way to the second call. -/
def relaying : List Turn := List.replicate 7 .past ++ .inside :: List.replicate 7 .past

theorem relayed_halt_reaches_its_caller :
    ∃ machine visited, Transaction.boot relayingHost relayingWorld default = .ok machine ∧
      Transaction.Visits relayingHost machine visited ∧ visited.suspended.length = 1 ∧
      ∃ next, Instruction.execute relayingHost
        (Interpreter.runFrame relayingHost (Interpreter.run relayingHost 10)) visited.nextOpcode
        visited.fetched = .error (.halt .invalidAddress) next := by
  have shown : (Transaction.moment? relayingHost relayingWorld relaying).map (fun moments =>
      (moments.2.suspended.length, Interpreter.childEnd? relayingHost 10 moments.2)) =
      some (1, some (.failure (.halt .invalidOpcode), [.outOfGas, .invalidAddress])) := by
    decide +kernel
  obtain ⟨machine, visited, booted, visits, answer⟩ := Transaction.moment?_shows
    (fun moment => (moment.suspended.length, Interpreter.childEnd? relayingHost 10 moment))
    (by decide) shown
  obtain ⟨depth, ending⟩ := Prod.mk.inj answer
  obtain ⟨entry, ready, outcome, closed, prepares, ran, verdict, queued⟩ :=
    Interpreter.childEnd?_eq_some ending
  have reaches := (queued_halts_reach_direct_parents_once relayingHost rfl relayingWorld default
    machine booted).exits visited 10 entry ready outcome closed visits prepares ran
  exact ⟨machine, visited, booted, visits, depth,
    reaches.raisesQueued .invalidOpcode .invalidAddress verdict (by rw [queued]; rfl)⟩

end CancunMachine
