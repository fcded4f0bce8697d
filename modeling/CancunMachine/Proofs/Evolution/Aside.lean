import Mathlib.Tactic
import CancunMachine.Proofs.Evolution.Frame
import CancunMachine.Proofs.Order.Child
import CancunMachine.Proofs.Rollback

/-!
# Views that most steps leave aside

Much of what a machine does is no concern of its storage and of what the substate accumulates for
it: the accounting of gas, transfers, the founding and destruction of accounts, deposits of code,
the opening of a frame and its end. A view of world and substate that looks aside there is the same
before and after all of it, so only the few instructions that write have to be looked at for it.
-/

namespace CancunMachine

open Ending

variable {Alpha Beta Shown : Type} {host : Host}

/-- What a view shows of a machine. -/
def Machine.shown (view : World → Substate → Shown) (machine : Machine) : Shown :=
  view machine.world machine.substate

/-- A view that changes neither with the headers of accounts nor with the marks that the substate
keeps of them, and that sees a world and its checkpoints alike. -/
structure Aside (view : World → Substate → Shown) : Prop where
  header : ∀ {world substate address change},
    (∀ account : Account, (change account).storage = account.storage) →
    view (world.updateHeader address change) substate = view world substate
  destroyed : ∀ world substate address,
    view world (substate.addDestroyed address) = view world substate
  created : ∀ world substate address,
    view world (substate.addCreated address) = view world substate
  opened : ∀ world substate, view world (substate.pushBackup) = view world substate
  kept : ∀ world substate, view world (substate.commitBackup) = view world substate
  seen : ∀ {world other substate}, other.view = world.view →
    view other substate = view world substate

/-- A computation that leaves what a view shows as it was whenever it succeeds. -/
def Leaves (view : World → Substate → Shown) (action : Run Alpha) : Prop :=
  ∀ machine value final, action machine = .ok value final →
    final.shown view = machine.shown view

variable {view : World → Substate → Shown}

theorem Aside.balance (aside : Aside view) (world : World) (address : Address) (balance : Word)
    (substate : Substate) : view (world.setBalance address balance) substate = view world substate :=
  aside.header fun _ => rfl

theorem Aside.moves (aside : Aside view) {source target : Address} {value : Word}
    {world final : World} (moves : World.Moves source target value world final)
    (substate : Substate) : view final substate = view world substate := by
  cases moves with
  | nothing => rfl
  | something _ _ _ => exact (aside.balance _ _ _ _).trans (aside.balance _ _ _ _)

namespace Leaves

theorem bind {first : Run Alpha} {next : Alpha → Run Beta} (early : Leaves view first)
    (late : ∀ value, Leaves view (next value)) : Leaves view (first >>= next) := by
  intro machine value final done
  obtain ⟨shown, middle, started, rest⟩ := bind_eq_ok.mp done
  exact (late shown middle value final rest).trans (early machine shown middle started)

theorem branch {condition : Prop} [Decidable condition] {left right : Run Alpha}
    (yes : Leaves view left) (no : Leaves view right) :
    Leaves view (if condition then left else right) := by
  split
  · exact yes
  · exact no

theorem of_prudent {steady : Prop} {phase : Phase} {action : Run Alpha}
    (prudent : Prudent steady True phase action) : Leaves view action := by
  intro machine value final done
  obtain ⟨world, substate⟩ := Prod.mk.inj ((prudent.keeps trivial).of_ok done)
  unfold Machine.shown
  rw [world, substate]

theorem of_work {action : Run Alpha} (works : Prudent True True .works action) :
    Leaves view action := of_prudent works

theorem of_payment {action : Run Alpha} (pays : Prudent True True .pays action) :
    Leaves view action := of_prudent pays

theorem pure (value : Alpha) : Leaves view (Pure.pure value : Run Alpha) := by
  intro machine shown final done
  cases done
  rfl

theorem halt (reason : Halt) : Leaves view (Run.halt reason : Run Alpha) := by
  intro machine value final done
  cases done

theorem frame (question : Frame → Alpha) : Leaves view (Run.frame question) := by
  intro machine value final done
  cases done
  rfl

theorem onWorld {access : Access Alpha}
    (leaves : ∀ {world value final substate}, access world = .ok value final →
      view final substate = view world substate) : Leaves view (Run.onWorld access) := by
  intro machine value final done
  obtain ⟨world, accessed, rfl⟩ := Run.onWorld_eq_ok.mp done
  exact leaves accessed

theorem reading {access : Access Alpha} {question : World → Alpha}
    (reads : Access.Reads host.refusals access question) : Leaves view (Run.onWorld access) :=
  onWorld fun accessed => by rw [(reads.shows accessed).2]

/-- A write that changes an account, but not its storage. -/
theorem writing (aside : Aside view) {access : Access Unit} {address : Address}
    {change : Account → Account}
    (writes : Access.Writes host.refusals access (·.updateHeader address change))
    (keeps : ∀ account, (change account).storage = account.storage) :
    Leaves view (Run.onWorld access) :=
  onWorld fun accessed => by
    rw [writes.changes accessed]
    exact aside.header keeps

theorem transferring (aside : Aside view) (source target : Address) (value : Word) :
    Leaves view (Run.onWorld (Access.transfer host.refusals source target value)) :=
  onWorld fun transferred => aside.moves (Access.moves_of_transfer transferred) _

theorem modifySubstate {change : Substate → Substate}
    (leaves : ∀ world substate, view world (change substate) = view world substate) :
    Leaves view (Run.modifySubstate change) := by
  intro machine value final done
  cases done
  exact leaves _ _

end Leaves

/-- A computation that changes what a view shows in one way whenever it succeeds. -/
def Alters (view : World → Substate → Shown) (change : Shown → Shown) (action : Run Alpha) : Prop :=
  ∀ machine value final, action machine = .ok value final →
    final.shown view = change (machine.shown view)

theorem Leaves.alters {change : Shown → Shown} {first : Run Alpha} {next : Alpha → Run Beta}
    (early : Leaves view first) (late : ∀ value, Alters view change (next value)) :
    Alters view change (first >>= next) := by
  intro machine value final done
  obtain ⟨shown, middle, started, rest⟩ := bind_eq_ok.mp done
  rw [late shown middle value final rest, early machine shown middle started]

namespace Alters

variable {change : Shown → Shown}

theorem bind {later : Shown → Shown} {first : Run Alpha} {next : Alpha → Run Beta}
    (early : Alters view change first) (late : ∀ value, Alters view later (next value)) :
    Alters view (later ∘ change) (first >>= next) := by
  intro machine value final done
  obtain ⟨shown, middle, started, rest⟩ := bind_eq_ok.mp done
  rw [late shown middle value final rest, early machine shown middle started]
  rfl

theorem still {first : Run Alpha} {next : Alpha → Run Beta} (early : Alters view change first)
    (late : ∀ value, Leaves view (next value)) : Alters view change (first >>= next) := by
  have same : ∀ value, Alters view id (next value) := late
  exact early.bind same

theorem modifySubstate {mark : Substate → Substate}
    (marks : ∀ world substate, view world (mark substate) = change (view world substate)) :
    Alters view change (Run.modifySubstate mark) := by
  intro machine value final done
  cases done
  exact marks _ _

theorem writing {access : Access Unit} {write : World → World}
    (writes : Access.Writes host.refusals access write)
    (alters : ∀ world substate, view (write world) substate = change (view world substate)) :
    Alters view change (Run.onWorld access) := by
  intro machine value final done
  obtain ⟨world, written, rfl⟩ := Run.onWorld_eq_ok.mp done
  rw [writes.changes written]
  exact alters _ _

end Alters

namespace Instruction

variable {enter : Transfer → Run Outcome} {opcode : Opcode} {machine final : Machine}
  {signal : Signal}

theorem leaves_bequeath (aside : Aside view) (address beneficiary : Address) (balance : Word) :
    Leaves view (bequeath host address beneficiary balance) := by
  refine (Leaves.transferring aside _ _ _).bind fun _ =>
    (Leaves.of_work prudent_get).bind fun _ => ?_
  apply Leaves.branch
  · exact (Leaves.writing aside (Access.writes_balance _ _) fun _ => rfl).bind fun _ =>
      .modifySubstate fun world substate => aside.destroyed world substate _
  · exact .pure _

theorem leaves_selfdestruct (aside : Aside view) (default : host.overrides.destruction = none) :
    Leaves view (selfdestruct host) := by
  rw [selfdestruct_eq default]
  exact (Leaves.of_work prudent_forbidStatic).bind fun _ =>
    (Leaves.of_work prudent_peekOne).bind fun _ => (Leaves.frame _).bind fun _ =>
    (Leaves.reading (Access.reads_balance _)).bind fun _ =>
    (Leaves.of_payment (prudent_chargeDestruction _ _)).bind fun _ =>
    (leaves_bequeath aside _ _ _).bind fun _ => .pure _

theorem leaves_initcodeEntry (aside : Aside view) (request : CreationRequest) (deployer : Address)
    (offset size : Nat) : Leaves view (initcodeEntry host request deployer offset size) := by
  have counts : Leaves view (Run.onWorld (Access.incrementNonce host.refusals deployer)) :=
    .onWorld fun incremented => by
      obtain ⟨_, _, rfl⟩ := Access.incrementNonce_eq_ok incremented
      exact aside.header fun _ => rfl
  exact (Leaves.of_work (prudent_load _ _)).bind fun _ => counts.bind fun _ =>
    (Leaves.of_work (prudent_warmAddress _)).bind fun _ => (Leaves.frame _).bind fun _ =>
    (Leaves.of_payment (prudent_charge _)).bind fun _ =>
    (Leaves.of_work (prudent_initcodeFrame _ _ _ _ _ _)).bind fun _ => .pure _

theorem leaves_prepareCreation (aside : Aside view) (request : CreationRequest) :
    Leaves view (prepareCreation host request) := by
  refine (Leaves.of_payment (prudent_payCreation _)).bind fun range =>
    (Leaves.frame _).bind fun deployer =>
    (Leaves.of_work (prudent_creationFailsEarly _ _)).bind fun early => ?_
  apply Leaves.branch
  · exact (Leaves.of_work (prudent_push _)).bind fun _ => .pure _
  · exact (leaves_initcodeEntry aside _ _ _ _).bind fun _ => .pure _

/-- Preparing a child moves value and counts creations at most. -/
theorem leaves_preparation (aside : Aside view) (opcode : Opcode) :
    Leaves view (preparation host opcode) := by
  have calling : ∀ {read : Run CallRequest}, Prudent True True .looks read →
      Leaves view (do prepareCall host (← read)) :=
    fun looks => (Leaves.of_prudent looks).bind fun request =>
      .of_payment (prudent_prepareCall request)
  have creating : ∀ {read : Run CreationRequest}, Prudent True True .looks read →
      Leaves view (do prepareCreation host (← read)) :=
    fun looks => (Leaves.of_prudent looks).bind (leaves_prepareCreation aside)
  cases opcode with
  | call => exact calling prudent_readCall
  | callcode => exact calling prudent_readCallcode
  | delegatecall => exact calling prudent_readDelegatecall
  | staticcall => exact calling prudent_readStaticcall
  | create => exact creating (.ask prudent_peekThree fun _ => prudent_pure _)
  | create2 => exact creating (.ask prudent_peekFour fun _ => prudent_pure _)
  | _ => exact .pure none

theorem finishes_course (starts : opcode.startsChild = true)
    (request : (course host opcode starts).Request) (entry : Entry) (outcome : Outcome) :
    Finishes host outcome ((course host opcode starts).finish request entry outcome) := by
  cases opcode
  case call | callcode | delegatecall | staticcall => exact finishes_finishCall _
  case create | create2 => exact finishes_finishCreation _
  all_goals cases starts

/-- An instruction that starts a child goes on with what the child has left, and touches neither
world nor substate any more. -/
theorem resumed_of_startsChild (starts : opcode.startsChild = true) (enters : Enters host enter)
    (done : execute host enter opcode machine = .ok signal final) :
    preparation host opcode machine = .ok none final ∨
    ∃ entry ready outcome closed, preparation host opcode machine = .ok (some entry) ready ∧
      enter entry.transfer (ready.entering entry.child) = .ok outcome closed ∧
      Evolves host (closed.resumed host ready.frame ready.suspended) final ∧
      final.world = closed.world ∧ final.substate = closed.substate := by
  have executes := (course host opcode starts).executes enter
  have prepares := (course host opcode starts).prepares
  have resumes := (course host opcode starts).resumes
  have finishes : ∀ request entry outcome, Finishes host outcome
      ((course host opcode starts).finish request entry outcome) := finishes_course starts
  rw [executes] at done
  obtain ⟨request, middle, reads, rest⟩ := bind_eq_ok.mp done
  obtain ⟨answer, ready, answers, rest⟩ := bind_eq_ok.mp rest
  have prepared : preparation host opcode machine = .ok answer ready := by
    rw [prepares]
    exact bind_eq_ok.mpr ⟨request, middle, reads, answers⟩
  cases answer with
  | none =>
      cases rest
      exact .inl prepared
  | some entry =>
      obtain ⟨outcome, returned, ran, finished⟩ := bind_eq_ok.mp rest
      obtain ⟨closed, entered, rfl⟩ := entered_of_runChild enters ran
      obtain ⟨world, substate⟩ := (resumes request entry outcome).keeps finished
      obtain ⟨acts, _⟩ := (finishes request entry outcome).acts finished
      exact .inr ⟨entry, ready, outcome, closed, prepared, entered, acts.evolves, world, substate⟩

/-- An instruction that starts a child hands on what the child has left. -/
theorem shown_of_startsChild (view : World → Substate → Shown)
    (starts : opcode.startsChild = true) (enters : Enters host enter)
    (done : execute host enter opcode machine = .ok signal final) :
    (∃ ready, preparation host opcode machine = .ok none ready ∧
      final.shown view = ready.shown view) ∨
    ∃ entry ready outcome closed, preparation host opcode machine = .ok (some entry) ready ∧
      enter entry.transfer (ready.entering entry.child) = .ok outcome closed ∧
      final.shown view = closed.shown view := by
  rcases resumed_of_startsChild starts enters done with
    none | ⟨entry, ready, outcome, closed, prepared, entered, _, world, substate⟩
  · exact .inl ⟨final, none, rfl⟩
  · refine .inr ⟨entry, ready, outcome, closed, prepared, entered, ?_⟩
    unfold Machine.shown
    rw [world, substate]

end Instruction

namespace Interpreter

theorem leaves_claimAddress (aside : Aside view) (address : Address) :
    Leaves view (claimAddress host address) := by
  have founds : Leaves view (do
      Run.onWorld (Access.writeNonce host.refusals address 1)
      Run.modifySubstate (·.addCreated address)) :=
    (Leaves.writing aside (Access.writes_nonce _ _) fun _ => rfl).bind fun _ =>
      .modifySubstate fun world substate => aside.created world substate _
  refine (Leaves.reading (Access.reads_account _)).bind fun holder => ?_
  cases holder with
  | none => exact founds
  | some account => exact .branch ((Leaves.halt _).bind fun _ => founds) founds

theorem leaves_runPrecompile : Leaves view (runPrecompile host) := by
  refine (Leaves.frame _).bind fun frame => ?_
  simp only
  split
  · exact .pure _
  · intro machine value final done
    cases done
  · refine (Leaves.of_payment (prudent_charge _)).bind fun _ => ?_
    intro machine value final done
    cases done
    rfl

/-- The start of a frame moves value and founds accounts. -/
theorem leaves_startFrame (aside : Aside view) (transfer : Transfer) :
    Leaves view (startFrame host transfer) := by
  have pays : ∀ invocation : Invocation, Leaves view (paying host transfer invocation) :=
    fun invocation => (Leaves.transferring aside _ _ _).bind fun _ =>
      .branch leaves_runPrecompile (.pure _)
  refine (Leaves.frame _).bind fun invocation => ?_
  apply Leaves.branch
  · exact (leaves_claimAddress aside _).bind fun _ => pays invocation
  · exact pays invocation

theorem leaves_depositCode (aside : Aside view) : Leaves view (depositCode host) := by
  refine (Leaves.frame _).bind fun frame => ?_
  have deposits : Leaves view (do
      Run.chargeCost (host.schedule.codeDeposit frame.output.size)
      Run.onWorld (Access.writeCode host.refusals frame.invocation.recipient frame.output)) :=
    (Leaves.of_payment (prudent_chargeCost _)).bind fun _ =>
      .writing aside (Access.writes_code _ _) fun _ => rfl
  have checks : Leaves view (do
      if !frame.output.isEmpty && Bytes.get frame.output 0 = reservedCodeByte then
        Run.halt .invalidContractPrefix
      Run.chargeCost (host.schedule.codeDeposit frame.output.size)
      Run.onWorld (Access.writeCode host.refusals frame.invocation.recipient frame.output)) :=
    .branch ((Leaves.halt _).bind fun _ => deposits) deposits
  exact .branch ((Leaves.halt _).bind fun _ => checks) checks

theorem failFrame_fails {cause : Failure} {machine final : Machine} {outcome : Outcome}
    (done : failFrame cause machine = .ok outcome final) : outcome.isSuccess = false := by
  cases ends : cause.endsMessage with
  | true =>
      rw [failFrame_of_fatal ends] at done
      cases done
  | false =>
      unfold failFrame at done
      rw [if_neg (by simp [ends])] at done
      cases reverts : cause.isRevert <;> rw [reverts] at done <;> cases done <;> rfl

/-- A frame that stops and succeeds deposits code at most. -/
theorem shown_of_stopFrame (aside : Aside view) {machine final : Machine} {outcome : Outcome}
    (done : stopFrame host machine = .ok outcome final) (succeeds : outcome.isSuccess = true) :
    final.shown view = machine.shown view := by
  cases creates : machine.frame.invocation.kind.isCreation with
  | false =>
      rw [stopFrame_of_call creates] at done
      cases done
      rfl
  | true =>
      cases deposited : depositCode host machine with
      | ok _ settled =>
          rw [stopFrame_of_deposit creates deposited] at done
          cases done
          exact leaves_depositCode aside _ _ _ deposited
      | error cause refused =>
          rw [stopFrame_of_refusal creates deposited] at done
          rw [failFrame_fails done] at succeeds
          cases succeeds

end Interpreter

theorem Machine.shown_opened (aside : Aside view) (machine : Machine) :
    (machine.opened host).shown view = machine.shown view :=
  (aside.opened machine.world.checkpoint machine.substate).trans (aside.seen rfl)

/-- A frame that succeeds hands on what it shows. -/
theorem Closes.shown (aside : Aside view) {outcome : Outcome} {ended closed : Machine}
    (closes : Closes host outcome ended closed) (succeeds : outcome.isSuccess = true) :
    closed.shown view = ended.shown view := by
  cases closes with
  | undone world fails =>
      rw [succeeds] at fails
      cases fails
  | kept world _ commits =>
      exact (aside.seen (World.view_of_commit commits)).trans (aside.kept _ _)

/-- A frame that ends is closed after its end has been concluded. -/
theorem Interpreter.closes_of_runFrame (plain : host.Plain) {body : Run Outcome}
    {transfer : Transfer} {machine final : Machine} {outcome : Outcome}
    (done : runFrame host body transfer machine = .ok outcome final) :
    ∃ ended, concluding host body transfer (machine.opened host) = .ok outcome ended ∧
      Closes host outcome ended final := by
  rw [runFrame_of_plain plain] at done
  obtain ⟨shown, ended, concluded, rest⟩ := bind_eq_ok.mp done
  obtain ⟨_, closed, exits, returned⟩ := bind_eq_ok.mp rest
  cases returned
  refine ⟨ended, concluded, ?_⟩
  rcases exitFrame_cases host outcome ended with ⟨left, exited, closes⟩ | ⟨_, fails, _⟩
  · rw [exited] at exits
    cases exits
    exact closes
  · rw [fails] at exits
    cases exits

theorem Interpreter.shown_of_success (plain : host.Plain) (aside : Aside view) {body : Run Outcome}
    {transfer : Transfer} {machine final : Machine} {outcome : Outcome}
    (done : runFrame host body transfer machine = .ok outcome final)
    (succeeds : outcome.isSuccess = true) :
    ∃ ended, concluding host body transfer (machine.opened host) = .ok outcome ended ∧
      final.shown view = ended.shown view := by
  obtain ⟨ended, concluded, closes⟩ := closes_of_runFrame plain done
  exact ⟨ended, concluded, closes.shown aside succeeds⟩

/-- A frame that fails shows what it showed when it was entered. -/
theorem FrameRuns.shown (aside : Aside view) {transfer : Transfer} {outcome : Outcome}
    {machine final : Machine} (runs : FrameRuns host transfer machine outcome final)
    (failed : outcome.isSuccess = false) : final.shown view = machine.shown view := by
  have restored := runs.restored failed
  unfold Machine.shown
  rw [restored.substate]
  exact aside.seen restored.world.view

end CancunMachine
