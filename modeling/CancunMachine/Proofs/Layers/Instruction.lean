import Mathlib.Tactic
import CancunMachine.Proofs.Order.Child
import CancunMachine.Proofs.World.Layers

/-!
# What instructions leave in the layers of the journal

However an instruction ends, what it did to the world can be taken back with the records that it
left, up to checkpoints that its children may have left open. Most instructions leave the world as
it was.
-/

namespace CancunMachine

open Ending

variable {Alpha Beta : Type}

/-- A computation whose changes of the world can be taken back, up to checkpoints that it leaves
open, however it ends. -/
def Layered (action : Run Alpha) : Prop :=
  ∀ machine : Machine, ∃ count, machine.world.LeavesOpen count (reached (action machine)).world

namespace Layered

theorem bind {first : Run Alpha} {next : Alpha → Run Beta} (early : Layered first)
    (late : ∀ value, Layered (next value)) : Layered (first >>= next) := by
  intro machine
  obtain ⟨count, started⟩ := early machine
  cases ended : first machine with
  | error cause middle =>
      rw [bind_of_error ended]
      rw [ended] at started
      exact ⟨count, started⟩
  | ok value middle =>
      rw [bind_of_ok ended]
      rw [ended] at started
      obtain ⟨more, finished⟩ := late value middle
      exact ⟨_, started.trans finished⟩

theorem branch {condition : Prop} [Decidable condition] {left right : Run Alpha}
    (yes : Layered left) (no : Layered right) : Layered (if condition then left else right) := by
  split
  · exact yes
  · exact no

/-- Something that is done only on a condition, before the rest. -/
theorem guard {condition : Prop} [Decidable condition] {first : Run Unit} {rest : Unit → Run Alpha}
    (early : Layered first) (late : Layered (rest ())) :
    Layered (if condition then first >>= rest else rest ()) :=
  .branch (early.bind fun _ => late) late

theorem attempt {action : Run Alpha} (layered : Layered action) :
    Layered (Run.attempt action) := by
  intro machine
  obtain ⟨count, leaves⟩ := layered machine
  cases ended : action machine with
  | ok value final =>
      rw [Run.attempt_of_ok ended]
      rw [ended] at leaves
      exact ⟨count, leaves⟩
  | error cause final =>
      rw [Run.attempt_of_error ended]
      rw [ended] at leaves
      exact ⟨count, leaves⟩

theorem of_keeps {action : Run Alpha} (keeps : Keeps (·.world) action) : Layered action := by
  intro machine
  have same := keeps machine
  simp only at same
  rw [same]
  exact ⟨0, .refl _⟩

theorem of_prudent {steady : Prop} {phase : Phase} {action : Run Alpha}
    (prudent : Prudent steady True phase action) : Layered action :=
  of_keeps fun machine => congrArg Prod.fst (prudent.keeps trivial machine)

/-- A silent part of an instruction comes before the rest. -/
theorem silently {phase : Phase} {first : Run Alpha} {next : Alpha → Run Beta}
    (early : Prudent True True phase first) (late : ∀ value, Layered (next value)) :
    Layered (first >>= next) :=
  (of_prudent early).bind late

/-- A look fits into every phase, so none has to be named. -/
theorem ask {first : Run Alpha} {next : Alpha → Run Beta}
    (early : Prudent True True .mixed first) (late : ∀ value, Layered (next value)) :
    Layered (first >>= next) :=
  silently early late

theorem measure {answer : Except Halt Alpha} {next : Alpha → Run Beta}
    (late : ∀ value, Layered (next value)) : Layered (Run.ofHalting answer >>= next) :=
  .ask (prudent_ofHalting answer nofun) late

end Layered

theorem layered_pure (value : Alpha) : Layered (pure value : Run Alpha) :=
  .of_keeps fun _ => rfl

theorem layered_throw (cause : Failure) : Layered (throw cause : Run Alpha) :=
  .of_keeps fun _ => rfl

theorem layered_halt (reason : Halt) : Layered (Run.halt reason : Run Alpha) :=
  layered_throw _

theorem layered_get : Layered (get : Run Machine) := .of_keeps fun _ => rfl

theorem layered_frame (question : Frame → Alpha) : Layered (Run.frame question) :=
  .of_keeps fun _ => rfl

theorem layered_modifyFrame (change : Frame → Frame) : Layered (Run.modifyFrame change) :=
  .of_keeps fun _ => rfl

theorem layered_modifySubstate (change : Substate → Substate) :
    Layered (Run.modifySubstate change) := .of_keeps fun _ => rfl

theorem layered_record (event : Event) : Layered (Run.record event) := .of_keeps fun _ => rfl

theorem layered_trace (host : Host) (event : Event) : Layered (Run.trace host event) :=
  .branch (layered_record event) (layered_pure _)

theorem layered_ofExcept (answer : Except Failure Alpha) : Layered (Run.ofExcept answer) := by
  cases answer with
  | ok value => exact layered_pure value
  | error cause => exact layered_throw cause

theorem layered_onWorld {access : Access Alpha} (journaled : Access.Journaled access) :
    Layered (Run.onWorld access) := by
  intro machine
  have course := journaled machine.world
  unfold Run.onWorld
  cases ended : access machine.world with
  | ok value world =>
      rw [ended] at course
      exact ⟨0, .none course⟩
  | error error world =>
      rw [ended] at course
      exact ⟨0, .none course⟩

namespace Instruction

variable {host : Host} {enter : Transfer → Run Outcome}

theorem layered_sstore : Layered (sstore host) := by
  refine .ask prudent_forbidStatic fun _ => .ask (prudent_frame _) fun gas =>
    .guard (layered_halt _) ?_
  refine .ask prudent_peekTwo fun _ => .ask (prudent_frame _) fun _ =>
    .ask (prudent_reading (Access.reads_slot _ _)) fun _ =>
    .ask (prudent_reading (Access.reads_initial _ _)) fun _ =>
    .ask (prudent_isColdSlot _ _) fun _ => .silently (prudent_chargeCost _) fun _ =>
    .silently (prudent_warmSlot _ _) fun _ => .silently (prudent_drop 2) fun _ =>
    (layered_modifySubstate _).bind fun _ =>
    (layered_onWorld (Access.journaled_writeSlot _ _ _)).bind fun _ =>
    (layered_modifyFrame _).bind fun _ => (layered_frame _).bind fun tracked => ?_
  exact .guard (layered_trace _ _) (layered_pure _)

theorem layered_tstore : Layered (tstore host) :=
  .ask prudent_forbidStatic fun _ => .silently (prudent_charge _) fun _ =>
    .silently prudent_popTwo fun _ => .ask (prudent_frame _) fun _ =>
    (layered_modifySubstate _).bind fun _ => layered_pure _

theorem layered_log (topics : Nat) : Layered (log host topics) :=
  .ask prudent_forbidStatic fun _ => .ask (prudent_peek _) fun _ => .ask prudent_peekTwo fun _ =>
    .measure fun _ => .measure fun _ => .ask (prudent_frame _) fun _ =>
    .silently (prudent_chargeCost _) fun _ => .silently (prudent_drop 2) fun _ =>
    .silently (prudent_pop _) fun _ => .ask (prudent_frame _) fun _ =>
    .silently (prudent_load _ _) fun _ =>
    (layered_modifySubstate _).bind fun _ => layered_pure _

theorem layered_bequeath (address beneficiary : Address) (balance : Word) :
    Layered (bequeath host address beneficiary balance) := by
  refine (layered_onWorld (Access.journaled_transfer _ _ _)).bind fun _ => layered_get.bind
    fun machine => .branch ?_ (layered_pure _)
  exact (layered_onWorld (Access.journaled_writeBalance _ _)).bind fun _ =>
    layered_modifySubstate _

theorem layered_overriddenDestruction (override : DestructionOverride) (beneficiary : Address) :
    Layered (overriddenDestruction override beneficiary) :=
  .silently (prudent_drop 1) fun _ => layered_get.bind fun _ =>
    (layered_record _).bind fun _ => .silently (prudent_charge _) fun _ => layered_ofExcept _

theorem layered_selfdestruct : Layered (selfdestruct host) := by
  refine .ask prudent_forbidStatic fun _ => .ask prudent_peekOne fun word => ?_
  cases host.overrides.destruction with
  | some override => exact layered_overriddenDestruction override _
  | none =>
      exact (layered_frame _).bind fun _ => .ask (prudent_reading (Access.reads_balance _))
        fun _ => .silently (prudent_chargeDestruction _ _) fun _ => (layered_bequeath _ _ _).bind
        fun _ => layered_pure _

/-- Moving from a frame to another leaves the world alone. -/
theorem layered_resume : Layered (resume host) := by
  refine .of_keeps fun machine => ?_
  unfold resume
  rw [bind_of_ok (get_apply machine)]
  cases machine.suspended <;> rfl

theorem layered_runChild {transfer : Transfer} (child : Frame)
    (enters : Layered (enter transfer)) : Layered (runChild host enter child transfer) := by
  have suspends : Layered (suspend child) := .of_keeps fun _ => rfl
  exact suspends.bind fun _ => enters.attempt.bind fun outcome => layered_resume.bind fun _ =>
    layered_ofExcept outcome

theorem layered_raiseChildHalt (outcome : Outcome) : Layered (raiseChildHalt outcome) := by
  refine .of_keeps fun machine => ?_
  simp only [raiseChildHalt_apply, looks_raised]

theorem layered_finishCall (outcome : Outcome) (operands : CallOperands) :
    Layered (finishCall outcome operands) :=
  (layered_raiseChildHalt outcome).bind fun _ => .silently (prudent_returnGas outcome) fun _ =>
    (layered_modifyFrame _).bind fun _ => .silently (prudent_storePadded _ _ _) fun _ =>
    .silently (prudent_push _) fun _ => layered_pure _

theorem layered_performCall (request : CallRequest)
    (enters : ∀ transfer, Layered (enter transfer)) : Layered (performCall host enter request) := by
  refine .silently (prudent_prepareCall request) fun prepared => ?_
  cases prepared with
  | none => exact layered_pure _
  | some entry =>
      exact (layered_runChild entry.child (enters _)).bind fun outcome =>
        layered_finishCall outcome _

theorem layered_finishCreation (outcome : Outcome) (address : Address) :
    Layered (finishCreation outcome address) := by
  refine (layered_raiseChildHalt outcome).bind fun _ =>
    .silently (prudent_returnGas outcome) fun _ => .branch ?_ ?_
  · exact .silently (prudent_push _) fun _ => layered_pure _
  · exact (layered_modifyFrame _).bind fun _ => .silently (prudent_push _) fun _ => layered_pure _

theorem layered_initcodeEntry (request : CreationRequest) (deployer : Address)
    (offset size : Nat) : Layered (initcodeEntry host request deployer offset size) :=
  .silently (prudent_load _ _) fun _ =>
    (layered_onWorld (Access.journaled_incrementNonce _)).bind fun _ =>
    .silently (prudent_warmAddress _) fun _ => (layered_frame _).bind fun _ =>
    .silently (prudent_charge _) fun _ => .silently (prudent_initcodeFrame _ _ _ _ _ _) fun _ =>
    layered_pure _

theorem layered_performCreation (request : CreationRequest)
    (enters : ∀ transfer, Layered (enter transfer)) :
    Layered (performCreation host enter request) := by
  have prepares : Layered (prepareCreation host request) := by
    refine .silently (prudent_payCreation _) fun range => (layered_frame _).bind fun deployer =>
      .ask (prudent_creationFailsEarly _ _) fun early => .branch ?_ ?_
    · exact .silently (prudent_push _) fun _ => layered_pure _
    · exact (layered_initcodeEntry _ _ _ _).bind fun _ => layered_pure _
  refine prepares.bind fun prepared => ?_
  cases prepared with
  | none => exact layered_pure _
  | some entry =>
      exact (layered_runChild entry.child (enters _)).bind fun outcome =>
        layered_finishCreation outcome _

/-- Every instruction leaves in the journal what is needed to take back what it did, if its children
do. -/
theorem layered_execute (enters : ∀ transfer, Layered (enter transfer)) (opcode : Opcode) :
    Layered (execute host enter opcode) := by
  have regular : opcode.isRegular = true → opcode.writes = false →
      Layered (execute host enter opcode) := by
    intro regular harmless
    have prudent : Prudent False True .pays (execute host enter opcode) :=
      prudent_execute regular False.elim fun _ => harmless
    exact .of_prudent prudent
  cases opcode with
  | sstore => exact layered_sstore
  | tstore => exact layered_tstore
  | log topics => exact layered_log _
  | selfdestruct => exact layered_selfdestruct
  | call => exact .silently prudent_readCall fun request => layered_performCall request enters
  | callcode =>
      exact .silently prudent_readCallcode fun request => layered_performCall request enters
  | delegatecall =>
      exact .silently prudent_readDelegatecall fun request => layered_performCall request enters
  | staticcall =>
      exact .silently prudent_readStaticcall fun request => layered_performCall request enters
  | create =>
      exact .ask (.ask prudent_peekThree fun _ => prudent_pure _) fun request =>
        layered_performCreation request enters
  | create2 =>
      exact .ask (.ask prudent_peekFour fun _ => prudent_pure _) fun request =>
        layered_performCreation request enters
  | _ => exact regular rfl rfl

end Instruction

end CancunMachine
