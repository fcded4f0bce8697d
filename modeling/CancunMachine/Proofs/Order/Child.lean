import Mathlib.Tactic
import CancunMachine.Proofs.Evolution.Entry
import CancunMachine.Proofs.Order.Instruction

/-!
# The order of calls and creations

A call or creation reads its request, prepares a child, runs it and takes it back. All of them do so
in the same order, and however they end, every frame stands where it stood: the child has its own
program, and its parent goes on behind the instruction that has started it.
-/

namespace CancunMachine

open Ending

/-- The program of a frame and its position there. -/
def Frame.place (frame : Frame) : Interned × Nat := (frame.program, frame.pc)

namespace Machine

/-- Where the frames that wait will go on, innermost first. -/
def waiting (machine : Machine) : List (Interned × Nat) := machine.suspended.map Frame.place

/-- Where all frames stand, the running one first. -/
def places (machine : Machine) : List (Interned × Nat) :=
  machine.frame.place :: machine.waiting

theorem waiting_entering (machine : Machine) (child : Frame) :
    (machine.entering child).waiting = machine.places := rfl

end Machine

theorem Keeps.waiting {Alpha : Type} {action : Run Alpha} (keeps : Keeps Machine.setting action) :
    Keeps Machine.waiting action :=
  fun machine => congrArg (·.1.map Frame.place) (keeps machine)

theorem Prudent.places {Alpha : Type} {silent : Prop} {phase : Phase} {action : Run Alpha}
    (prudent : Prudent True silent phase action) : Keeps Machine.places action := by
  intro machine
  have program : (reached (action machine)).frame.program = machine.frame.program :=
    congrArg (·.2.1) (prudent.stays machine)
  have pc := prudent.stands trivial machine
  have waiting := prudent.stays.waiting machine
  simp only at pc
  rw [Machine.places, Frame.place, program, pc, waiting]
  rfl

namespace Instruction

variable {host : Host} {enter : Transfer → Run Outcome}

/-- A child that leaves the frames that wait where they stand gives its parent back in its place. -/
theorem places_of_runChild {transfer : Transfer} (child : Frame)
    (enters : Keeps Machine.waiting (enter transfer)) :
    Keeps Machine.places (runChild host enter child transfer) := by
  intro machine
  obtain ⟨ending, closed, ended⟩ : ∃ ending closed,
      Run.attempt (enter transfer) (machine.entering child) = .ok ending closed := by
    cases attempted : Run.attempt (enter transfer) (machine.entering child) with
    | ok ending closed => exact ⟨ending, closed, rfl⟩
    | error cause closed => exact absurd attempted Run.attempt_ne_error
  have waiting : closed.waiting = machine.places :=
    (enters.attempt.of_ok ended).trans (machine.waiting_entering child)
  unfold runChild
  rw [bind_of_ok (suspend_apply _ _), bind_of_ok ended]
  cases layers : closed.suspended with
  | nil =>
      rw [Machine.waiting, layers] at waiting
      cases waiting
  | cons parent others =>
      rw [bind_of_ok (resume_of_suspended layers)]
      have places : (closed.resumed host parent others).places = machine.places := by
        rw [← waiting, Machine.waiting, layers]
        rfl
      cases ending <;> exact places

/-- What a parent does with the outcome of its child. -/
structure Resumes (action : Run Signal) : Prop where
  places : Keeps Machine.places action
  affords : ∀ {machine final}, machine.frame.queuedHalt = none →
    action machine ≠ .error (.halt .outOfGas) final
  clears : ∀ {machine signal final}, action machine = .ok signal final →
    final.frame.queuedHalt = none
  keeps : ∀ {machine signal final}, action machine = .ok signal final →
    final.world = machine.world ∧ final.substate = machine.substate

/-- The halt that a parent raises in place of its child, given the halt that was queued for it. -/
def raised (outcome : Outcome) (queued : Option Halt) : Run Unit :=
  match outcome.haltReason?, queued with
  | none, _ => pure ()
  | some _, some reason => Run.halt reason
  | some reason, none => if reason.isSticky then Run.halt reason else pure ()

theorem raiseChildHalt_apply (outcome : Outcome) (machine : Machine) :
    raiseChildHalt outcome machine = raised outcome machine.frame.queuedHalt
      { machine with frame.queuedHalt := none } := rfl

theorem looks_raised (outcome : Outcome) (queued : Option Halt) (machine : Machine) :
    reached (raised outcome queued machine) = machine := by
  unfold raised
  cases outcome.haltReason? with
  | none => rfl
  | some reason =>
      cases queued with
      | some halt => rfl
      | none => by_cases sticky : reason.isSticky = true <;> simp [sticky, reached]

theorem raiseChildHalt_eq_ok {outcome : Outcome} {machine final : Machine}
    (raises : raiseChildHalt outcome machine = .ok () final) :
    final = { machine with frame.queuedHalt := none } := by
  have ended := looks_raised outcome machine.frame.queuedHalt
    { machine with frame.queuedHalt := none }
  rw [← raiseChildHalt_apply, raises] at ended
  exact ended

/-- Of its own accord a parent raises only sticky halts, and running out of gas is not sticky. -/
theorem raised_affords (outcome : Outcome) {machine final : Machine} :
    raised outcome none machine ≠ .error (.halt .outOfGas) final := by
  unfold raised
  cases outcome.haltReason? with
  | none => simp
  | some reason =>
      by_cases sticky : reason.isSticky = true
      · simp only [if_pos sticky, Run.halt_apply, ne_eq, EStateM.Result.error.injEq,
          Failure.halt.injEq, not_and]
        rintro rfl
        cases sticky
      · simp [sticky]

theorem prudent_returnGas (outcome : Outcome) :
    Prudent True True .works (returnGas outcome) := by
  refine .ask (prudent_frame _) fun gas => ?_
  cases addWithin? gas outcome.gasRemaining with
  | none => exact prudent_throw fun _ => nofun
  | some total => exact prudent_modifyFrame _ (fun _ => rfl) (fun _ => rfl) fun _ _ => rfl

theorem resumes_of_rest {outcome : Outcome} {rest : Run Signal}
    (works : Prudent True True .works rest) :
    Resumes (do
      raiseChildHalt outcome
      returnGas outcome
      rest) := by
  have later : Prudent True True .works (do
      returnGas outcome
      rest) := (prudent_returnGas outcome).work fun _ => works
  have raises : Keeps Machine.places (raiseChildHalt outcome) := by
    intro machine
    rw [raiseChildHalt_apply, looks_raised]
    rfl
  constructor
  case places => exact raises.bind fun _ => later.places
  case affords =>
    intro machine final unqueued starved
    rcases bind_eq_error.mp starved with early | ⟨_, _, _, late⟩
    · rw [raiseChildHalt_apply, unqueued] at early
      exact raised_affords outcome early
    · exact later.affords rfl late
  case clears =>
    intro machine signal final done
    obtain ⟨_, middle, raised, rest⟩ := bind_eq_ok.mp done
    have unqueued : middle.frame.queuedHalt = none := by
      rw [raiseChildHalt_eq_ok raised]
    exact (congrArg (·.2.2) (later.stays.of_ok rest)).trans unqueued
  case keeps =>
    intro machine signal final done
    obtain ⟨_, middle, raised, rest⟩ := bind_eq_ok.mp done
    have kept := (later.keeps trivial).of_ok rest
    rw [raiseChildHalt_eq_ok raised] at kept
    exact Prod.mk.inj kept

theorem resumes_finishCall (outcome : Outcome) (operands : CallOperands) :
    Resumes (finishCall outcome operands) :=
  resumes_of_rest (.ask (prudent_setReturnData _) fun _ => (prudent_storePadded _ _ _).work
    fun _ => (prudent_push _).work fun _ => prudent_pure _)

theorem resumes_finishCreation (outcome : Outcome) (address : Address) :
    Resumes (finishCreation outcome address) := by
  refine resumes_of_rest (Prudent.branch ?_ ?_)
  · exact (prudent_push _).work fun _ => prudent_pure _
  · exact .ask (prudent_setReturnData _) fun _ => (prudent_push _).work fun _ => prudent_pure _

end Instruction

/-- Whether an instruction starts a child. -/
def Opcode.startsChild : Opcode → Bool
  | .create | .call | .callcode | .delegatecall | .create2 | .staticcall => true
  | _ => false

/-- Whether an instruction founds an account. -/
def Opcode.creates : Opcode → Bool
  | .create | .create2 => true
  | _ => false

/-- An instruction is regular, destroys an account, or starts a child. -/
theorem Opcode.regular_or_startsChild (opcode : Opcode) :
    opcode.isRegular = true ∨ opcode = .selfdestruct ∨ opcode.startsChild = true := by
  cases opcode <;> simp [Opcode.isRegular, Opcode.startsChild]

namespace Instruction

variable {host : Host}

/-- The course of an instruction that starts a child: it reads a request, prepares the child for
it, and finishes with the outcome of the child. -/
structure Course (host : Host) (opcode : Opcode) where
  Request : Type
  read : Run Request
  prepare : Request → Run (Option Entry)
  finish : Request → Entry → Outcome → Run Signal
  executes : ∀ enter, execute host enter opcode = do
    let request ← read
    performing host enter (prepare request) (finish request)
  prepares : preparation host opcode = do prepare (← read)
  looks : Prudent True True .looks read
  pays : ∀ request, Prudent True (opcode.creates = false) .pays (prepare request)
  resumes : ∀ request entry outcome, Resumes (finish request entry outcome)

/-- A call, told by what it reads. -/
def courseOfCall {opcode : Opcode} {read : Run CallRequest}
    (executes : ∀ enter, execute host enter opcode = do
      let request ← read
      performing host enter (prepareCall host request) fun _ outcome =>
        finishCall outcome request.operands)
    (prepares : preparation host opcode = do prepareCall host (← read))
    (looks : Prudent True True .looks read) : Course host opcode where
  Request := CallRequest
  read
  prepare := prepareCall host
  finish := fun request _ outcome => finishCall outcome request.operands
  executes
  prepares
  looks
  pays := prudent_prepareCall
  resumes := fun request _ outcome => resumes_finishCall outcome request.operands

def courseOfCreation {opcode : Opcode} {read : Run CreationRequest}
    (executes : ∀ enter, execute host enter opcode = do
      let request ← read
      performing host enter (prepareCreation host request) fun entry outcome =>
        finishCreation outcome entry.child.invocation.recipient)
    (prepares : preparation host opcode = do prepareCreation host (← read))
    (founds : opcode.creates = true) (looks : Prudent True True .looks read) :
    Course host opcode where
  Request := CreationRequest
  read
  prepare := prepareCreation host
  finish := fun _ entry outcome => finishCreation outcome entry.child.invocation.recipient
  executes
  prepares
  looks
  pays := fun request => (prudent_prepareCreation request).relax id fun calls => by
    rw [founds] at calls
    cases calls
  resumes := fun _ entry outcome => resumes_finishCreation outcome _

/-- The course of every instruction that starts a child. -/
def course (host : Host) : (opcode : Opcode) → opcode.startsChild = true → Course host opcode
  | .call, _ => courseOfCall (fun _ => rfl) rfl prudent_readCall
  | .callcode, _ => courseOfCall (fun _ => rfl) rfl prudent_readCallcode
  | .delegatecall, _ => courseOfCall (fun _ => rfl) rfl prudent_readDelegatecall
  | .staticcall, _ => courseOfCall (fun _ => rfl) rfl prudent_readStaticcall
  | .create, _ => courseOfCreation (fun _ => rfl) rfl rfl
      (.ask prudent_peekThree fun _ => prudent_pure _)
  | .create2, _ => courseOfCreation (fun _ => rfl) rfl rfl
      (.ask prudent_peekFour fun _ => prudent_pure _)

theorem preparation_of_alone {opcode : Opcode} (alone : opcode.startsChild = false) :
    preparation host opcode = pure none := by
  cases opcode <;> first | rfl | cases alone

/-- What prepares a child touches neither the frames that wait nor any queue. -/
theorem setting_of_preparation (host : Host) (opcode : Opcode) :
    Keeps Machine.setting (preparation host opcode) := by
  cases starts : opcode.startsChild with
  | false =>
      rw [preparation_of_alone starts]
      exact fun _ => rfl
  | true =>
      have course := course host opcode starts
      rw [course.prepares]
      exact course.looks.stays.bind fun request => (course.pays request).stays

end Instruction

end CancunMachine
