import Mathlib.Tactic
import CancunMachine.Proofs.Evolution.Dispatch

/-!
# The children that instructions start

Six instructions enter a child, and `Instruction.preparation` is what they do before. An instruction
depends on the function that runs its child only at the entry that it has prepared. The child is
legal, and at the prices of the Cancun fork it gets less gas than its parent had.
-/

namespace CancunMachine

open Ending

namespace Instruction

variable {host : Host} {enter : Transfer → Run Outcome}

/-- What an instruction does before its child is entered, if it starts one. -/
def preparation (host : Host) : Opcode → Run (Option Entry)
  | .call => do prepareCall host (← readCall host)
  | .callcode => do prepareCall host (← readCallcode host)
  | .delegatecall => do prepareCall host (← readDelegatecall)
  | .staticcall => do prepareCall host (← readStaticcall host)
  | .create => do prepareCreation host (← readCreate)
  | .create2 => do prepareCreation host (← readCreate2)
  | _ => pure none

theorem performing_congr {other : Transfer → Run Outcome} {prepare : Run (Option Entry)}
    {finish : Entry → Outcome → Run Signal} {machine : Machine}
    (same : ∀ {entry ready}, prepare machine = .ok (some entry) ready →
      enter entry.transfer (ready.entering entry.child) =
        other entry.transfer (ready.entering entry.child)) :
    performing host enter prepare finish machine = performing host other prepare finish machine := by
  unfold performing
  cases prepares : prepare machine with
  | error cause final => rw [bind_of_error prepares, bind_of_error prepares]
  | ok answer ready =>
      rw [bind_of_ok prepares, bind_of_ok prepares]
      cases answer with
      | none => rfl
      | some entry =>
          have entered := same prepares
          have ran : runChild host enter entry.child entry.transfer ready =
              runChild host other entry.child entry.transfer ready := by
            unfold runChild
            rw [bind_of_ok (suspend_apply _ _), bind_of_ok (suspend_apply _ _)]
            simp only [bind, EStateM.bind, Run.attempt, entered]
          simp only [bind, EStateM.bind, ran]

theorem reading_congr {Request : Type} {other : Transfer → Run Outcome} {read : Run Request}
    {prepare : Request → Run (Option Entry)} {finish : Request → Entry → Outcome → Run Signal}
    {machine : Machine}
    (same : ∀ {entry ready}, (do prepare (← read)) machine = .ok (some entry) ready →
      enter entry.transfer (ready.entering entry.child) =
        other entry.transfer (ready.entering entry.child)) :
    (do
      let request ← read
      performing host enter (prepare request) (finish request)) machine = (do
      let request ← read
      performing host other (prepare request) (finish request)) machine := by
  cases reads : read machine with
  | error cause final => rw [bind_of_error reads, bind_of_error reads]
  | ok request middle =>
      rw [bind_of_ok reads, bind_of_ok reads]
      refine performing_congr fun prepares => same ?_
      rw [bind_of_ok reads, prepares]

/-- Of the function that runs children, an instruction needs the value at the child it prepares. -/
theorem execute_congr {other : Transfer → Run Outcome} {opcode : Opcode} {machine : Machine}
    (same : ∀ {entry ready}, preparation host opcode machine = .ok (some entry) ready →
      enter entry.transfer (ready.entering entry.child) =
        other entry.transfer (ready.entering entry.child)) :
    execute host enter opcode machine = execute host other opcode machine := by
  cases opcode
  case call | callcode | delegatecall | staticcall | create | create2 => exact reading_congr same
  all_goals rfl

/-- What is known of an instruction that reads a request and prepares a child for it. -/
theorem prepared_of_reading {Request : Type} {read : Run Request}
    {known : Request → Invocation → Prop} {operandCount : Request → Nat}
    {prepare : Request → Run (Option Entry)} {finish : Request → Entry → Outcome → Run Signal}
    {machine ready : Machine} {entry : Entry}
    (reads : Orderly host (fun _ => True) True True 0 0 read)
    (suits : ∀ {machine request final}, read machine = .ok request final →
      known request machine.frame.invocation)
    (performs : ∀ request,
      Performs host (known request) (operandCount request) (prepare request) (finish request))
    (done : (do prepare (← read)) machine = .ok (some entry) ready) :
    Evolves host machine ready ∧ Prepared host machine 3 entry ready := by
  obtain ⟨request, middle, started, prepares⟩ := bind_eq_ok.mp done
  have passes : known request middle.frame.invocation := by
    rw [(reads.evolves trivial started).samePlace.context.invocation]
    exact suits started
  have enough := (performs request).enough passes
  have prepared := (performs request).prepared passes prepares
  have spent := reads.spends trivial started
  have grown := reads.grows trivial started
  refine ⟨(reads.evolves trivial started).trans ((performs request).prepares.evolves passes
    prepares), prepared.legal, ?_, fun cancun => ?_⟩
  · have stack := prepared.stack
    omega
  · have paid := prepared.gas cancun
    omega

/-- The child of an instruction is legal, and its parent has paid for it. -/
theorem preparation_eq_some {opcode : Opcode} {machine ready : Machine} {entry : Entry}
    (done : preparation host opcode machine = .ok (some entry) ready) :
    Evolves host machine ready ∧ Prepared host machine 3 entry ready := by
  cases opcode
  case call => exact prepared_of_reading orderly_readCall suits_of_readCall performs_call done
  case callcode =>
    exact prepared_of_reading orderly_readCallcode suits_of_readCallcode performs_call done
  case delegatecall =>
    exact prepared_of_reading orderly_readDelegatecall suits_of_readDelegatecall performs_call done
  case staticcall =>
    exact prepared_of_reading orderly_readStaticcall suits_of_readStaticcall performs_call done
  case create =>
    exact prepared_of_reading orderly_readCreate (fun _ => trivial) performs_creation done
  case create2 =>
    exact prepared_of_reading orderly_readCreate2 (fun _ => trivial) performs_creation done
  all_goals cases done

theorem early_of_reading {read : Run CallRequest} {machine final : Machine} (looks : Looks read)
    (suits : ∀ {machine request final}, read machine = .ok request final →
      request.Suits machine.frame.invocation)
    (done : (do prepareCall host (← read)) machine = .ok none final) :
    final.frame.gas = machine.frame.gas ∧
      final.frame.stack.size < machine.frame.stack.size := by
  obtain ⟨request, middle, reads, prepares⟩ := bind_eq_ok.mp done
  have suited := suits reads
  rw [looks reads] at prepares
  have count := suited.operandCount
  have preparing : Orderly host (fun _ => True) True False _ _ (prepareCall host request) :=
    orderly_prepareCall request
  have grown := preparing.grows trivial prepares
  refine ⟨prepareCall_eq_none prepares, ?_⟩
  omega

/-- A call that fails early costs no gas, but it takes operands off the stack. -/
theorem preparation_eq_none {opcode : Opcode} {machine final : Machine}
    (calls : opcode ∈ [Opcode.call, .callcode, .delegatecall, .staticcall])
    (done : preparation host opcode machine = .ok none final) :
    final.frame.gas = machine.frame.gas ∧
      final.frame.stack.size < machine.frame.stack.size := by
  fin_cases calls
  · exact early_of_reading looks_readCall suits_of_readCall done
  · exact early_of_reading looks_readCallcode suits_of_readCallcode done
  · exact early_of_reading looks_readDelegatecall suits_of_readDelegatecall done
  · exact early_of_reading looks_readStaticcall suits_of_readStaticcall done

/-- The parent has gone on after its child, with what it had kept back and what the child has left. -/
def Collects (enter : Transfer → Run Outcome) (entry : Entry) (ready final : Machine) : Prop :=
  ∃ outcome closed, enter entry.transfer (ready.entering entry.child) = .ok outcome closed ∧
    final.frame.gas.toNat ≤ ready.frame.gas.toNat + outcome.gasRemaining.toNat

/-- An instruction that has prepared a child either goes on after it or ends the message. -/
structure GoesOn (enter : Transfer → Run Outcome) (entry : Entry) (ready machine : Machine)
    (action : Run Signal) : Prop where
  done : ∀ {signal final}, action machine = .ok signal final →
    Collects enter entry ready final ∧ final.frame.stack.size ≤ ready.frame.stack.size + 1
  failed : ∀ {cause final}, action machine = .error cause final → cause.endsMessage = false →
    Collects enter entry ready final

theorem goesOn_of_performing {prepare : Run (Option Entry)}
    {finish : Entry → Outcome → Run Signal} {machine ready : Machine} {entry : Entry}
    (enters : Enters host enter)
    (finishes : ∀ entry outcome, Finishes host outcome (finish entry outcome))
    (prepares : prepare machine = .ok (some entry) ready) :
    GoesOn enter entry ready machine (performing host enter prepare finish) := by
  constructor
  case done =>
    intro signal final done
    unfold performing at done
    rw [bind_of_ok prepares] at done
    obtain ⟨outcome, returned, ran, finished⟩ := bind_eq_ok.mp done
    obtain ⟨closed, entered, rfl⟩ := entered_of_runChild enters ran
    obtain ⟨_, gas, stack⟩ := (finishes entry outcome).acts finished
    exact ⟨⟨outcome, closed, entered, gas⟩, stack⟩
  case failed =>
    intro cause final failed settled
    unfold performing at failed
    rw [bind_of_ok prepares] at failed
    rcases bind_eq_error.mp failed with stuck | ⟨outcome, returned, ran, finished⟩
    · rw [(runChild_eq_error enters stuck).1] at settled
      cases settled
    · obtain ⟨closed, entered, rfl⟩ := entered_of_runChild enters ran
      obtain ⟨_, gas⟩ := (finishes entry outcome).stays finished
      exact ⟨outcome, closed, entered, gas⟩

theorem goesOn_of_reading {Request : Type} {read : Run Request}
    {prepare : Request → Run (Option Entry)} {finish : Request → Entry → Outcome → Run Signal}
    {machine ready : Machine} {entry : Entry} (enters : Enters host enter)
    (finishes : ∀ request entry outcome, Finishes host outcome (finish request entry outcome))
    (prepares : (do prepare (← read)) machine = .ok (some entry) ready) :
    GoesOn enter entry ready machine (do
      let request ← read
      performing host enter (prepare request) (finish request)) := by
  obtain ⟨request, middle, reads, prepared⟩ := bind_eq_ok.mp prepares
  have goesOn := goesOn_of_performing enters (finishes request) prepared
  constructor
  case done =>
    intro signal final done
    rw [bind_of_ok reads] at done
    exact goesOn.done done
  case failed =>
    intro cause final failed
    rw [bind_of_ok reads] at failed
    exact goesOn.failed failed

/-- How an instruction goes on after its child. -/
theorem execute_goesOn {opcode : Opcode} {machine ready : Machine} {entry : Entry}
    (enters : Enters host enter)
    (prepares : preparation host opcode machine = .ok (some entry) ready) :
    GoesOn enter entry ready machine (execute host enter opcode) := by
  cases opcode
  case call | callcode | delegatecall | staticcall =>
    exact goesOn_of_reading enters (fun _ _ _ => finishes_finishCall _) prepares
  case create | create2 =>
    exact goesOn_of_reading enters (fun _ _ _ => finishes_finishCreation _) prepares
  all_goals cases prepares

theorem settles_of_reading {Request : Type} {read : Run Request}
    {known : Request → Invocation → Prop} {operandCount : Request → Nat}
    {prepare : Request → Run (Option Entry)} {finish : Request → Entry → Outcome → Run Signal}
    {machine final : Machine} {cause : Failure} (enters : Enters host enter)
    (cancun : host.schedule = .cancun) (granted : host.refusals = .none)
    (reads : Orderly host (fun _ => True) True True 0 0 read)
    (suits : ∀ {machine request final}, read machine = .ok request final →
      known request machine.frame.invocation)
    (performs : ∀ request,
      Performs host (known request) (operandCount request) (prepare request) (finish request))
    (settles : ∀ {request machine cause final}, prepare request machine = .error cause final →
      cause.endsMessage = false)
    (runs : ∀ {entry ready}, (do prepare (← read)) machine = .ok (some entry) ready →
      ∃ outcome closed, enter entry.transfer (ready.entering entry.child) = .ok outcome closed)
    (failed : (do
      let request ← read
      performing host enter (prepare request) (finish request)) machine = .error cause final) :
    cause.endsMessage = false := by
  rcases bind_eq_error.mp failed with unread | ⟨request, middle, started, rest⟩
  · exact reads.settles trivial trivial unread granted
  have passes : known request middle.frame.invocation := by
    rw [(reads.evolves trivial started).samePlace.context.invocation]
    exact suits started
  refine settles_of_performing enters (performs request) passes cancun granted settles ?_ rest
  intro entry ready prepares
  exact runs (bind_eq_ok.mpr ⟨request, middle, started, prepares⟩)

/-- An instruction settles its failures as long as transfers can be made and children run. -/
theorem execute_settles {opcode : Opcode} {machine final : Machine} {cause : Failure}
    (plain : host.Plain) (enters : Enters host enter) (cancun : host.schedule = .cancun)
    (granted : host.refusals = .none) (solvent : machine.world.Solvent)
    (runs : ∀ {entry ready}, preparation host opcode machine = .ok (some entry) ready →
      ∃ outcome closed, enter entry.transfer (ready.entering entry.child) = .ok outcome closed)
    (failed : execute host enter opcode machine = .error cause final) :
    cause.endsMessage = false := by
  by_cases regular : opcode.isRegular = true
  · obtain ⟨cost, growth, orderly, _⟩ := execute_regular regular
    exact orderly.settles trivial trivial failed granted
  cases opcode <;> try (exact absurd rfl regular)
  case selfdestruct => exact settles_of_selfdestruct plain.destruction granted solvent failed
  case call =>
    exact settles_of_reading enters cancun granted orderly_readCall suits_of_readCall
      performs_call (settles_of_prepareCall cancun granted) runs failed
  case callcode =>
    exact settles_of_reading enters cancun granted orderly_readCallcode suits_of_readCallcode
      performs_call (settles_of_prepareCall cancun granted) runs failed
  case delegatecall =>
    exact settles_of_reading enters cancun granted orderly_readDelegatecall
      suits_of_readDelegatecall performs_call (settles_of_prepareCall cancun granted) runs failed
  case staticcall =>
    exact settles_of_reading enters cancun granted orderly_readStaticcall suits_of_readStaticcall
      performs_call (settles_of_prepareCall cancun granted) runs failed
  case create =>
    exact settles_of_reading enters cancun granted orderly_readCreate (fun _ => trivial)
      performs_creation (settles_of_prepareCreation granted) runs failed
  case create2 =>
    exact settles_of_reading enters cancun granted orderly_readCreate2 (fun _ => trivial)
      performs_creation (settles_of_prepareCreation granted) runs failed

/-- An instruction acts by itself, with the whole run of at most one child in between. -/
inductive Courses (host : Host) (enter : Transfer → Run Outcome) (opcode : Opcode)
    (machine final : Machine) : Prop
  | alone : Acts host machine final → Courses host enter opcode machine final
  | around {entry : Entry} {outcome : Outcome} {ready closed : Machine} :
      preparation host opcode machine = .ok (some entry) ready →
      Acts host machine ready →
      enter entry.transfer (ready.entering entry.child) = .ok outcome closed →
      Acts host (closed.resumed host ready.frame ready.suspended) final →
      Courses host enter opcode machine final

theorem courses_of_reading {Request : Type} {opcode : Opcode} {read : Run Request}
    {known : Request → Invocation → Prop} {operandCount : Request → Nat}
    {prepare : Request → Run (Option Entry)} {finish : Request → Entry → Outcome → Run Signal}
    {machine final : Machine} {signal : Signal} (enters : Enters host enter)
    (reads : Orderly host (fun _ => True) True True 0 0 read)
    (suits : ∀ {machine request final}, read machine = .ok request final →
      known request machine.frame.invocation)
    (performs : ∀ request,
      Performs host (known request) (operandCount request) (prepare request) (finish request))
    (same : preparation host opcode = do prepare (← read))
    (done : (do
      let request ← read
      performing host enter (prepare request) (finish request)) machine = .ok signal final) :
    Courses host enter opcode machine final := by
  obtain ⟨request, middle, started, rest⟩ := bind_eq_ok.mp done
  have holds : known request middle.frame.invocation := by
    rw [(reads.evolves trivial started).samePlace.context.invocation]
    exact suits started
  obtain ⟨answer, ready, prepares, rest⟩ := bind_eq_ok.mp rest
  have acted := (reads.acts trivial started).trans ((performs request).prepares.acts holds prepares)
  cases answer with
  | none =>
      cases rest
      exact .alone acted
  | some entry =>
      obtain ⟨outcome, returned, ran, finished⟩ := bind_eq_ok.mp rest
      obtain ⟨closed, entered, rfl⟩ := entered_of_runChild enters ran
      have prepared : preparation host opcode machine = .ok (some entry) ready := by
        rw [same]
        exact bind_eq_ok.mpr ⟨request, middle, started, prepares⟩
      exact .around prepared acted entered (((performs request).finishes entry outcome).acts
        finished).1

/-- Every instruction that succeeds takes one of the two courses. -/
theorem execute_courses {opcode : Opcode} {machine final : Machine} {signal : Signal}
    (plain : host.Plain) (enters : Enters host enter)
    (done : execute host enter opcode machine = .ok signal final) :
    Courses host enter opcode machine final := by
  by_cases regular : opcode.isRegular = true
  · obtain ⟨cost, growth, orderly, _⟩ := execute_regular regular
    exact .alone (orderly.acts trivial done)
  cases opcode <;> try (exact absurd rfl regular)
  case selfdestruct =>
    have destroys : Orderly host (fun _ => True) False False _ _ (selfdestruct host) :=
      orderly_selfdestruct plain.destruction
    exact .alone (destroys.acts trivial done)
  case call =>
    exact courses_of_reading enters orderly_readCall suits_of_readCall performs_call rfl done
  case callcode =>
    exact courses_of_reading enters orderly_readCallcode suits_of_readCallcode performs_call rfl
      done
  case delegatecall =>
    exact courses_of_reading enters orderly_readDelegatecall suits_of_readDelegatecall
      performs_call rfl done
  case staticcall =>
    exact courses_of_reading enters orderly_readStaticcall suits_of_readStaticcall performs_call rfl
      done
  case create =>
    exact courses_of_reading enters orderly_readCreate (fun _ => trivial) performs_creation rfl done
  case create2 =>
    exact courses_of_reading enters orderly_readCreate2 (fun _ => trivial) performs_creation rfl
      done

end Instruction

end CancunMachine
