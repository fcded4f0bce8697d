import Mathlib.Tactic
import CancunMachine.Proofs.Evolution.Child
import CancunMachine.Proofs.Evolution.Destruction

/-!
# What every instruction does

Whatever the instruction, the machine evolves. At the prices of the Cancun fork an instruction after
which the frame goes on makes twice the gas plus the number of operands smaller, also a call that
fails for free.
-/

namespace CancunMachine

open Ending

/-- A host that leaves destructions and the outcomes of frames alone. -/
structure Host.Plain (host : Host) : Prop where
  destruction : host.overrides.destruction = none
  outcome : host.overrides.outcome = none

/-- The measure of what a frame can still do. -/
def Frame.weight (frame : Frame) : Nat := 2 * frame.gas.toNat + frame.stack.size

namespace Instruction

variable {host : Host} {enter : Transfer → Run Outcome}

/-- How an instruction behaves towards its frame. -/
structure Behaves (host : Host) (action : Run Signal) : Prop where
  evolves : ∀ {machine signal final}, action machine = .ok signal final →
    Evolves host machine final
  failed : ∀ {machine cause final}, action machine = .error cause final →
    cause.endsMessage = false → Evolves host machine final
  spends : ∀ {machine signal final}, host.schedule = .cancun →
    action machine = .ok signal final → final.frame.gas.toNat ≤ machine.frame.gas.toNat
  stays : ∀ {machine cause final}, action machine = .error cause final →
    final.suspended = machine.suspended
  failedSpends : ∀ {machine cause final}, host.schedule = .cancun →
    action machine = .error cause final →
      final.frame.gas.toNat ≤ machine.frame.gas.toNat
  advances : ∀ {machine final}, host.schedule = .cancun →
    action machine = .ok .proceed final → final.frame.weight < machine.frame.weight

theorem behaves_of_orderly {action : Run Signal} {tame : Prop} {cost : Nat} {growth : Int}
    (orderly : Orderly host (fun _ => True) False tame cost growth action)
    (priced : host.schedule = .cancun →
      growth < 2 * cost ∨ ∀ machine final, action machine ≠ .ok .proceed final) :
    Behaves host action where
  evolves := fun done => orderly.evolves trivial done
  failed := fun failed settled => orderly.failed trivial failed settled
  spends := by
    intro machine signal final _ done
    have spent := orderly.spends trivial done
    omega
  stays := fun failed => (orderly.stays trivial failed).1
  failedSpends := fun _ failed => (orderly.stays trivial failed).2
  advances := by
    intro machine final cancun done
    have spent := orderly.spends trivial done
    have grown := orderly.grows trivial done
    rcases priced cancun with cheap | never
    · unfold Frame.weight
      omega
    · exact absurd done (never machine final)

/-- The common course of calls and creations, to which `performCall` and `performCreation` unfold. -/
def performing (host : Host) (enter : Transfer → Run Outcome) (prepare : Run (Option Entry))
    (finish : Entry → Outcome → Run Signal) : Run Signal := do
  match ← prepare with
  | none => return .proceed
  | some entry =>
      let outcome ← runChild host enter entry.child entry.transfer
      finish entry outcome

section performing

variable {known : Invocation → Prop} {prepare : Run (Option Entry)}
  {finish : Entry → Outcome → Run Signal} {operandCount : Nat}

/-- What is known of the two ends of a call or creation. -/
structure Performs (host : Host) (known : Invocation → Prop) (operandCount : Nat)
    (prepare : Run (Option Entry)) (finish : Entry → Outcome → Run Signal) : Prop where
  enough : ∀ {invocation}, known invocation → 3 ≤ operandCount
  prepares : Orderly host known False False 0 (1 - operandCount) prepare
  prepared : ∀ {machine entry final}, known machine.frame.invocation →
    prepare machine = .ok (some entry) final → Prepared host machine operandCount entry final
  finishes : ∀ entry outcome, Finishes host outcome (finish entry outcome)

theorem performing_eq_ok {machine final : Machine} {signal : Signal} (enters : Enters host enter)
    (performs : Performs host known operandCount prepare finish)
    (holds : known machine.frame.invocation)
    (done : performing host enter prepare finish machine = .ok signal final) :
    Evolves host machine final ∧ (host.schedule = .cancun →
      final.frame.gas.toNat ≤ machine.frame.gas.toNat ∧
      final.frame.weight < machine.frame.weight) := by
  have enough := performs.enough holds
  obtain ⟨answer, ready, prepares, rest⟩ := bind_eq_ok.mp done
  have evolved := performs.prepares.evolves holds prepares
  cases answer with
  | none =>
      cases rest
      refine ⟨evolved, fun cancun => ?_⟩
      have spent := performs.prepares.spends holds prepares
      have grown := performs.prepares.grows holds prepares
      unfold Frame.weight
      omega
  | some entry =>
      have prepared := performs.prepared holds prepares
      obtain ⟨outcome, returned, runs, finishes⟩ := bind_eq_ok.mp rest
      obtain ⟨ran, sameFrame, remaining⟩ := runChild_eq_ok enters prepared.legal runs
      obtain ⟨finished, gas, stack⟩ := (performs.finishes entry outcome).acts finishes
      rw [sameFrame] at gas stack
      refine ⟨(evolved.trans ran).trans finished.evolves, fun cancun => ?_⟩
      have paid := prepared.gas cancun
      have left := remaining cancun
      have dropped := prepared.stack
      unfold Frame.weight
      omega

theorem performing_failed {machine final : Machine} {cause : Failure}
    (enters : Enters host enter) (performs : Performs host known operandCount prepare finish)
    (holds : known machine.frame.invocation)
    (failed : performing host enter prepare finish machine = .error cause final)
    (settled : cause.endsMessage = false) : Evolves host machine final := by
  rcases bind_eq_error.mp failed with unprepared | ⟨answer, ready, prepares, rest⟩
  · exact performs.prepares.failed holds unprepared settled
  have evolved := performs.prepares.evolves holds prepares
  cases answer with
  | none => cases rest
  | some entry =>
      have prepared := performs.prepared holds prepares
      rcases bind_eq_error.mp rest with stuck | ⟨outcome, returned, runs, finishes⟩
      · rw [(runChild_eq_error enters stuck).1] at settled
        cases settled
      obtain ⟨ran, _, _⟩ := runChild_eq_ok enters prepared.legal runs
      exact (evolved.trans ran).trans
        ((performs.finishes entry outcome).failed finishes settled)

/-- However a call or creation fails, the frames that wait are in place and no gas was made. -/
theorem performing_stays {machine final : Machine} {cause : Failure}
    (enters : Enters host enter) (performs : Performs host known operandCount prepare finish)
    (holds : known machine.frame.invocation)
    (failed : performing host enter prepare finish machine = .error cause final) :
    final.suspended = machine.suspended ∧ (host.schedule = .cancun →
      final.frame.gas.toNat ≤ machine.frame.gas.toNat) := by
  rcases bind_eq_error.mp failed with unprepared | ⟨answer, ready, prepares, rest⟩
  · obtain ⟨waiting, spent⟩ := performs.prepares.stays holds unprepared
    exact ⟨waiting, fun _ => spent⟩
  have waiting := (performs.prepares.evolves holds prepares).samePlace.suspended
  cases answer with
  | none => cases rest
  | some entry =>
      have prepared := performs.prepared holds prepares
      rcases bind_eq_error.mp rest with stuck | ⟨outcome, returned, runs, finishes⟩
      · obtain ⟨_, sameFrame, sameSuspended, _⟩ := runChild_eq_error enters stuck
        have spent := performs.prepares.spends holds prepares
        rw [sameFrame]
        exact ⟨sameSuspended.trans waiting, fun _ => by omega⟩
      obtain ⟨ran, sameFrame, remaining⟩ := runChild_eq_ok enters prepared.legal runs
      obtain ⟨waitingLater, gas⟩ := (performs.finishes entry outcome).stays finishes
      rw [sameFrame] at gas
      refine ⟨waitingLater.trans (ran.samePlace.suspended.trans waiting), fun cancun => ?_⟩
      have paid := prepared.gas cancun
      have left := remaining cancun
      omega

theorem settles_of_performing {machine final : Machine} {cause : Failure}
    (enters : Enters host enter) (performs : Performs host known operandCount prepare finish)
    (holds : known machine.frame.invocation) (cancun : host.schedule = .cancun)
    (granted : host.refusals = .none)
    (settles : ∀ {cause final}, prepare machine = .error cause final → cause.endsMessage = false)
    (runs : ∀ {entry ready}, prepare machine = .ok (some entry) ready →
      ∃ outcome closed, enter entry.transfer (ready.entering entry.child) = .ok outcome closed)
    (failed : performing host enter prepare finish machine = .error cause final) :
    cause.endsMessage = false := by
  rcases bind_eq_error.mp failed with unprepared | ⟨answer, ready, prepares, rest⟩
  · exact settles unprepared
  cases answer with
  | none => cases rest
  | some entry =>
      have prepared := performs.prepared holds prepares
      rcases bind_eq_error.mp rest with stuck | ⟨outcome, returned, ran, finishes⟩
      · obtain ⟨_, _, _, closed, ended⟩ := runChild_eq_error enters stuck
        obtain ⟨outcome, closed, returns⟩ := runs prepares
        rw [returns] at ended
        cases ended
      obtain ⟨_, sameFrame, remaining⟩ := runChild_eq_ok enters prepared.legal ran
      refine (performs.finishes entry outcome).settles finishes granted ?_
      have paid := prepared.gas cancun
      have left := remaining cancun
      have bounded := machine.frame.gas.toNat_lt
      rw [sameFrame, UInt64.size]
      omega

end performing

theorem performs_call (request : CallRequest) :
    Performs host request.Suits request.operandCount (prepareCall host request)
      fun _ outcome => finishCall outcome request.operands where
  enough := fun suits => le_trans (by decide) suits.operandCount
  prepares := orderly_prepareCall request
  prepared := fun suits prepares => prepareCall_eq_some suits prepares
  finishes := fun _ _ => finishes_finishCall _

theorem performs_creation (request : CreationRequest) :
    Performs host (fun _ => True) request.operandCount (prepareCreation host request)
      fun entry outcome => finishCreation outcome entry.child.invocation.recipient where
  enough := fun _ => three_le_operandCount request
  prepares := (orderly_prepareCreation request).weaken (Nat.zero_le _) (le_refl _)
  prepared := fun _ prepares => prepareCreation_eq_some prepares
  finishes := fun _ _ => finishes_finishCreation _

/-- An instruction that reads a request and performs it. -/
theorem behaves_of_reading {Request : Type} {read : Run Request}
    {known : Request → Invocation → Prop} {operandCount : Request → Nat}
    {prepare : Request → Run (Option Entry)} {finish : Request → Entry → Outcome → Run Signal}
    (enters : Enters host enter) (reads : Orderly host (fun _ => True) True True 0 0 read)
    (suits : ∀ {machine request final}, read machine = .ok request final →
      known request machine.frame.invocation)
    (performs : ∀ request,
      Performs host (known request) (operandCount request) (prepare request) (finish request)) :
    Behaves host (do
      let request ← read
      performing host enter (prepare request) (finish request)) := by
  have passes : ∀ {machine request middle}, read machine = .ok request middle →
      known request middle.frame.invocation := by
    intro machine request middle started
    rw [(reads.evolves trivial started).samePlace.context.invocation]
    exact suits started
  constructor
  case evolves =>
    intro machine signal final done
    obtain ⟨request, middle, started, rest⟩ := bind_eq_ok.mp done
    have performed := performing_eq_ok enters (performs request) (passes started) rest
    exact (reads.evolves trivial started).trans performed.1
  case failed =>
    intro machine cause final failed settled
    rcases bind_eq_error.mp failed with early | ⟨request, middle, started, rest⟩
    · exact reads.failed trivial early settled
    have performed := performing_failed enters (performs request) (passes started) rest settled
    exact (reads.evolves trivial started).trans performed
  case spends =>
    intro machine signal final cancun done
    obtain ⟨request, middle, started, rest⟩ := bind_eq_ok.mp done
    have performed := performing_eq_ok enters (performs request) (passes started) rest
    have spent := reads.spends trivial started
    have later := (performed.2 cancun).1
    omega
  case stays =>
    intro machine cause final failed
    rcases bind_eq_error.mp failed with early | ⟨request, middle, started, rest⟩
    · exact (reads.stays trivial early).1
    have waiting := (performing_stays enters (performs request) (passes started) rest).1
    exact waiting.trans (reads.evolves trivial started).samePlace.suspended
  case failedSpends =>
    intro machine cause final cancun failed
    rcases bind_eq_error.mp failed with early | ⟨request, middle, started, rest⟩
    · exact (reads.stays trivial early).2
    have performed := performing_stays enters (performs request) (passes started) rest
    have spent := reads.spends trivial started
    have later := performed.2 cancun
    omega
  case advances =>
    intro machine final cancun done
    obtain ⟨request, middle, started, rest⟩ := bind_eq_ok.mp done
    have performed := performing_eq_ok enters (performs request) (passes started) rest
    have spent := reads.spends trivial started
    have grown := reads.grows trivial started
    have later := (performed.2 cancun).2
    unfold Frame.weight at later ⊢
    omega

end Instruction

/-- Whether an instruction neither starts a child nor destroys an account. -/
def Opcode.isRegular : Opcode → Bool
  | .create | .call | .callcode | .delegatecall | .create2 | .staticcall | .selfdestruct => false
  | _ => true

namespace Instruction

variable {host : Host} {enter : Transfer → Run Outcome}

/-- An orderly instruction that is paid for unless it ends the frame. -/
def Regular (host : Host) (action : Run Signal) : Prop :=
  ∃ cost growth, Orderly host (fun _ => True) False True cost growth action ∧
    (host.schedule = .cancun → growth < 2 * cost ∨
      ∀ machine final, action machine ≠ .ok .proceed final)

theorem Regular.paid {action : Run Signal} {cost : Nat} {growth : Int}
    (orderly : Orderly host (fun _ => True) False True cost growth action)
    (priced : host.schedule = .cancun → growth < 2 * cost) : Regular host action :=
  ⟨cost, growth, orderly, fun cancun => .inl (priced cancun)⟩

theorem Regular.final {action : Run Signal} {cost : Nat} {growth : Int}
    (orderly : Orderly host (fun _ => True) False True cost growth action)
    (ends : ∀ machine final, action machine ≠ .ok .proceed final) : Regular host action :=
  ⟨cost, growth, orderly, fun _ => .inr ends⟩

theorem execute_regular {opcode : Opcode} (regular : opcode.isRegular = true) :
    Regular host (execute host enter opcode) := by
  cases opcode <;> simp only [execute]
  case create | call | callcode | delegatecall | create2 | staticcall | selfdestruct =>
    cases regular
  case stop =>
    refine .final (orderly_pure _) fun machine final done => ?_
    cases done
  case returns =>
    refine .final orderly_returns fun machine final done => ?_
    obtain ⟨_, _, _, returned⟩ := bind_eq_ok.mp done
    cases returned
  case revert =>
    refine .final orderly_revert fun machine final done => ?_
    obtain ⟨_, _, _, returned⟩ := bind_eq_ok.mp done
    cases returned
  case invalid =>
    refine .final (orderly_halt _ 0 0) fun machine final done => ?_
    cases done
  case add | mul | sub | div | sdiv | mod | smod | signextend | lt | gt | slt | sgt | eq | and | or
      | xor | byte | shl | shr | sar =>
    exact .paid (orderly_binary _ _) fun cancun => by rw [cancun]; decide
  case addmod | mulmod =>
    exact .paid (orderly_ternary _ _) fun cancun => by rw [cancun]; decide
  case iszero | not =>
    exact .paid (orderly_unary _ _) fun cancun => by rw [cancun]; decide
  case address | caller | callvalue | calldatasize | codesize | returndatasize | msize | pc | gas =>
    exact .paid (orderly_pushing _ (orderly_frame _)) fun cancun => by rw [cancun]; decide
  case origin | gasprice | coinbase | timestamp | number | prevrandao | gaslimit | chainid
      | basefee | blobbasefee =>
    exact .paid (orderly_pushing _ (orderly_pure _)) fun cancun => by rw [cancun]; decide
  case calldatacopy | codecopy =>
    exact .paid (orderly_copyFrom _) fun cancun => by rw [cancun]; decide
  case exp => exact .paid orderly_exp fun cancun => by rw [cancun]; decide
  case keccak256 => exact .paid orderly_keccak256 fun cancun => by rw [cancun]; decide
  case balance => exact .paid orderly_balance fun cancun => by rw [cancun]; decide
  case calldataload => exact .paid orderly_calldataload fun cancun => by rw [cancun]; decide
  case extcodesize => exact .paid orderly_extcodesize fun cancun => by rw [cancun]; decide
  case extcodecopy => exact .paid orderly_extcodecopy fun cancun => by rw [cancun]; decide
  case returndatacopy => exact .paid orderly_returndatacopy fun cancun => by rw [cancun]; decide
  case extcodehash => exact .paid orderly_extcodehash fun cancun => by rw [cancun]; decide
  case blockhash => exact .paid orderly_blockhash fun cancun => by rw [cancun]; decide
  case selfbalance => exact .paid orderly_selfbalance fun cancun => by rw [cancun]; decide
  case blobhash => exact .paid orderly_blobhash fun cancun => by rw [cancun]; decide
  case pop => exact .paid orderly_popInstruction fun cancun => by rw [cancun]; decide
  case mload => exact .paid orderly_mload fun cancun => by rw [cancun]; decide
  case mstore => exact .paid orderly_mstore fun cancun => by rw [cancun]; decide
  case mstore8 => exact .paid orderly_mstore8 fun cancun => by rw [cancun]; decide
  case mcopy => exact .paid orderly_mcopy fun cancun => by rw [cancun]; decide
  case sload => exact .paid orderly_sload fun cancun => by rw [cancun]; decide
  case sstore => exact .paid orderly_sstore fun cancun => by rw [cancun]; decide
  case tload => exact .paid orderly_tload fun cancun => by rw [cancun]; decide
  case tstore => exact .paid orderly_tstore fun cancun => by rw [cancun]; decide
  case jump => exact .paid orderly_jumpInstruction fun cancun => by rw [cancun]; decide
  case jumpi => exact .paid orderly_jumpi fun cancun => by rw [cancun]; decide
  case jumpdest => exact .paid orderly_jumpdest fun cancun => by rw [cancun]; decide
  case push width =>
    split
    · exact .paid (orderly_pushing _ (orderly_pure _)) fun cancun => by rw [cancun]; decide
    · exact .paid (orderly_pushImmediate _) fun cancun => by rw [cancun]; decide
  case dup index => exact .paid (orderly_duplicate _) fun cancun => by rw [cancun]; decide
  case swap index => exact .paid (orderly_exchange _) fun cancun => by rw [cancun]; decide
  case log topics => exact .paid (orderly_log _) fun cancun => by rw [cancun]; decide

theorem selfdestruct_ne_proceed (default : host.overrides.destruction = none)
    (machine final : Machine) : selfdestruct host machine ≠ .ok .proceed final := by
  intro done
  rw [selfdestruct_eq default] at done
  obtain ⟨_, _, _, rest⟩ := bind_eq_ok.mp done
  obtain ⟨_, _, _, rest⟩ := bind_eq_ok.mp rest
  obtain ⟨_, _, _, destroys⟩ := bind_eq_ok.mp rest
  cases (destroying_eq_ok destroys).1

theorem execute_behaves (plain : host.Plain) (enters : Enters host enter) (opcode : Opcode) :
    Behaves host (execute host enter opcode) := by
  by_cases regular : opcode.isRegular = true
  · obtain ⟨cost, growth, orderly, priced⟩ := execute_regular regular
    exact behaves_of_orderly orderly priced
  cases opcode <;> try (exact absurd rfl regular)
  case selfdestruct =>
    exact behaves_of_orderly (orderly_selfdestruct plain.destruction)
      fun _ => .inr (selfdestruct_ne_proceed plain.destruction)
  case call => exact behaves_of_reading enters orderly_readCall suits_of_readCall performs_call
  case callcode =>
    exact behaves_of_reading enters orderly_readCallcode suits_of_readCallcode performs_call
  case delegatecall =>
    exact behaves_of_reading enters orderly_readDelegatecall suits_of_readDelegatecall
      performs_call
  case staticcall =>
    exact behaves_of_reading enters orderly_readStaticcall suits_of_readStaticcall performs_call
  case create =>
    exact behaves_of_reading enters orderly_readCreate (fun _ => trivial) performs_creation
  case create2 =>
    exact behaves_of_reading enters orderly_readCreate2 (fun _ => trivial) performs_creation

end Instruction

end CancunMachine
