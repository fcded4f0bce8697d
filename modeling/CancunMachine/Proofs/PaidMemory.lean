import Mathlib.Tactic
import CancunMachine.Proofs.Evolution.Moments
import CancunMachine.Proofs.GasOrder
import CancunMachine.Proofs.MemoryGas.Child

/-!
# Memory is paid for

No frame has more memory than it has paid for: the words of its memory cost at most the gas that it
has consumed. Each instruction pays for the ranges that its operands name and then works within
them, so no access to memory that follows a payment fails.
-/

namespace CancunMachine

open Ending

/-- The words of memory that a frame has. -/
def Frame.memoryWords (frame : Frame) : Nat := frame.memory.size / 32

/-- A frame has consumed at least the price of all its memory. -/
structure Frame.PaysForMemory (frame : Frame) : Prop where
  whole : frame.memory.size = 32 * frame.memoryWords
  consumed : frame.memoryWords * frame.memoryWords / 512 + 3 * frame.memoryWords ≤
    frame.invocation.gasLimit.toNat - frame.gas.toNat
  limited : frame.gas ≤ frame.invocation.gasLimit

/-- Why an instruction may end as failing accesses to memory do before it has paid, apart from
ranges beyond all positions: what it asks for of the return data begins there. -/
structure Instruction.Unplaced (opcode : Opcode) (machine : Machine) (cause : Failure) : Prop where
  copies : opcode = .returndatacopy
  beyond : positionLimit ≤ machine.frame.stack.operand 1
  halts : cause = .halt .outOfBounds

/-- Why an instruction that has paid may still end as failing accesses to memory do: it reads beyond
the end of the return data, or the frame of its child has ended so. -/
inductive Instruction.Excused (host : Host) (enter : Transfer → Run Outcome) (opcode : Opcode)
    (machine : Machine) : Failure → Prop
  | beyondReturnData :
      opcode = .returndatacopy →
      machine.frame.returnData.size <
        machine.frame.stack.operand 1 + machine.frame.stack.operand 2 →
      Excused host enter opcode machine (.halt .outOfBounds)
  | child {entry : Entry} {ready closed : Machine} {cause : Failure} :
      preparation host opcode machine = .ok (some entry) ready →
      enter entry.transfer (ready.entering entry.child) = .error cause closed →
      Excused host enter opcode machine cause

/-- What a message pays for the memory of its frames. -/
structure MemoryAccounts (host : Host) (machine : Machine) : Prop where
  /-- Whenever an instruction is fetched, the running frame and all that wait have paid. -/
  moments : ∀ visited, Transaction.Visits host machine visited →
    ∀ frame ∈ visited.frame :: visited.suspended, frame.PaysForMemory
  /-- So has a frame that an instruction ends. -/
  ends : ∀ visited budget signal next, Transaction.Visits host machine visited →
    Instruction.execute host (Interpreter.runFrame host (Interpreter.run host budget))
      visited.nextOpcode visited.fetched = .ok signal next →
    next.frame.PaysForMemory
  /-- An instruction pays for the memory that its operands name before it works on it, and once it
  has paid, no access to memory fails; what it refuses before lies beyond all positions. -/
  instructions : ∀ visited budget, Transaction.Visits host machine visited →
    Metered (visited.nextOpcode.needed visited.frame.stack)
      (Instruction.Unplaced visited.nextOpcode visited.fetched)
      (Instruction.Excused host (Interpreter.runFrame host (Interpreter.run host budget))
        visited.nextOpcode visited.fetched)
      visited.fetched
      (Instruction.execute host (Interpreter.runFrame host (Interpreter.run host budget))
        visited.nextOpcode visited.fetched)

namespace Frame

theorem paysForMemory_iff {frame : Frame} : frame.PaysForMemory ↔
    32 ∣ frame.memory.size ∧ Memory.wholePrice frame.memory.size + frame.gas.toNat ≤
      frame.invocation.gasLimit.toNat := by
  have words : 32 ∣ frame.memory.size → wordCount frame.memory.size = frame.memoryWords := by
    unfold wordCount memoryWords
    omega
  constructor
  · rintro ⟨whole, consumed, limited⟩
    have aligned : 32 ∣ frame.memory.size := ⟨_, whole⟩
    have enough := UInt64.le_iff_toNat_le.mp limited
    refine ⟨aligned, ?_⟩
    unfold Memory.wholePrice
    rw [words aligned]
    omega
  · rintro ⟨aligned, price⟩
    unfold Memory.wholePrice at price
    rw [words aligned] at price
    refine ⟨?_, by omega, UInt64.le_iff_toNat_le.mpr (by omega)⟩
    unfold memoryWords
    omega

namespace PaysForMemory

variable {frame : Frame}

theorem sound (pays : frame.PaysForMemory) : Memory.Sound frame.memory.size := by
  obtain ⟨aligned, price⟩ := paysForMemory_iff.mp pays
  have bounded := frame.invocation.gasLimit.toNat_lt
  refine ⟨aligned, ?_⟩
  rw [UInt64.size]
  omega

theorem of_same {other : Frame} (pays : frame.PaysForMemory) (memory : other.memory = frame.memory)
    (gas : other.gas = frame.gas) (invocation : other.invocation = frame.invocation) :
    other.PaysForMemory := by
  rw [paysForMemory_iff] at pays ⊢
  rw [memory, gas, invocation]
  exact pays

/-- What is metered is paid for out of what a frame has. -/
theorem of_metered {Alpha : Type} {needed : Nat} {early excuse : Failure → Prop}
    {machine : Machine} {ending : EStateM.Result Failure Machine Alpha}
    (pays : machine.frame.PaysForMemory) (metered : Metered needed early excuse machine ending)
    (same : (reached ending).frame.invocation = machine.frame.invocation) :
    (reached ending).frame.PaysForMemory := by
  obtain ⟨aligned, price⟩ := paysForMemory_iff.mp pays
  have later := metered.price
  refine paysForMemory_iff.mpr ⟨metered.memory.aligned aligned, ?_⟩
  rw [same]
  omega

/-- A new frame has no memory, and all its gas. -/
theorem of_new (memory : frame.memory.size = 0) (gas : frame.gas = frame.invocation.gasLimit) :
    frame.PaysForMemory := by
  rw [paysForMemory_iff, memory, gas]
  exact ⟨dvd_zero 32, le_of_eq (Nat.zero_add _)⟩

end PaysForMemory

end Frame

namespace Instruction

variable {host : Host} {enter : Transfer → Run Outcome} {machine : Machine}

/-- Every instruction pays for the memory it needs. -/
theorem metered_execute (plain : host.Plain) (cancun : host.schedule = .cancun)
    (enters : Enters host enter) (opcode : Opcode)
    (sound : Memory.Sound machine.frame.memory.size)
    (unqueued : machine.frame.queuedHalt = none) :
    Metered (opcode.needed machine.frame.stack) (Unplaced opcode machine)
      (Excused host enter opcode machine) machine (execute host enter opcode machine) := by
  have calls : ∀ {opcode : Opcode} {read : Run CallRequest} {needed : Nat},
      preparation host opcode = (do prepareCall host (← read)) → Idles read →
      (∀ {machine request final}, read machine = .ok request final →
        request.Suits machine.frame.invocation) →
      (∀ {request final}, read machine = .ok request final → request.Needs needed) →
      Metered needed (Unplaced opcode machine) (Excused host enter opcode machine) machine
        ((do performCall host enter (← read)) machine) := by
    intro opcode read needed prepares idles suits needs
    refine metered_performCall enters cancun sound unqueued idles suits needs fun done ended => ?_
    rw [← prepares] at done
    exact .child done ended
  have creates : ∀ {opcode : Opcode} {read : Run CreationRequest} {needed : Nat},
      preparation host opcode = (do prepareCreation host (← read)) → Idles read →
      (∀ {request final}, read machine = .ok request final →
        needed = Memory.cover (request.codeOffset.toNat, request.codeSize.toNat)) →
      Metered needed (Unplaced opcode machine) (Excused host enter opcode machine) machine
        ((do performCreation host enter (← read)) machine) := by
    intro opcode read needed prepares idles needs
    refine metered_performCreation enters cancun sound unqueued idles needs fun done ended => ?_
    rw [← prepares] at done
    exact .child done ended
  cases opcode <;> simp only [execute]
  case call => exact calls rfl idles_readCall suits_of_readCall needs_of_readCall
  case callcode => exact calls rfl idles_readCallcode suits_of_readCallcode needs_of_readCallcode
  case delegatecall =>
    exact calls rfl idles_readDelegatecall suits_of_readDelegatecall needs_of_readDelegatecall
  case staticcall =>
    exact calls rfl idles_readStaticcall suits_of_readStaticcall needs_of_readStaticcall
  case create => exact creates rfl idles_readCreate needs_of_readCreate
  case create2 => exact creates rfl idles_readCreate2 needs_of_readCreate2
  case selfdestruct => exact .of_within fun _ => within_selfdestruct plain.destruction
  case stop => exact .of_within fun _ => within_pure _
  case invalid => exact .of_within fun _ => within_halt Halt.noConfusion
  case returns => exact metered_setOutput (fun _ => rfl) sound fun _ => within_pure _
  case revert => exact metered_setOutput (fun _ => rfl) sound fun _ => within_throw rfl
  case add | mul | sub | div | sdiv | mod | smod | signextend | lt | gt | slt | sgt | eq | and | or
      | xor | byte | shl | shr | sar =>
    exact .of_within fun _ => within_binary _ _
  case addmod | mulmod => exact .of_within fun _ => within_ternary _ _
  case iszero | not => exact .of_within fun _ => within_unary _ _
  case address | caller | callvalue | calldatasize | codesize | returndatasize | msize | pc | gas =>
    exact .of_within fun _ => within_pushing _ (within_frame _)
  case origin | gasprice | coinbase | timestamp | number | prevrandao | gaslimit | chainid
      | basefee | blobbasefee =>
    exact .of_within fun _ => within_pushing _ (within_pure _)
  case calldatacopy | codecopy => exact metered_copyFrom _ (fun _ => rfl) sound
  case exp => exact metered_exp
  case keccak256 => exact metered_keccak256 sound
  case balance => exact .of_within fun _ => within_balance
  case calldataload => exact .of_within fun _ => within_calldataload
  case extcodesize | extcodehash => exact metered_inspectCode _ sound
  case extcodecopy => exact metered_extcodecopy sound
  case returndatacopy =>
    exact metered_returndatacopy sound (fun beyond => ⟨rfl, beyond, rfl⟩) (.beyondReturnData rfl)
  case blockhash => exact .of_within fun _ => within_blockhash
  case selfbalance => exact .of_within fun _ => within_selfbalance
  case blobhash => exact .of_within fun _ => within_blobhash
  case pop => exact .of_within fun _ => within_popInstruction
  case mload => exact metered_mload sound
  case mstore => exact metered_mstore sound
  case mstore8 => exact metered_mstore8 sound
  case mcopy => exact metered_mcopy sound
  case sload => exact .of_within fun _ => within_sload
  case sstore => exact metered_sstore
  case tload => exact .of_within fun _ => within_tload
  case tstore => exact .of_within fun _ => within_tstore
  case jump => exact .of_within fun _ => within_jumpInstruction
  case jumpi => exact .of_within fun _ => within_jumpi
  case jumpdest => exact .of_within fun _ => within_jumpdest
  case push width =>
    split
    · exact .of_within fun _ => within_pushing _ (within_pure _)
    · exact .of_within fun _ => within_pushImmediate _
  case dup index => exact .of_within fun _ => within_duplicate _
  case swap index => exact .of_within fun _ => within_exchange _
  case log topics => exact metered_log _ sound

end Instruction

/-- All frames of a machine have paid for their memory, and no halt is queued in the running one. -/
structure Machine.Solvent (machine : Machine) : Prop where
  pays : ∀ frame ∈ machine.frame :: machine.suspended, frame.PaysForMemory
  unqueued : machine.frame.queuedHalt = none

namespace Machine.Solvent

variable {host : Host} {machine : Machine}

theorem running (solvent : machine.Solvent) : machine.frame.PaysForMemory :=
  solvent.pays machine.frame List.mem_cons_self

/-- Fetching an instruction costs nothing by itself. -/
theorem fetched (solvent : machine.Solvent) : machine.fetched.Solvent := by
  refine ⟨fun frame member => ?_, solvent.unqueued⟩
  rcases List.mem_cons.mp member with rfl | waiting
  · exact solvent.running.of_same rfl rfl rfl
  · exact solvent.pays frame (List.mem_cons_of_mem _ waiting)

theorem metered {enter : Transfer → Run Outcome} (plain : host.Plain)
    (cancun : host.schedule = .cancun) (enters : Enters host enter) (solvent : machine.Solvent)
    (opcode : Opcode) :
    Metered (opcode.needed machine.frame.stack) (Instruction.Unplaced opcode machine)
      (Instruction.Excused host enter opcode machine) machine
      (Instruction.execute host enter opcode machine) :=
  Instruction.metered_execute plain cancun enters opcode solvent.running.sound solvent.unqueued

/-- An instruction leaves its frame with memory that is paid for. -/
theorem executed {enter : Transfer → Run Outcome} {opcode : Opcode} {signal : Signal}
    {next : Machine} (plain : host.Plain) (cancun : host.schedule = .cancun)
    (enters : Enters host enter) (solvent : machine.Solvent)
    (done : Instruction.execute host enter opcode machine = .ok signal next) : next.Solvent := by
  have place := ((Instruction.execute_behaves plain enters opcode).evolves done).samePlace
  have metered := solvent.metered plain cancun enters opcode
  rw [done] at metered
  refine ⟨fun frame member => ?_, Instruction.unqueued_of_execute solvent.unqueued done⟩
  rw [place.suspended] at member
  rcases List.mem_cons.mp member with rfl | waiting
  · exact solvent.running.of_metered metered place.context.invocation
  · exact solvent.pays frame (List.mem_cons_of_mem _ waiting)

/-- The opening of a frame and its start leave its memory and its gas alone. -/
theorem started {transfer : Transfer} {started : Machine} (solvent : machine.Solvent)
    (starts : Interpreter.startFrame host transfer (machine.opened host) = .ok none started) :
    started.Solvent := by
  obtain ⟨_, begun, evolved, _⟩ := Interpreter.startFrame_eq_ok starts
  have frame := Interpreter.frame_of_startFrame starts
  have suspended : started.suspended = machine.suspended :=
    (begun.samePlace.trans evolved.samePlace).suspended
  refine ⟨fun shown member => ?_, (congrArg Frame.queuedHalt frame).trans solvent.unqueued⟩
  rw [frame, suspended] at member
  rcases List.mem_cons.mp member with rfl | waiting
  · exact solvent.running.of_same rfl rfl rfl
  · exact solvent.pays shown (List.mem_cons_of_mem _ waiting)

/-- A new child owes nothing, and its parent has paid for the memory it needs. -/
theorem entering {opcode : Opcode} {ready : Machine} {entry : Entry}
    (cancun : host.schedule = .cancun) (solvent : machine.Solvent)
    (prepares : Instruction.preparation host opcode machine = .ok (some entry) ready) :
    (ready.entering entry.child).Solvent := by
  obtain ⟨evolved, prepared⟩ := Instruction.preparation_eq_some prepares
  have fresh := prepared.legal.fresh
  have place := evolved.samePlace
  refine ⟨fun frame member => ?_, congrArg Frame.queuedHalt fresh.start⟩
  rcases List.mem_cons.mp member with rfl | waiting
  · exact .of_new fresh.memory (congrArg Frame.gas fresh.start)
  rcases List.mem_cons.mp waiting with rfl | waiting
  · have endows := Instruction.endows_of_preparation cancun solvent.running.sound prepares
    obtain ⟨aligned, price⟩ := Frame.paysForMemory_iff.mp solvent.running
    have larger := Memory.wholePrice_mono endows.memory.within
    have paid := endows.price
    refine Frame.paysForMemory_iff.mpr ⟨endows.memory.aligned aligned, ?_⟩
    rw [place.context.invocation]
    omega
  · rw [place.suspended] at waiting
    exact solvent.pays frame (List.mem_cons_of_mem _ waiting)

end Machine.Solvent

theorem Interpreter.Visits.solvent {host : Host} {budget : Nat} {machine visited : Machine}
    (plain : host.Plain) (cancun : host.schedule = .cancun)
    (visits : Visits host budget machine visited) (first : machine.Solvent) : visited.Solvent := by
  refine visits.preserves ?_ ?_ first
  · intro budget machine next before done
    exact before.fetched.executed plain cancun
      (enters_runFrame plain (concludes_run plain budget)) done
  · intro machine ready started entry before prepares starts
    exact (before.fetched.entering cancun prepares).started starts

theorem Transaction.Visits.solvent {host : Host} {world : World} {cache : Cache}
    {machine visited : Machine} (plain : host.Plain) (cancun : host.schedule = .cancun)
    (booted : Transaction.boot host world cache = .ok machine)
    (visits : Transaction.Visits host machine visited) : visited.Solvent := by
  obtain ⟨started, first, visits⟩ := visits
  obtain ⟨ready, prepares, starts⟩ := Transaction.firstFetch?_eq_some first
  obtain ⟨frame, suspended⟩ := Transaction.frame_of_prepareAll prepares
  have fresh := Transaction.boot_eq_ok booted
  have solvent : ready.Solvent := by
    constructor
    case pays =>
      intro shown member
      rw [frame, suspended, fresh.suspended, List.mem_singleton] at member
      rw [member]
      exact .of_new (congrArg (·.memory.size) fresh.fresh) (congrArg Frame.gas fresh.fresh)
    case unqueued =>
      rw [frame]
      exact congrArg Frame.queuedHalt fresh.fresh
  exact visits.solvent plain cancun (solvent.started starts)

/-- No frame of a message ever has more memory than it has paid for, and an instruction that has
paid for its memory does not fail on an access to it. -/
theorem memory_never_grows_unpaid (host : Host) (plain : host.Plain)
    (cancun : host.schedule = .cancun) (world : World) (cache : Cache) (machine : Machine)
    (booted : Transaction.boot host world cache = .ok machine) :
    MemoryAccounts host machine := by
  have enters : ∀ budget, Enters host (Interpreter.runFrame host (Interpreter.run host budget)) :=
    fun budget => Interpreter.enters_runFrame plain (Interpreter.concludes_run plain budget)
  constructor
  case moments => exact fun visited visits => (visits.solvent plain cancun booted).pays
  case ends =>
    intro visited budget signal next visits done
    exact ((visits.solvent plain cancun booted).fetched.executed plain cancun (enters budget)
      done).running
  case instructions =>
    intro visited budget visits
    exact (visits.solvent plain cancun booted).fetched.metered plain cancun (enters budget) _

/-- A contract that stores a word and calls another one, which loads a word far away. -/
def growingWorld : World :=
  (World.empty.setCode (.ofNat 1000)
    ⟨#[0x60, 1, 0x60, 0x40, 0x52, 0x60, 0x20, 0x60, 0x80, 0x5f, 0x5f, 0x5f, 0x61, 0x07, 0xd0, 0x61,
      0xff, 0xff, 0xf1]⟩).setCode (.ofNat 2000) ⟨#[0x61, 0x04, 0, 0x51, 0]⟩

def growingHost : Host :=
  .standard .blank ⟨.zero, .account (.ofNat 1000), .zero, ByteArray.empty, 200000, []⟩ .standard

/-- The way to the frame of the callee after it has loaded its word. -/
def growing : List Turn := List.replicate 10 .past ++ [.inside, .past, .past]

theorem caller_and_callee_have_paid :
    ∃ machine visited, Transaction.boot growingHost growingWorld default = .ok machine ∧
      Transaction.Visits growingHost machine visited ∧
      visited.frame.memoryWords = 33 ∧ visited.suspended.map Frame.memoryWords = [5] ∧
      visited.frame.invocation.gasLimit.toNat - visited.frame.gas.toNat = 107 ∧
      visited.frame.PaysForMemory ∧ MemoryAccounts growingHost machine := by
  have shown : (Transaction.moment? growingHost growingWorld growing).map (fun moments =>
      (moments.2.frame.memoryWords, moments.2.suspended.map Frame.memoryWords,
        moments.2.frame.invocation.gasLimit.toNat - moments.2.frame.gas.toNat)) =
      some (33, [5], 107) := by decide +kernel
  obtain ⟨machine, visited, booted, visits, answer⟩ :=
    Transaction.moment?_shows (fun moment => (moment.frame.memoryWords,
      moment.suspended.map Frame.memoryWords,
      moment.frame.invocation.gasLimit.toNat - moment.frame.gas.toNat)) (by decide) shown
  simp only [Prod.mk.injEq] at answer
  obtain ⟨words, waiting, consumed⟩ := answer
  have accounts := memory_never_grows_unpaid growingHost ⟨rfl, rfl⟩ rfl growingWorld default machine
    booted
  exact ⟨machine, visited, booted, visits, words, waiting, consumed,
    accounts.moments visited visits _ List.mem_cons_self, accounts⟩

end CancunMachine
