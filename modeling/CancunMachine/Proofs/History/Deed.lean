import Mathlib.Tactic
import CancunMachine.Proofs.History.Holdings

/-!
# The deeds of instructions

Five kinds of instructions deal with slots and logs. What such an instruction has done is told by
its operands, its account and the word that it leaves on the stack. All the others leave the
holdings as they are.
-/

namespace CancunMachine

open Ending

/-- The log that a frame asks for with its operands. -/
def Frame.log? (frame : Frame) (topicCount : Nat) : Option Log := do
  let start ← frame.stack.top? 0
  let length ← frame.stack.top? 1
  let below ← (frame.stack.drop 2).toOption
  let topics ← (below.peek topicCount).toOption
  let (size, offset) ← (length.range start).toOption
  match Memory.load offset size frame.memory with
  | .ok data _ => return ⟨frame.invocation.recipient, topics.toList.map Word.toHash, data⟩
  | .error _ _ => none

/-- The instructions that deal with slots and logs. -/
def Opcode.hasDeed : Opcode → Bool
  | .sload | .tload | .sstore | .tstore | .log _ => true
  | _ => false

/-- What an instruction has done that was executed between two frames. -/
def Opcode.deed? (opcode : Opcode) (before after : Frame) : Option Deed :=
  let address := before.invocation.recipient
  match opcode with
  | .sload => do
      return .slotRead address (← before.stack.top? 0) (← after.stack.top? 0)
  | .tload => do
      return .transientRead address (← before.stack.top? 0) (← after.stack.top? 0)
  | .sstore => do
      return .slotWritten address (← before.stack.top? 0) (← before.stack.top? 1)
  | .tstore => do
      return .transientWritten address (← before.stack.top? 0) (← before.stack.top? 1)
  | .log topicCount => (before.log? topicCount).map .logged
  | _ => none

theorem Opcode.isExit_of_deed? {opcode : Opcode} {before after : Frame} {deed : Deed}
    (done : opcode.deed? before after = some deed) : deed.isExit = false := by
  cases opcode <;> simp only [Opcode.deed?, reduceCtorEq] at done
  case sload | tload | sstore | tstore =>
    obtain ⟨first, _, done⟩ := Option.bind_eq_some_iff.mp done
    obtain ⟨second, _, done⟩ := Option.bind_eq_some_iff.mp done
    cases done
    rfl
  case log =>
    obtain ⟨_, _, rfl⟩ := Option.map_eq_some_iff.mp done
    rfl

/-- The operands that are peeked at are the topmost ones. -/
theorem Stack.top?_of_peek {stack : Stack} {count index : Nat} {words : Vector Word count}
    (peeked : stack.peek count = .ok words) (within : index < count) :
    stack.top? index = some words[index] := by
  unfold peek at peeked
  split at peeked
  · rename_i enough
    cases peeked
    have inside : index < stack.items.size := Nat.lt_of_lt_of_le within enough
    unfold top?
    rw [if_pos inside, Vector.getElem_ofFn]
    exact Array.getElem?_eq_getElem _
  · cases peeked

/-- A word that was pushed is the topmost operand. -/
theorem Stack.top?_of_push {stack next : Stack} {word : Word}
    (pushed : stack.push word = .ok next) : next.top? 0 = some word := by
  unfold push at pushed
  split at pushed
  · cases pushed
    simp [top?]
  · cases pushed

theorem alters_setTransient (address : Address) (key value : Word) :
    Alters shownHoldings (·.after (.transientWritten address key value))
      (Run.modifySubstate (·.setTransient address key value)) :=
  .modifySubstate fun world substate => by
    simp only [shownHoldings, Substate.transient_setTransient, Substate.logs_setTransient,
      Holdings.after]

theorem alters_addLog (log : Log) :
    Alters shownHoldings (·.after (.logged log)) (Run.modifySubstate (·.addLog log)) :=
  .modifySubstate fun world substate => by
    simp only [shownHoldings, Substate.transient_addLog, Substate.logs_addLog, Holdings.after]

namespace Run

theorem peekOne_eq_ok {word : Word} {machine final : Machine}
    (done : peekOne machine = .ok word final) :
    machine.frame.stack.top? 0 = some word ∧ final = machine := by
  obtain ⟨words, _, peeked, returned⟩ := bind_eq_ok.mp done
  have same := Instruction.looks_peek 1 peeked
  cases returned
  exact ⟨Stack.top?_of_peek (Instruction.peek_eq_ok peeked).1 Nat.zero_lt_one, same⟩

theorem peekTwo_eq_ok {first second : Word} {machine final : Machine}
    (done : peekTwo machine = .ok (first, second) final) :
    machine.frame.stack.top? 0 = some first ∧ machine.frame.stack.top? 1 = some second := by
  obtain ⟨words, _, peeked, returned⟩ := bind_eq_ok.mp done
  have found := (Instruction.peek_eq_ok peeked).1
  cases returned
  exact ⟨Stack.top?_of_peek found Nat.zero_lt_two, Stack.top?_of_peek found Nat.one_lt_two⟩

theorem push_eq_ok {word : Word} {machine final : Machine}
    (done : push word machine = .ok () final) :
    ∃ stack, final = { machine with frame.stack := stack } ∧ stack.top? 0 = some word := by
  obtain ⟨stack, pushed, rfl⟩ := updateStack_eq_ok.mp done
  exact ⟨stack, rfl, Stack.top?_of_push pushed⟩

end Run

theorem looks_peekTwo : Looks Run.peekTwo :=
  looks_bind (Instruction.looks_peek 2) fun _ => looks_pure _

theorem looks_forbidStatic : Looks Run.forbidStatic := fun done => (isStatic_of_forbidStatic done).2

/-- After a look the machine is still the same. -/
theorem bind_eq_ok_of_looks {Alpha Beta : Type} {first : Run Alpha} {next : Alpha → Run Beta}
    {machine final : Machine} {value : Beta} (looks : Looks first)
    (done : (first >>= next) machine = .ok value final) :
    ∃ shown, first machine = .ok shown machine ∧ next shown machine = .ok value final := by
  obtain ⟨shown, middle, started, rest⟩ := bind_eq_ok.mp done
  obtain rfl := looks started
  exact ⟨shown, started, rest⟩

namespace Instruction

variable {host : Host} {enter : Transfer → Run Outcome} {machine final : Machine}
  {signal : Signal}

/-- What an instruction has done is its deed, and what it has read is what was there. -/
structure Accounts (opcode : Opcode) (before after : Machine) : Prop where
  holdings : after.holdings = (opcode.deed? before.frame after.frame).elim before.holdings
    before.holdings.after
  confirms : ∀ deed, opcode.deed? before.frame after.frame = some deed →
    before.holdings.Confirms deed

theorem Accounts.of_deed {opcode : Opcode} {before after : Machine} {deed : Deed}
    (done : opcode.deed? before.frame after.frame = some deed)
    (holdings : after.holdings = before.holdings.after deed)
    (confirms : before.holdings.Confirms deed) : Accounts opcode before after where
  holdings := by rw [done]; exact holdings
  confirms := by
    intro other same
    rw [done] at same
    cases same
    exact confirms

theorem frame_of_traceTracked {event : Event}
    (done : (do
      if ← Run.frame (·.isTracked) then Run.trace host event
      return Signal.proceed) machine = .ok signal final) : final.frame = machine.frame := by
  obtain ⟨tracked, _, asked, rest⟩ := bind_eq_ok.mp done
  cases asked
  unfold Run.trace at rest
  split at rest
  · split at rest <;> cases rest <;> rfl
  · cases rest
    rfl

/-- A read pushes what the slot holds. -/
theorem sload_eq_ok (done : sload host machine = .ok signal final) :
    ∃ key, machine.frame.stack.top? 0 = some key ∧ final.frame.stack.top? 0 =
      some (machine.world.slot machine.frame.invocation.recipient key) := by
  obtain ⟨key, _, peeked, rest⟩ := bind_eq_ok.mp done
  obtain ⟨found, rfl⟩ := Run.peekOne_eq_ok peeked
  obtain ⟨address, _, asked, rest⟩ := bind_eq_ok.mp rest
  cases asked
  obtain ⟨cold, _, asked, rest⟩ := bind_eq_ok.mp rest
  cases asked
  obtain ⟨_, paid, charged, rest⟩ := bind_eq_ok.mp rest
  obtain ⟨_, rfl⟩ := Run.charge_eq_ok.mp charged
  obtain ⟨_, warmed, warms, rest⟩ := bind_eq_ok.mp rest
  cases warms
  obtain ⟨_, dropped, drops, rest⟩ := bind_eq_ok.mp rest
  obtain ⟨stack, _, rfl⟩ := Run.updateStack_eq_ok.mp drops
  obtain ⟨value, _, read, rest⟩ := bind_eq_ok.mp rest
  obtain ⟨world, looked, rfl⟩ := Run.onWorld_eq_ok.mp read
  obtain ⟨rfl, rfl⟩ := (Access.reads_slot _ _).shows looked
  obtain ⟨_, pushed, pushes, rest⟩ := bind_eq_ok.mp rest
  obtain ⟨_, rfl, top⟩ := Run.push_eq_ok pushes
  rw [frame_of_traceTracked rest]
  exact ⟨key, found, top⟩

theorem tload_eq_ok (done : tload host machine = .ok signal final) :
    ∃ key, machine.frame.stack.top? 0 = some key ∧ final.frame.stack.top? 0 =
      some (machine.substate.transient machine.frame.invocation.recipient key) := by
  obtain ⟨_, paid, charged, rest⟩ := bind_eq_ok.mp done
  obtain ⟨_, rfl⟩ := Run.charge_eq_ok.mp charged
  obtain ⟨key, _, popped, rest⟩ := bind_eq_ok.mp rest
  obtain ⟨word, _, peeked, popped⟩ := bind_eq_ok.mp popped
  obtain ⟨found, rfl⟩ := Run.peekOne_eq_ok peeked
  obtain ⟨_, dropped, drops, returned⟩ := bind_eq_ok.mp popped
  obtain ⟨stack, _, rfl⟩ := Run.updateStack_eq_ok.mp drops
  cases returned
  obtain ⟨address, _, asked, rest⟩ := bind_eq_ok.mp rest
  cases asked
  obtain ⟨seen, _, got, rest⟩ := bind_eq_ok.mp rest
  cases got
  obtain ⟨_, pushed, pushes, rest⟩ := bind_eq_ok.mp rest
  obtain ⟨_, rfl, top⟩ := Run.push_eq_ok pushes
  cases rest
  exact ⟨_, found, top⟩

/-- What a view shows after a write to a slot, if it shows what such a write gives back and what it
writes. -/
theorem shown_of_sstore {Shown : Type} (view : World → Substate → Shown)
    (refunded : Int → Shown → Shown) (written : Address → Word → Word → Shown → Shown)
    (refunds : ∀ world substate change,
      view world (substate.addRefund change) = refunded change (view world substate))
    (writes : ∀ world substate address key value,
      view (world.setSlot address key value) substate =
        written address key value (view world substate))
    (done : sstore host machine = .ok signal final) :
    ∃ key value, machine.frame.stack.top? 0 = some key ∧
      machine.frame.stack.top? 1 = some value ∧
      final.shown view = written machine.frame.invocation.recipient key value
        (refunded (host.schedule.sstoreRefund
          (machine.world.initialSlot machine.frame.invocation.recipient key)
          (machine.world.slot machine.frame.invocation.recipient key) value)
          (machine.shown view)) := by
  obtain ⟨_, _, rest⟩ := bind_eq_ok_of_looks looks_forbidStatic done
  rw [bind_of_ok (Run.frame_apply _ _)] at rest
  by_cases scarce : machine.frame.gas ≤ host.schedule.sstoreSentry
  · simp only [if_pos scarce] at rest
    cases rest
  simp only [if_neg scarce] at rest
  obtain ⟨⟨key, new⟩, peeked, rest⟩ := bind_eq_ok_of_looks looks_peekTwo rest
  obtain ⟨top, below⟩ := Run.peekTwo_eq_ok peeked
  rw [bind_of_ok (Run.frame_apply _ _)] at rest
  obtain ⟨current, read, rest⟩ := bind_eq_ok_of_looks (looks_reading (Access.reads_slot _ _)) rest
  obtain ⟨_, looked, _⟩ := Run.onWorld_eq_ok.mp read
  obtain ⟨rfl, _⟩ := (Access.reads_slot _ _).shows looked
  obtain ⟨initial, read, rest⟩ :=
    bind_eq_ok_of_looks (looks_reading (Access.reads_initial _ _)) rest
  obtain ⟨_, looked, _⟩ := Run.onWorld_eq_ok.mp read
  obtain ⟨rfl, _⟩ := (Access.reads_initial _ _).shows looked
  refine ⟨key, new, top, below, ?_⟩
  -- All the rest alters what is shown, whatever it starts from.
  refine (?_ : Alters view (written _ key new ∘ refunded _) _) machine signal final rest
  refine (Leaves.of_work (prudent_isColdSlot _ _)).alters fun cold => ?_
  refine (Leaves.of_payment (prudent_chargeCost _)).alters fun _ => ?_
  refine (Leaves.of_work (prudent_warmSlot _ _)).alters fun _ => ?_
  refine (Leaves.of_work (prudent_drop 2)).alters fun _ => ?_
  refine (Alters.modifySubstate fun world substate => refunds world substate _).bind fun _ => ?_
  refine (Alters.writing (Access.writes_slot _ _ _)
    fun world substate => writes world substate _ _ _).still fun _ => ?_
  exact (Leaves.of_work (prudent_setLastWrite _)).bind fun _ => .of_work (prudent_traceTracked _)

theorem sstore_eq_ok (done : sstore host machine = .ok signal final) :
    ∃ key value, machine.frame.stack.top? 0 = some key ∧
      machine.frame.stack.top? 1 = some value ∧
      final.holdings = machine.holdings.after
        (.slotWritten machine.frame.invocation.recipient key value) :=
  shown_of_sstore shownHoldings (fun _ holdings => holdings)
    (fun address key value => (·.after (.slotWritten address key value)))
    (fun world substate change => by
      simp only [shownHoldings, Substate.addRefund, Substate.transient_setRefund,
        Substate.logs_setRefund])
    (fun world substate address key value => by
      simp only [shownHoldings, World.slot_of_setSlot, Holdings.after]) done

theorem tstore_eq_ok (done : tstore host machine = .ok signal final) :
    ∃ key value, machine.frame.stack.top? 0 = some key ∧
      machine.frame.stack.top? 1 = some value ∧
      final.holdings = machine.holdings.after
        (.transientWritten machine.frame.invocation.recipient key value) := by
  obtain ⟨_, _, rest⟩ := bind_eq_ok_of_looks looks_forbidStatic done
  obtain ⟨_, paid, charged, rest⟩ := bind_eq_ok.mp rest
  obtain ⟨_, rfl⟩ := Run.charge_eq_ok.mp charged
  obtain ⟨⟨key, value⟩, _, popped, rest⟩ := bind_eq_ok.mp rest
  obtain ⟨⟨first, second⟩, peeked, popped⟩ := bind_eq_ok_of_looks looks_peekTwo popped
  obtain ⟨top, below⟩ := Run.peekTwo_eq_ok peeked
  obtain ⟨_, dropped, drops, returned⟩ := bind_eq_ok.mp popped
  obtain ⟨stack, _, rfl⟩ := Run.updateStack_eq_ok.mp drops
  cases returned
  obtain ⟨address, asked, rest⟩ := bind_eq_ok_of_looks (looks_frame _) rest
  cases asked
  obtain ⟨_, written, writes, rest⟩ := bind_eq_ok.mp rest
  have altered := alters_setTransient _ _ _ _ _ _ writes
  cases rest
  exact ⟨_, _, top, below, altered⟩

theorem log_eq_ok {topicCount : Nat} (done : log host topicCount machine = .ok signal final) :
    ∃ recorded, machine.frame.log? topicCount = some recorded ∧
      final.holdings = machine.holdings.after (.logged recorded) := by
  obtain ⟨_, _, rest⟩ := bind_eq_ok_of_looks looks_forbidStatic done
  obtain ⟨_, _, rest⟩ := bind_eq_ok_of_looks (looks_peek _) rest
  obtain ⟨⟨first, second⟩, peeked, rest⟩ := bind_eq_ok_of_looks looks_peekTwo rest
  obtain ⟨start, length⟩ := Run.peekTwo_eq_ok peeked
  obtain ⟨⟨size, offset⟩, ranged, rest⟩ := bind_eq_ok_of_looks (looks_ofHalting _) rest
  obtain ⟨needed, _, rest⟩ := bind_eq_ok_of_looks (looks_ofHalting _) rest
  obtain ⟨current, _, rest⟩ := bind_eq_ok_of_looks (looks_frame _) rest
  obtain ⟨_, paid, charged, rest⟩ := bind_eq_ok.mp rest
  obtain ⟨price, _, charged⟩ := bind_eq_ok_of_looks (looks_ofHalting _) charged
  obtain ⟨_, rfl⟩ := Run.charge_eq_ok.mp charged
  obtain ⟨_, dropped, drops, rest⟩ := bind_eq_ok.mp rest
  obtain ⟨below, drop, rfl⟩ := Run.updateStack_eq_ok.mp drops
  obtain ⟨topics, popped, pops, rest⟩ := bind_eq_ok.mp rest
  obtain ⟨labels, peeked, pops⟩ := bind_eq_ok_of_looks (looks_peek _) pops
  obtain ⟨_, emptied, drops, returned⟩ := bind_eq_ok.mp pops
  obtain ⟨left, _, rfl⟩ := Run.updateStack_eq_ok.mp drops
  cases returned
  obtain ⟨address, asked, rest⟩ := bind_eq_ok_of_looks (looks_frame _) rest
  cases asked
  obtain ⟨data, loaded, loads, rest⟩ := bind_eq_ok.mp rest
  obtain ⟨memory, load, rfl⟩ := Run.onMemory_eq_ok.mp loads
  obtain ⟨_, recorded, records, rest⟩ := bind_eq_ok.mp rest
  have altered := alters_addLog _ _ _ _ records
  cases rest
  refine ⟨_, ?_, altered⟩
  have range : second.range first = .ok (size, offset) := (Run.ofHalting_eq_ok.mp ranged).1
  have dropped : machine.frame.stack.drop 2 = .ok below := drop
  have labels : below.peek topicCount = .ok topics := (peek_eq_ok peeked).1
  have loaded : Memory.load offset size machine.frame.memory = .ok data memory := load
  simp [Frame.log?, start, length, range, dropped, labels, loaded, Except.toOption]

theorem accounts_of_sload (done : sload host machine = .ok signal final) :
    Accounts .sload machine final := by
  obtain ⟨key, asked, answered⟩ := sload_eq_ok done
  have told : Opcode.deed? .sload machine.frame final.frame =
      some (.slotRead machine.frame.invocation.recipient key
        (machine.world.slot machine.frame.invocation.recipient key)) := by
    simp [Opcode.deed?, asked, answered]
  have looks : Prudent True True .pays (sload host) := prudent_sload
  exact .of_deed told ((Leaves.of_payment looks).holdings done) rfl

theorem accounts_of_tload (done : tload host machine = .ok signal final) :
    Accounts .tload machine final := by
  obtain ⟨key, asked, answered⟩ := tload_eq_ok done
  have told : Opcode.deed? .tload machine.frame final.frame =
      some (.transientRead machine.frame.invocation.recipient key
        (machine.substate.transient machine.frame.invocation.recipient key)) := by
    simp [Opcode.deed?, asked, answered]
  have looks : Prudent True True .pays (tload host) := prudent_tload
  exact .of_deed told ((Leaves.of_payment looks).holdings done) rfl

theorem accounts_of_sstore (done : sstore host machine = .ok signal final) :
    Accounts .sstore machine final := by
  obtain ⟨key, value, top, below, altered⟩ := sstore_eq_ok done
  exact .of_deed (by simp [Opcode.deed?, top, below]) altered trivial

theorem accounts_of_tstore (done : tstore host machine = .ok signal final) :
    Accounts .tstore machine final := by
  obtain ⟨key, value, top, below, altered⟩ := tstore_eq_ok done
  exact .of_deed (by simp [Opcode.deed?, top, below]) altered trivial

theorem accounts_of_log {topicCount : Fin 5}
    (done : log host topicCount machine = .ok signal final) :
    Accounts (.log topicCount) machine final := by
  obtain ⟨recorded, asked, altered⟩ := log_eq_ok done
  exact .of_deed (by simp [Opcode.deed?, asked]) altered trivial

/-- An instruction that deals with slots or logs has done something once it is executed. -/
theorem exists_deed_of_execute {opcode : Opcode} (deals : opcode.hasDeed = true)
    (done : execute host enter opcode machine = .ok signal final) :
    ∃ deed, opcode.deed? machine.frame final.frame = some deed := by
  cases opcode <;> simp only [Opcode.hasDeed, Bool.false_eq_true] at deals
  case sload =>
    obtain ⟨key, asked, answered⟩ := sload_eq_ok done
    simp [Opcode.deed?, asked, answered]
  case tload =>
    obtain ⟨key, asked, answered⟩ := tload_eq_ok done
    simp [Opcode.deed?, asked, answered]
  case sstore =>
    obtain ⟨key, value, top, below, _⟩ := sstore_eq_ok done
    simp [Opcode.deed?, top, below]
  case tstore =>
    obtain ⟨key, value, top, below, _⟩ := tstore_eq_ok done
    simp [Opcode.deed?, top, below]
  case log =>
    obtain ⟨recorded, asked, _⟩ := log_eq_ok done
    simp [Opcode.deed?, asked]

/-- An instruction without a deed leaves the holdings as they were. -/
theorem accounts_of_quiet {opcode : Opcode}
    (nothing : ∀ before after, opcode.deed? before after = none)
    (holdings : final.holdings = machine.holdings) : Accounts opcode machine final where
  holdings := by
    rw [nothing]
    exact holdings
  confirms := by
    intro deed same
    rw [nothing] at same
    cases same

/-- Every instruction that starts no child accounts for what it does. -/
theorem accounts_of_execute {opcode : Opcode} (plain : host.Plain)
    (alone : opcode.startsChild = false)
    (done : execute host enter opcode machine = .ok signal final) :
    Accounts opcode machine final := by
  rcases opcode.regular_or_startsChild with regular | rfl | starts
  · have silent : opcode.writes = false → final.holdings = machine.holdings := by
      intro writes
      have prudent : Prudent False True .pays (execute host enter opcode) :=
        prudent_execute regular False.elim fun _ => writes
      exact (Leaves.of_prudent prudent).holdings done
    cases opcode with
    | sload => exact accounts_of_sload done
    | tload => exact accounts_of_tload done
    | sstore => exact accounts_of_sstore done
    | tstore => exact accounts_of_tstore done
    | log topicCount => exact accounts_of_log done
    | _ => exact accounts_of_quiet (fun _ _ => rfl) (silent rfl)
  · have leaves := leaves_selfdestruct aside_shownHoldings plain.destruction
    exact accounts_of_quiet (fun _ _ => rfl) (leaves.holdings done)
  · rw [alone] at starts
    cases starts

end Instruction

end CancunMachine
