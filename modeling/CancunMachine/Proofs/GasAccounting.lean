import Mathlib.Tactic
import CancunMachine.Proofs.Evolution.Price
import CancunMachine.Proofs.Evolution.Visits

/-!
# Gas is never created

Gas crosses the boundaries between frames as the gas of a callee, as the stipend and as what a
callee gives back. The stipend is covered by the price of the value, so no instruction leaves its
frame with more gas than before, no frame ever has more than its limit, and what a frame reports as
used is really the rest. The refund of a message is at most a fifth of what its outermost frame has
used.
-/

namespace CancunMachine

open Ending

/-- No frame has more gas than it was given. -/
def Machine.WithinLimits (machine : Machine) : Prop :=
  ∀ frame ∈ machine.frame :: machine.suspended, frame.gas ≤ frame.invocation.gasLimit

/-- All gas of a frame has either been used or remains. -/
def Outcome.Balances (outcome : Outcome) (gasLimit : UInt64) : Prop :=
  outcome.gasUsed.toNat + outcome.gasRemaining.toNat = gasLimit.toNat

/-- How a caller accounts for a call that it has completed. -/
inductive Instruction.CallAccounts (host : Host) (enter : Transfer → Run Outcome)
    (opcode : Opcode) (read : Run CallRequest) (before after : Machine) : Prop
  /-- The call has failed before its callee was entered, and nothing was paid. -/
  | early :
      preparation host opcode before = .ok none after →
      after.frame.gas = before.frame.gas →
      CallAccounts host enter opcode read before after
  /-- The price and what the callee has used are paid, and a call that moves value has the stipend
  back. -/
  | entered {request : CallRequest} {price : UInt64} {entry : Entry} {ready closed : Machine}
      {outcome : Outcome} :
      read before = .ok request before →
      request.price host before = .ok price →
      preparation host opcode before = .ok (some entry) ready →
      enter entry.transfer (ready.entering entry.child) = .ok outcome closed →
      after.frame.gas.toNat + price.toNat + outcome.gasUsed.toNat =
        before.frame.gas.toNat + (if request.target.movesValue then 2300 else 0) →
      CallAccounts host enter opcode read before after

namespace Machine

theorem WithinLimits.of_samePlace {machine next : Machine} (within : machine.WithinLimits)
    (place : machine.SamePlace next)
    (spent : next.frame.gas.toNat ≤ machine.frame.gas.toNat) : next.WithinLimits := by
  intro frame member
  rw [place.suspended] at member
  rcases List.mem_cons.mp member with rfl | waiting
  · have before := within machine.frame List.mem_cons_self
    rw [place.context.invocation]
    exact UInt64.le_trans (UInt64.le_iff_toNat_le.mpr spent) before
  · exact within frame (List.mem_cons_of_mem _ waiting)

/-- A new child has as much gas as it was given. -/
theorem WithinLimits.entering {machine : Machine} {child : Frame} (within : machine.WithinLimits)
    (fresh : child.Fresh) : (machine.entering child).WithinLimits := by
  intro frame member
  rcases List.mem_cons.mp member with same | waiting
  · rw [same]
    change child.gas ≤ child.invocation.gasLimit
    rw [fresh.start]
    exact UInt64.le_refl _
  · exact within frame waiting

theorem WithinLimits.opened {machine : Machine} (host : Host) (within : machine.WithinLimits) :
    (machine.opened host).WithinLimits := by
  intro frame member
  rcases List.mem_cons.mp member with rfl | waiting
  · exact within machine.frame List.mem_cons_self
  · exact within frame (List.mem_cons_of_mem _ waiting)

theorem WithinLimits.started {host : Host} {transfer : Transfer} {machine started : Machine}
    (within : machine.WithinLimits)
    (starts : Interpreter.startFrame host transfer (machine.opened host) = .ok none started) :
    started.WithinLimits := by
  obtain ⟨_, begun, evolved, spent, _⟩ := Interpreter.startFrame_eq_ok starts
  exact (within.opened host).of_samePlace (begun.samePlace.trans evolved.samePlace) spent

/-- Fetching an instruction costs nothing by itself. -/
theorem WithinLimits.fetched {machine : Machine} (within : machine.WithinLimits) :
    machine.fetched.WithinLimits :=
  within.of_samePlace ⟨rfl, rfl, rfl, rfl⟩ (le_refl _)

end Machine

namespace Interpreter

variable {host : Host} {transfer : Transfer} {budget : Nat}

/-- Whatever an instruction is and whatever it starts, it makes no gas. -/
theorem gas_of_execute (plain : host.Plain) (cancun : host.schedule = .cancun)
    (opcode : Opcode) (machine : Machine) :
    (reached (Instruction.execute host (runFrame host (run host budget)) opcode
      machine)).frame.gas ≤ machine.frame.gas := by
  have behaves := Instruction.execute_behaves plain
    (enters_runFrame plain (concludes_run plain budget)) opcode
  rw [UInt64.le_iff_toNat_le]
  cases ended : Instruction.execute host (runFrame host (run host budget)) opcode machine with
  | ok signal final => exact behaves.spends cancun ended
  | error cause final => exact behaves.failedSpends cancun ended

/-- No moment of a run finds a frame with more gas than it was given. -/
theorem Visits.withinLimits (plain : host.Plain) (cancun : host.schedule = .cancun)
    {machine visited : Machine} (visits : Visits host budget machine visited)
    (within : machine.WithinLimits) : visited.WithinLimits := by
  refine visits.preserves ?_ ?_ within
  · intro budget machine next before done
    have behaves := Instruction.execute_behaves plain
      (enters_runFrame plain (concludes_run plain budget)) machine.nextOpcode
    exact before.fetched.of_samePlace (behaves.evolves done).samePlace
      (behaves.spends cancun done)
  · intro machine ready started entry before prepares starts
    obtain ⟨evolved, prepared⟩ := Instruction.preparation_eq_some prepares
    have paid := prepared.gas cancun
    have waiting := before.fetched.of_samePlace evolved.samePlace (by omega)
    exact (waiting.entering prepared.legal.fresh).started starts

/-- The outcome of a frame accounts for all the gas it was given. -/
theorem balances_of_enters {enter : Transfer → Run Outcome} (enters : Enters host enter)
    (cancun : host.schedule = .cancun) {machine closed : Machine} {outcome : Outcome}
    (within : machine.frame.gas ≤ machine.frame.invocation.gasLimit)
    (done : enter transfer machine = .ok outcome closed) :
    outcome.Balances machine.frame.invocation.gasLimit := by
  have remaining := enters.spends cancun done
  cases enters.runs done with
  | @intro started ended _ starts evolved tells closes =>
      have same : ended.frame.invocation = machine.frame.invocation :=
        (starts.samePlace.trans evolved.samePlace).context.invocation
      have used : outcome.gasUsed =
          subSaturating machine.frame.invocation.gasLimit outcome.gasRemaining := by
        rw [tells.shows, ← same]
        rfl
      have limit := UInt64.le_iff_toNat_le.mp within
      unfold Outcome.Balances
      rw [used, toNat_subSaturating]
      omega

theorem balances_of_child {enter : Transfer → Run Outcome} (enters : Enters host enter)
    (cancun : host.schedule = .cancun) {opcode : Opcode} {machine ready closed : Machine}
    {entry : Entry} {outcome : Outcome}
    (prepares : Instruction.preparation host opcode machine = .ok (some entry) ready)
    (done : enter entry.transfer (ready.entering entry.child) = .ok outcome closed) :
    outcome.Balances entry.child.invocation.gasLimit := by
  have legal := (Instruction.preparation_eq_some prepares).2.legal
  refine balances_of_enters enters cancun ?_ done
  change entry.child.gas ≤ entry.child.invocation.gasLimit
  rw [legal.fresh.start]
  exact UInt64.le_refl _

end Interpreter

/-- The accounting for the gas of a message that a machine is about to execute. -/
structure GasAccounts (host : Host) (machine : Machine) : Prop where
  /-- No instruction leaves its frame with more gas, with all the frames that it starts and even if
  it ends the message. -/
  instructions : ∀ budget opcode before,
    (reached (Instruction.execute host (Interpreter.runFrame host (Interpreter.run host budget))
      opcode before)).frame.gas ≤ before.frame.gas
  /-- Whenever an instruction is fetched, no frame has more gas than its limit. -/
  moments : ∀ visited, Transaction.Visits host machine visited → visited.WithinLimits
  /-- The outcome of a child accounts for all the gas that it was given. -/
  children : ∀ budget opcode before ready entry outcome closed,
    Instruction.preparation host opcode before = .ok (some entry) ready →
    Interpreter.runFrame host (Interpreter.run host budget) entry.transfer
      (ready.entering entry.child) = .ok outcome closed →
    outcome.Balances entry.child.invocation.gasLimit
  /-- So does the outcome of the outermost frame. -/
  outermost : ∀ ready outcome ended, Transaction.prepareAll host machine = .ok () ready →
    Interpreter.runOutermost host (Transaction.payment host ready) ready = .ok outcome ended →
    outcome.Balances host.message.gasLimit
  /-- A completed call costs its price and the gas its callee has used, less the stipend. -/
  calls : ∀ budget opcode read before after signal,
    Instruction.callReader? host opcode = some read →
    Instruction.execute host (Interpreter.runFrame host (Interpreter.run host budget)) opcode
      before = .ok signal after →
    Instruction.CallAccounts host (Interpreter.runFrame host (Interpreter.run host budget)) opcode
      read before after
  /-- The refund is what the frames have earned, at most a fifth of the gas used, and it is taken
  off. -/
  settlement : host.hooks = [.settlement] → ∀ report final,
    Transaction.execute host machine = .ok report final →
    ∃ ready ended outcome, Transaction.Settles host machine ready ended outcome report final ∧
      (report.gasRefunded : Int) =
        min (max ended.substate.refund 0) (outcome.gasUsed.toNat / 5 : Nat) ∧
      report.gasUsed.toNat + report.gasRefunded = outcome.gasUsed.toNat ∧
      report.gasUsed ≤ host.message.gasLimit

variable {host : Host}

theorem Instruction.callAccounts_of_execute {enter : Transfer → Run Outcome}
    (enters : Enters host enter) (cancun : host.schedule = .cancun) {opcode : Opcode}
    {read : Run CallRequest} {before after : Machine} {signal : Signal}
    (reads : callReader? host opcode = some read)
    (done : execute host enter opcode before = .ok signal after) :
    CallAccounts host enter opcode read before after := by
  rcases gas_of_call enters reads done with ⟨failed, same⟩ |
    ⟨request, price, entry, ready, outcome, closed, asks, priced, prepares, entered, paid⟩
  · exact .early failed same
  · have balances := Interpreter.balances_of_child enters cancun prepares entered
    refine .entered asks priced prepares entered ?_
    unfold Outcome.Balances at balances
    rw [CallTarget.stipend, cancun] at paid
    change _ = _ + _ + (if request.target.movesValue then 2300 else 0) at paid
    omega

namespace Transaction

theorem toNat_cappedRefund (earned : Int) (gasUsed : UInt64) :
    (cappedRefund earned gasUsed : Int) = min (max earned 0) (gasUsed.toNat / 5 : Nat) := by
  have fifth : (gasUsed / refundQuotient).toNat = gasUsed.toNat / 5 := UInt64.toNat_div _ _
  rw [cappedRefund, fifth]
  omega

/-- A message begins with all its gas in its outermost frame. -/
theorem Booted.gas {world : World} {machine : Machine} (booted : Booted host world machine) :
    machine.frame.gas = host.message.gasLimit := by
  rw [booted.fresh, ← booted.gasLimit]
  rfl

theorem Booted.withinLimits {world : World} {machine : Machine}
    (booted : Booted host world machine) : machine.WithinLimits := by
  intro frame member
  rw [booted.suspended, List.mem_singleton] at member
  rw [member, booted.gas, booted.gasLimit]
  exact UInt64.le_refl _

/-- The outcome of the outermost frame accounts for the gas of the message. -/
theorem Booted.balances {world : World} {machine ready ended : Machine} {outcome : Outcome}
    (booted : Booted host world machine) (plain : host.Plain) (cancun : host.schedule = .cancun)
    (prepares : prepareAll host machine = .ok () ready)
    (ran : Interpreter.runOutermost host (payment host ready) ready = .ok outcome ended) :
    outcome.Balances host.message.gasLimit := by
  obtain ⟨frame, _⟩ := frame_of_prepareAll prepares
  have limit : ready.frame.invocation.gasLimit = host.message.gasLimit := by
    rw [frame, booted.gasLimit]
  rw [← limit]
  refine Interpreter.balances_of_enters (Interpreter.enters_runFrame plain
    (Interpreter.concludes_runInstructions plain)) cancun ?_ ran
  rw [limit, frame, booted.gas]
  exact UInt64.le_refl _

/-- The settlement takes the refund off the gas that the outermost frame has used. -/
theorem Settles.gas {machine ready ended final : Machine} {outcome : Outcome} {report : Report}
    (settles : Settles host machine ready ended outcome report final) :
    (report.gasRefunded : Int) =
        min (max ended.substate.refund 0) (outcome.gasUsed.toNat / 5 : Nat) ∧
      report.gasUsed.toNat + report.gasRefunded = outcome.gasUsed.toNat := by
  have refunded := toNat_cappedRefund ended.substate.refund outcome.gasUsed
  rw [← settles.gasRefunded] at refunded
  have bounded := outcome.gasUsed.toNat_lt
  have small : report.gasRefunded < UInt64.size := by
    rw [UInt64.size]
    omega
  refine ⟨refunded, ?_⟩
  rw [settles.gasUsed, toNat_subSaturating, UInt64.toNat_ofNat_of_lt' small]
  omega

end Transaction

/-- Gas is never created. -/
theorem gas_is_never_created (host : Host) (plain : host.Plain)
    (cancun : host.schedule = .cancun) (world : World) (cache : Cache) (machine : Machine)
    (booted : Transaction.boot host world cache = .ok machine) : GasAccounts host machine := by
  have fresh := Transaction.boot_eq_ok booted
  have enters : ∀ budget, Enters host (Interpreter.runFrame host (Interpreter.run host budget)) :=
    fun budget => Interpreter.enters_runFrame plain (Interpreter.concludes_run plain budget)
  have outermost : ∀ ready outcome ended, Transaction.prepareAll host machine = .ok () ready →
      Interpreter.runOutermost host (Transaction.payment host ready) ready = .ok outcome ended →
      outcome.Balances host.message.gasLimit := by
    intro ready outcome ended prepares ran
    exact fresh.balances plain cancun prepares ran
  constructor
  case instructions => exact fun _ => Interpreter.gas_of_execute plain cancun
  case moments =>
    rintro visited ⟨started, first, visits⟩
    obtain ⟨ready, prepares, starts⟩ := Transaction.firstFetch?_eq_some first
    obtain ⟨frame, suspended⟩ := Transaction.frame_of_prepareAll prepares
    have within : ready.WithinLimits := by
      unfold Machine.WithinLimits
      rw [frame, suspended]
      exact fresh.withinLimits
    exact visits.withinLimits plain cancun (within.started starts)
  case children =>
    intro budget opcode before ready entry outcome closed prepares ran
    exact Interpreter.balances_of_child (enters budget) cancun prepares ran
  case outermost => exact outermost
  case calls =>
    intro budget opcode read before after signal reads done
    exact Instruction.callAccounts_of_execute (enters budget) cancun reads done
  case settlement =>
    intro hooks report final done
    obtain ⟨ready, ended, outcome, settles⟩ := Transaction.execute_eq_ok hooks done
    obtain ⟨refunded, used⟩ := settles.gas
    have prepares := settles.prepares
    rw [← Transaction.prepareAll_of_hooks hooks] at prepares
    have balances := outermost ready outcome ended prepares settles.runs
    unfold Outcome.Balances at balances
    refine ⟨ready, ended, outcome, settles, refunded, used, ?_⟩
    rw [UInt64.le_iff_toNat_le]
    omega

/-- A contract that clears a slot, which earns a refund, and pays another contract. -/
def clearingWorld : World :=
  ((World.empty.setAccount (.ofNat 1000) {
    balance := .ofLimb 5
    nonce := 1
    code := ⟨#[0x5f, 0x60, 1, 0x55, 0x5f, 0x5f, 0x5f, 0x5f, 0x60, 2, 0x61, 0x07, 0xd0, 0x61, 0xff,
      0xff, 0xf1]⟩
    storage := Table.empty.insert (.ofLimb 1) (.ofLimb 5) }).setCode (.ofNat 2000)
      ⟨#[0x5f, 0x5f, 0x52]⟩).setBalance .zero (.ofLimb 10)

def clearingHost : Host :=
  .standard .blank ⟨.zero, .account (.ofNat 1000), .zero, ByteArray.empty, 200000, []⟩ .standard

theorem clearing_contract_accounts_for_its_gas :
    ∃ machine report final ready ended outcome,
      Transaction.boot clearingHost clearingWorld default = .ok machine ∧
      GasAccounts clearingHost machine ∧
      Transaction.Settles clearingHost machine ready ended outcome report final ∧
      final.world.balance (.ofNat 2000) = .ofLimb 2 ∧
      report.gasRefunded = 2866 ∧ outcome.gasUsed.toNat = 14332 := by
  have shown : Transaction.shown? clearingHost clearingWorld (fun report final =>
      (report.gasUsed, report.gasRefunded, final.world.balance (.ofNat 2000))) =
      some (11466, 2866, .ofLimb 2) := by decide +kernel
  obtain ⟨machine, report, final, booted, done, answer⟩ := Transaction.shown?_eq_some shown
  simp only [Prod.mk.injEq] at answer
  obtain ⟨gasUsed, refunded, received⟩ := answer
  have accounts := gas_is_never_created clearingHost ⟨rfl, rfl⟩ rfl clearingWorld default machine
    booted
  obtain ⟨ready, ended, outcome, settles, _, used, _⟩ := accounts.settlement rfl report final done
  refine ⟨machine, report, final, ready, ended, outcome, booted, accounts, settles, received,
    refunded, ?_⟩
  rw [← used, gasUsed, refunded]
  rfl

end CancunMachine
