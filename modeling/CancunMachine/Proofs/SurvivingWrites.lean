import Mathlib.Tactic
import CancunMachine.Proofs.History.Faithful
import CancunMachine.Proofs.Settlement

/-!
# Reads see the surviving writes

What a message reads from storage and from transient storage is what the latest write has left that
no failed frame has taken back, or what was there before the message. The logs of a message that
succeeds are those that no failed frame has taken back.
-/

namespace CancunMachine

open Ending

/-- What a message finds: the storage of the world, no transient storage and no logs. -/
def World.holdings (world : World) : Holdings where
  slots := world.slot
  transient := fun _ _ => .zero
  logs := []

namespace Transaction

variable {host : Host} {world : World} {cache : Cache} {machine ready : Machine}

/-- A message that is accepted finds the storage of the world: its preparation only counts the
nonce of the caller and warms addresses. -/
theorem holdings_of_prepareAll (hooks : host.hooks = [.settlement])
    (booted : boot host world cache = .ok machine)
    (prepares : prepareAll host machine = .ok () ready) : ready.holdings = world.holdings := by
  rw [prepareAll_of_hooks hooks] at prepares
  obtain ⟨_, warmth, rfl⟩ := prepareSettlement_eq_ok prepares
  obtain ⟨rfl, substate, -⟩ := boot_eq_ok booted
  have slots : (machine.world.setNonce host.message.caller
      (machine.world.nonce host.message.caller + 1)).slot = machine.world.slot :=
    World.slot_eq_of_updateHeader _ _ fun _ => rfl
  simp only [Machine.holdings, slots, substate]
  rfl

/-- The history of a message is that of its outermost frame, before which nothing has happened. -/
theorem embraces_history (plain : host.Plain) (hooks : host.hooks = [.settlement])
    (booted : boot host world cache = .ok machine)
    (prepares : prepareAll host machine = .ok () ready) :
    Interpreter.Embraces host world.holdings [] [] (Interpreter.runInstructions host)
      (payment host ready) ready (history host machine) := by
  rw [history_of_prepareAll prepares]
  apply Interpreter.embraces_frame plain (Interpreter.concludes_runInstructions plain)
  case alive => simp
  case fresh => simp
  case runs => exact fun started => Interpreter.recounts_runInstructions plain
  case holdings => exact holdings_of_prepareAll hooks booted prepares

theorem truthful_history (plain : host.Plain) (hooks : host.hooks = [.settlement])
    (booted : boot host world cache = .ok machine) :
    Truthful world.holdings [] (history host machine) := by
  cases prepares : prepareAll host machine with
  | ok _ ready => exact (embraces_history plain hooks booted prepares).truthful
  | error cause ready =>
      have nothing : history host machine = [] := by
        unfold history
        simp only [prepares]
      rw [nothing]
      trivial

/-- What an instruction does at any moment of a message is told in the history of the message. -/
theorem mem_history_of_visits {visited after : Machine} {enter : Transfer → Run Outcome}
    {signal : Signal} {deed : Deed} (visits : Visits host machine visited)
    (done : Instruction.execute host enter visited.nextOpcode visited.fetched = .ok signal after)
    (told : visited.nextOpcode.deed? visited.fetched.frame after.frame = some deed) :
    ∃ frame, ⟨frame, deed⟩ ∈ history host machine := by
  obtain ⟨started, first, visits⟩ := visits
  obtain ⟨ready, prepares, starts⟩ := firstFetch?_eq_some first
  obtain ⟨frame, _, member⟩ := Interpreter.mem_history_of_visits visits done told []
  refine ⟨frame, ?_⟩
  rw [history_of_prepareAll prepares]
  simp only [Interpreter.frameHistory, Interpreter.bodyHistory, starts, List.mem_append]
  exact .inl member

/-- The logs of a message that succeeds are the ones that survive. -/
theorem logs_of_success (plain : host.Plain) (hooks : host.hooks = [.settlement])
    (booted : boot host world cache = .ok machine) {report : Report} {final : Machine}
    (done : execute host machine = .ok report final) (succeeds : report.verdict = .success) :
    report.logs = survivingLogs (history host machine) := by
  obtain ⟨ready, ended, outcome, settles⟩ := execute_eq_ok hooks done
  have prepares := settles.prepares
  rw [← prepareAll_of_hooks hooks] at prepares
  have leaves := (embraces_history plain hooks booted prepares).leaves settles.runs
  have logs : ended.substate.logs = survivingLogs (history host machine) := by
    have recalled := congrArg Holdings.logs leaves
    rw [Holdings.logs_recalled] at recalled
    exact recalled
  have succeeded : outcome.isSuccess = true := by
    rw [settles.verdict] at succeeds
    simp only [Outcome.isSuccess, succeeds]
  rw [settles.logs, if_pos succeeded, logs]

end Transaction

/-- Reads see exactly the surviving writes. A deed survives as long as all the frames that contain
it and have ended have succeeded. The history of a message leaves no read, write or log out; a slot
that is read in it has the value of the latest surviving write before, or else the one it had in the
world, a transient slot that of the latest surviving write before, or else zero; and if the message
succeeds, the surviving logs are reported in their order. -/
theorem reads_see_surviving_writes (host : Host) (plain : host.Plain)
    (hooks : host.hooks = [.settlement]) (world : World) (cache : Cache) (machine : Machine)
    (booted : Transaction.boot host world cache = .ok machine) :
    (∀ visited enter signal after, Transaction.Visits host machine visited →
      Instruction.execute host enter visited.nextOpcode visited.fetched = .ok signal after →
      visited.nextOpcode.hasDeed = true →
      ∃ frame deed, visited.nextOpcode.deed? visited.fetched.frame after.frame = some deed ∧
        ⟨frame, deed⟩ ∈ Transaction.history host machine) ∧
    (∀ past frame address key value future,
      Transaction.history host machine = past ++ ⟨frame, .slotRead address key value⟩ :: future →
      value = (latestSlot? past address key).getD (world.slot address key)) ∧
    (∀ past frame address key value future,
      Transaction.history host machine =
        past ++ ⟨frame, .transientRead address key value⟩ :: future →
      value = (latestTransient? past address key).getD .zero) ∧
    (∀ report final, Transaction.execute host machine = .ok report final →
      report.verdict = .success →
      report.logs = survivingLogs (Transaction.history host machine)) := by
  have truthful := Transaction.truthful_history plain hooks booted
  refine ⟨?_, ?_, ?_, ?_⟩
  · intro visited enter signal after visits done deals
    obtain ⟨deed, told⟩ := Instruction.exists_deed_of_execute deals done
    obtain ⟨frame, member⟩ := Transaction.mem_history_of_visits visits done told
    exact ⟨frame, deed, told, member⟩
  · intro past frame address key value future split
    rw [split] at truthful
    have shown : value = (world.holdings.recalled past).slots address key := truthful.confirms
    rw [shown, Holdings.slots_recalled]
    rfl
  · intro past frame address key value future split
    rw [split] at truthful
    have shown : value = (world.holdings.recalled past).transient address key := truthful.confirms
    rw [shown, Holdings.transient_recalled]
    rfl
  · intro report final done succeeds
    exact Transaction.logs_of_success plain hooks booted done succeeds

/-- A contract that writes a slot, has another one write it anew, log and revert in its name, and
then reads the slot and logs. -/
def undoingWorld : World :=
  ((World.empty.setCode (.ofNat 1000)
      ⟨#[0x60, 1, 0x5f, 0x55, 0x5f, 0x5f, 0x5f, 0x5f, 0x61, 0x07, 0xd0, 0x61, 0xff, 0xff, 0xf4,
        0x5f, 0x54, 0x5f, 0x5f, 0xa0, 0]⟩).setCode (.ofNat 2000)
      ⟨#[0x60, 2, 0x5f, 0x55, 0x5f, 0x5f, 0xa0, 0x5f, 0x5f, 0xfd]⟩).setBalance .zero (.ofLimb 10)

def undoingHost : Host :=
  .standard .blank ⟨.zero, .account (.ofNat 1000), .zero, ByteArray.empty, 200000, []⟩ .standard

def undoneFrame : FrameName := [1099512027766]

def emptyLog : Log := ⟨.ofNat 1000, [], ByteArray.empty⟩

/-- What has happened once the frame that reverts has been left. -/
def undoneDeeds : List Happening :=
  [⟨[], .slotWritten (.ofNat 1000) .zero (.ofLimb 1)⟩,
    ⟨undoneFrame, .slotWritten (.ofNat 1000) .zero (.ofLimb 2)⟩,
    ⟨undoneFrame, .logged emptyLog⟩, ⟨undoneFrame, .left false⟩]

theorem reverted_write_is_not_read :
    ∃ machine report final, Transaction.boot undoingHost undoingWorld default = .ok machine ∧
      Transaction.execute undoingHost machine = .ok report final ∧
      Transaction.history undoingHost machine = undoneDeeds ++
        [⟨[], .slotRead (.ofNat 1000) .zero (.ofLimb 1)⟩, ⟨[], .logged emptyLog⟩,
          ⟨[], .left true⟩] ∧
      (latestSlot? undoneDeeds (.ofNat 1000) .zero).getD (undoingWorld.slot (.ofNat 1000) .zero) =
        .ofLimb 1 ∧
      report.logs = [emptyLog] := by
  obtain ⟨shown, told⟩ : Transaction.verdict? undoingHost undoingWorld = some .success ∧
      (Transaction.boot undoingHost undoingWorld default).map
        (Transaction.history undoingHost) = .ok (undoneDeeds ++
          [⟨[], .slotRead (.ofNat 1000) .zero (.ofLimb 1)⟩, ⟨[], .logged emptyLog⟩,
            ⟨[], .left true⟩]) := by
    decide +kernel
  obtain ⟨machine, report, final, booted, done, verdict⟩ := Transaction.verdict?_eq_some shown
  rw [booted] at told
  have history := Except.ok.inj told
  obtain ⟨_, slots, _, logs⟩ := reads_see_surviving_writes undoingHost ⟨rfl, rfl⟩ rfl undoingWorld
    default machine booted
  refine ⟨machine, report, final, booted, done, history, (slots _ _ _ _ _ _ history).symm, ?_⟩
  rw [logs report final done verdict, history]
  decide

end CancunMachine
