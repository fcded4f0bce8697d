import Mathlib.Tactic
import CancunMachine.Proofs.Refund.Course

/-!
# Refunds are never owed

The refund counter of a message covers the slots that the message has cleared: a write that gives a
cleared slot a value again takes back no more than the clearing has earned, also when the frames in
which this happens fail one by one. So the counter is never negative.
-/

namespace CancunMachine

open Ending

/-- Before anything has been written, no slot is cleared. -/
theorem World.clearedSlots_of_fresh {world : World} (fresh : world.initials = .empty) :
    world.clearedSlots = ∅ := by
  refine Set.eq_empty_of_forall_notMem fun slot cleared => ?_
  obtain ⟨had, none⟩ := cleared
  have same : world.initialSlot slot.1 slot.2 = world.slot slot.1 slot.2 := by
    rw [initialSlot, fresh]
    rfl
  exact had (same.trans none)

namespace Transaction

variable {host : Host} {world : World} {cache : Cache} {machine ready : Machine} {writes : Nat}

theorem withstands_of_boot (fresh : world.initials = .empty)
    (few : 20000 * writes < 2 ^ 63) (booted : boot host world cache = .ok machine) :
    machine.Withstands writes := by
  have begins := boot_eq_ok booted
  have none : machine.world.clearedSlots = ∅ := by
    rw [begins.world]
    exact World.clearedSlots_of_fresh fresh
  have refund : machine.substate.refund = 0 := by
    rw [begins.substate]
    rfl
  refine ⟨⟨?_, ?_⟩, ?_⟩
  · rw [none]
    exact Set.finite_empty
  · rw [none, Set.ncard_empty, refund]
    rfl
  · rw [refund]
    omega

theorem withstands_of_prepare {hook : Hook} (done : prepare host hook machine = .ok () ready)
    (withstands : machine.Withstands writes) : ready.Withstands writes := by
  cases hook with
  | settlement =>
      obtain ⟨warmth, rfl⟩ := (prepareSettlement_eq_ok done).counted
      have follows := machine.world.follows_setNonce host.message.caller
        (machine.world.nonce host.message.caller + 1)
      exact withstands.of_shown (aside_shownTally.header fun _ => rfl) follows.initialSlots
  | recorder =>
      cases done
      exact withstands.of_shown rfl rfl

/-- No collaborator writes to slots before the message runs. -/
theorem withstands_of_prepareAll (done : prepareAll host machine = .ok () ready)
    (withstands : machine.Withstands writes) : ready.Withstands writes := by
  unfold prepareAll at done
  generalize host.hooks = hooks at done
  induction hooks generalizing machine with
  | nil =>
      cases done
      exact withstands
  | cons hook hooks inductionHypothesis =>
      obtain ⟨_, middle, first, rest⟩ := bind_eq_ok.mp done
      exact inductionHypothesis (withstands_of_prepare first withstands) rest

/-- The writes of a message are those of its outermost frame. -/
theorem withstands_of_history (booted : boot host world cache = .ok machine)
    (fresh : world.initials = .empty) (prepares : prepareAll host machine = .ok () ready)
    (few : 20000 * slotWrites (history host machine) < 2 ^ 63) :
    ready.Withstands (slotWrites (Interpreter.frameHistory host []
      (Interpreter.wholeHistory host) (Interpreter.runInstructions host) (payment host ready)
      ready) + 0) := by
  rw [history_of_prepareAll prepares] at few
  exact withstands_of_prepareAll prepares (withstands_of_boot fresh few booted)

theorem refundsClearing_of_visits (plain : host.Plain) (cancun : host.schedule = .cancun)
    (booted : boot host world cache = .ok machine) (fresh : world.initials = .empty)
    (few : 20000 * slotWrites (history host machine) < 2 ^ 63) {visited : Machine}
    (visits : Visits host machine visited) : visited.RefundsClearing := by
  obtain ⟨started, first, visits⟩ := visits
  obtain ⟨ready, prepares, starts⟩ := firstFetch?_eq_some first
  have withstands := withstands_of_history booted fresh prepares few
  have begun := Interpreter.withstands_below withstands starts
  unfold Interpreter.wholeHistory at begun
  exact visits.refundsClearing plain cancun begun

theorem refundsClearing_of_exits (plain : host.Plain) (cancun : host.schedule = .cancun)
    (booted : boot host world cache = .ok machine) (fresh : world.initials = .empty)
    (few : 20000 * slotWrites (history host machine) < 2 ^ 63) {closed : Machine}
    (exits : Exits host machine closed) : closed.RefundsClearing := by
  rcases exits with ⟨ready, outcome, prepares, ran⟩ | ⟨started, first, exits⟩
  · have withstands := withstands_of_history booted fresh prepares few
    refine (Interpreter.withstands_of_runFrame plain (Interpreter.concludes_runInstructions plain)
      ?_ ran withstands).refunds
    intro started ended done succeeds begun
    rw [Interpreter.runInstructions_apply] at done
    unfold Interpreter.wholeHistory at begun
    exact Interpreter.withstands_of_run plain cancun done succeeds begun
  · obtain ⟨ready, prepares, starts⟩ := firstFetch?_eq_some first
    have withstands := withstands_of_history booted fresh prepares few
    have begun := Interpreter.withstands_below withstands starts
    unfold Interpreter.wholeHistory at begun
    exact exits.refundsClearing plain cancun begun

end Transaction

/-- In a message that writes to slots fewer than 2^63 / 20000 times, at every instruction and at
the exit of every frame, the refund counter is at least 4800 for each slot that had a value at the
start of the message and has none now, and so it is never negative. -/
theorem refunds_cover_cleared_slots (host : Host) (plain : host.Plain)
    (cancun : host.schedule = .cancun) (world : World) (fresh : world.initials = .empty)
    (cache : Cache) (machine : Machine)
    (booted : Transaction.boot host world cache = .ok machine)
    (few : 20000 * slotWrites (Transaction.history host machine) < 2 ^ 63) :
    (∀ visited, Transaction.Visits host machine visited →
      visited.RefundsClearing ∧ 0 ≤ visited.substate.refund) ∧
    ∀ closed, Transaction.Exits host machine closed →
      closed.RefundsClearing ∧ 0 ≤ closed.substate.refund := by
  constructor
  · intro visited visits
    have refunds := Transaction.refundsClearing_of_visits plain cancun booted fresh few visits
    exact ⟨refunds, refunds.nonnegative⟩
  · intro closed exits
    have refunds := Transaction.refundsClearing_of_exits plain cancun booted fresh few exits
    exact ⟨refunds, refunds.nonnegative⟩

/-- A contract that clears a slot and has another one give it a value again in its name, which
takes the refund back, and revert. -/
def relapsingWorld : World :=
  ((World.empty.setAccount (.ofNat 1000) {
    balance := .ofLimb 5
    nonce := 1
    code := ⟨#[0x5f, 0x60, 1, 0x55, 0x5f, 0x5f, 0x5f, 0x5f, 0x61, 0x07, 0xd0, 0x61, 0xff, 0xff,
      0xf4, 0]⟩
    storage := Table.empty.insert (.ofLimb 1) (.ofLimb 5) }).setCode (.ofNat 2000)
      ⟨#[0x60, 7, 0x60, 1, 0x55, 0x5f, 0x5f, 0xfd]⟩).setBalance .zero (.ofLimb 10)

def relapsingHost : Host :=
  .standard .blank ⟨.zero, .account (.ofNat 1000), .zero, ByteArray.empty, 200000, []⟩ .standard

/-- The way to the frame of the other contract after its write. -/
def relapsing : List Turn := List.replicate 9 .past ++ [.inside, .past, .past, .past]

theorem relapse_is_covered :
    ∃ machine visited later ended, Transaction.boot relapsingHost relapsingWorld default =
        .ok machine ∧ slotWrites (Transaction.history relapsingHost machine) = 2 ∧
      Transaction.Visits relapsingHost machine visited ∧ visited.substate.refund = 0 ∧
      visited.RefundsClearing ∧
      Transaction.Visits relapsingHost machine later ∧ later.substate.refund = 4800 ∧
      later.RefundsClearing ∧
      Transaction.Exits relapsingHost machine ended ∧ ended.RefundsClearing := by
  -- one evaluation for all four, which share what they evaluate
  obtain ⟨inner, outer, told, shown⟩ :
      (Transaction.moment? relapsingHost relapsingWorld relapsing).map
          (fun moments => moments.2.substate.refund) = some 0 ∧
        (Transaction.moment? relapsingHost relapsingWorld (List.replicate 10 .past)).map
          (fun moments => moments.2.substate.refund) = some 4800 ∧
        (Transaction.boot relapsingHost relapsingWorld default).map
          (fun machine => slotWrites (Transaction.history relapsingHost machine)) = .ok 2 ∧
        Transaction.verdict? relapsingHost relapsingWorld = some .success := by
    decide +kernel
  obtain ⟨machine, report, final, booted, done, _⟩ := Transaction.verdict?_eq_some shown
  obtain ⟨ready, ended, outcome, settles⟩ := Transaction.execute_eq_ok rfl done
  obtain ⟨_, visited, boots, visits, undone⟩ :=
    Transaction.moment?_shows (·.substate.refund) (by decide) inner
  rw [booted] at boots told
  cases boots
  obtain ⟨_, later, boots, visitsLater, earned⟩ :=
    Transaction.moment?_shows (·.substate.refund) (by decide) outer
  rw [booted] at boots
  cases boots
  have twice : slotWrites (Transaction.history relapsingHost machine) = 2 := Except.ok.inj told
  obtain ⟨moments, exits⟩ := refunds_cover_cleared_slots relapsingHost ⟨rfl, rfl⟩ rfl
    relapsingWorld rfl default machine booted (by rw [twice]; decide)
  have left : Transaction.Exits relapsingHost machine ended := .inl ⟨ready, outcome,
    by rw [Transaction.prepareAll_of_hooks rfl]; exact settles.prepares, settles.runs⟩
  exact ⟨machine, visited, later, ended, booted, twice, visits, undone, (moments _ visits).1,
    visitsLater, earned, (moments _ visitsLater).1, left, (exits _ left).1⟩

end CancunMachine
