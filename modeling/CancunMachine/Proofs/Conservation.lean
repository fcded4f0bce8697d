import Mathlib.Tactic
import CancunMachine.Proofs.Evolution.Lasting
import CancunMachine.Proofs.World.Seen
import CancunMachine.Proofs.World.Supply

/-!
# Ether is conserved

Value moves between accounts and is never made. It is lost only with an account that destroys
itself, and such an account is listed in the substate. So the supply falls at most, and as long as
the list is empty it stays the same, whatever is taken back on the way.
-/

namespace CancunMachine

/-- No value was made, and none was lost unless an account was listed for destruction. -/
structure Machine.Conserves (machine next : Machine) : Prop where
  supply_le : next.world.supply ≤ machine.world.supply
  exact : (∀ address, next.substate.isDestroyed address = false) →
    (∀ address, machine.substate.isDestroyed address = false) ∧
      next.world.supply = machine.world.supply

variable {host : Host} {entered : Invocation → Prop} {transfer : Transfer} {outcome : Outcome}

theorem Machine.conserves_of_supply {machine next : Machine}
    (supply : next.world.supply = machine.world.supply)
    (marks : ∀ address, next.substate.isDestroyed address =
      machine.substate.isDestroyed address) : machine.Conserves next where
  supply_le := le_of_eq supply
  exact := fun none => ⟨fun address => (marks address).symm.trans (none address), supply⟩

theorem Machine.conserves_of_balance {machine next : Machine}
    (balance : ∀ address, next.world.balance address = machine.world.balance address)
    (marks : ∀ address, next.substate.isDestroyed address =
      machine.substate.isDestroyed address) : machine.Conserves next :=
  conserves_of_supply (World.supply_of_balance balance) marks

theorem Machine.Conserves.trans {first second third : Machine} (earlier : first.Conserves second)
    (later : second.Conserves third) : first.Conserves third where
  supply_le := le_trans later.supply_le earlier.supply_le
  exact := by
    intro none
    obtain ⟨noneBefore, sameLater⟩ := later.exact none
    obtain ⟨noneFirst, sameEarlier⟩ := earlier.exact noneBefore
    exact ⟨noneFirst, sameLater.trans sameEarlier⟩

theorem Act.conserves {machine final : Machine} (act : Act host machine final) :
    machine.Conserves final := by
  cases act with
  | compute | warm | report | cache | pool =>
      exact Machine.conserves_of_balance (fun _ => rfl) fun _ => rfl
  | writeSlot key value =>
      exact Machine.conserves_of_balance (fun other => World.balance_setSlot _ _ other key value)
        fun _ => rfl
  | writeTransient key value =>
      exact Machine.conserves_of_balance (fun _ => rfl)
        (machine.substate.sameMarks_setTransient _ key value).isDestroyed
  | refund change =>
      exact Machine.conserves_of_balance (fun _ => rfl)
        (machine.substate.sameMarks_setRefund _).isDestroyed
  | log log =>
      exact Machine.conserves_of_balance (fun _ => rfl)
        (machine.substate.sameMarks_addLog log).isDestroyed
  | raiseNonce =>
      exact Machine.conserves_of_balance (fun other => World.balance_setNonce _ _ other _)
        fun _ => rfl
  | bequeath _ _ _ moves =>
      exact Machine.conserves_of_supply (World.supply_of_moves moves) fun _ => rfl
  | destroy =>
      constructor
      case supply_le =>
        apply World.supply_le_of_balance
        intro other
        rw [World.balance_setBalance]
        split
        · exact Nat.zero_le _
        · exact le_refl _
      case exact =>
        intro none
        have listed := none machine.frame.invocation.recipient
        rw [Substate.isDestroyed_addDestroyed] at listed
        simp at listed
  | deposit code =>
      exact Machine.conserves_of_balance (fun other => World.balance_setCode _ _ other code)
        fun _ => rfl

theorem Starts.conserves {machine started : Machine}
    (starts : Starts host transfer machine started) : machine.Conserves started := by
  cases starts with
  | refused => exact Machine.conserves_of_balance (fun _ => rfl) fun _ => rfl
  | called world _ moves =>
      exact Machine.conserves_of_supply (World.supply_of_moves moves) fun _ => rfl
  | created world _ _ moves =>
      refine Machine.conserves_of_supply ?_
        fun address => machine.substate.isDestroyed_addCreated _ address
      rw [World.supply_of_moves moves]
      exact World.supply_of_balance fun other => World.balance_setNonce _ _ other 1

/-- Opening a frame and keeping what it did move no value. -/
theorem Machine.conserves_opened (host : Host) (machine : Machine) :
    machine.Conserves (machine.opened host) :=
  conserves_of_balance (fun _ => rfl) machine.substate.sameMarks_pushBackup.isDestroyed

theorem Closes.conserves {ended closed : Machine} (closes : Closes host outcome ended closed)
    (succeeds : outcome.isSuccess = true) : ended.Conserves closed := by
  obtain ⟨commits, merged⟩ := closes.of_success succeeds
  refine Machine.conserves_of_balance
    (World.looksLike_of_view (World.view_of_commit commits)).balance ?_
  rw [merged]
  exact ended.substate.sameMarks_commitBackup.isDestroyed

theorem Machine.Restored.conserves {machine next : Machine} (restored : machine.Restored next) :
    machine.Conserves next := by
  refine Machine.conserves_of_balance
    (World.looksLike_of_view restored.world.view).balance fun address => ?_
  rw [restored.substate]

/-- Whatever a frame and its children do, value is conserved. -/
theorem Lasting.conserves {machine final : Machine} (lasts : Lasting host entered machine final) :
    machine.Conserves final := by
  induction lasts with
  | refl => exact Machine.conserves_of_balance (fun _ => rfl) fun _ => rfl
  | act _ acted inductionHypothesis => exact inductionHypothesis.trans acted.conserves
  | @kept _ middle started ended closed entry _ _ _ _ begins _ succeeds closes before within =>
      have opened := (middle.entering entry.child).conserves_opened host
      have around := ((opened.trans begins.starts.conserves).trans within).trans
        (closes.conserves succeeds)
      -- Entering and resuming move frames only.
      exact before.trans ⟨around.supply_le, around.exact⟩
  | undone _ restored inductionHypothesis =>
      have around := restored.conserves
      exact inductionHypothesis.trans ⟨around.supply_le, around.exact⟩

theorem FrameLasts.conserves {machine final : Machine}
    (lasts : FrameLasts host entered transfer machine outcome final) :
    machine.Conserves final := by
  cases lasts with
  | intro begins within succeeds closes =>
      exact (((machine.conserves_opened host).trans begins.starts.conserves).trans
        within.conserves).trans (closes.conserves succeeds)

theorem World.supply_foldl_destroy_le (addresses : List Address) (world : World) :
    (addresses.foldl destroy world).supply ≤ world.supply := by
  apply supply_le_of_balance
  intro other
  rw [World.balance, account?_foldl_destroy]
  split
  · exact Nat.zero_le _
  · exact le_refl _

namespace Transaction

theorem supply_prepared {machine ready : Machine} (prepared : Prepared host machine ready) :
    ready.world.supply = machine.world.supply := by
  obtain ⟨warmth, rfl⟩ := prepared.counted
  exact World.supply_of_balance fun other => World.balance_setNonce _ _ other _

theorem supply_destroyedWorld (outcome : Outcome) (ended : Machine) :
    (destroyedWorld outcome ended).supply ≤ ended.world.supply ∧
      (outcome.isSuccess = false ∨ ended.substate.destroyedAddresses = [] →
        (destroyedWorld outcome ended).supply = ended.world.supply) := by
  unfold destroyedWorld
  cases outcome.isSuccess with
  | false => exact ⟨le_refl _, fun _ => rfl⟩
  | true =>
      refine ⟨World.supply_foldl_destroy_le _ _, ?_⟩
      rintro (impossible | none)
      · cases impossible
      · rw [none]
        rfl

end Transaction

/-- Ether is conserved: executing a message makes none, and loses none unless it succeeds and has
destroyed an account. -/
theorem ether_is_conserved (host : Host) (plain : host.Plain)
    (hooks : host.hooks = [.settlement]) (machine final : Machine) (report : Report)
    (done : Transaction.execute host machine = .ok report final) :
    final.world.supply ≤ machine.world.supply ∧
      (report.verdict ≠ .success ∨ final.substate.destroyedAddresses = [] →
        final.world.supply = machine.world.supply) := by
  obtain ⟨ready, ended, outcome, settles⟩ := Transaction.execute_eq_ok hooks done
  have before := Transaction.supply_prepared (Transaction.prepareSettlement_eq_ok settles.prepares)
  obtain ⟨less, same⟩ := Transaction.supply_destroyedWorld outcome ended
  have after : final.world.supply = (Transaction.destroyedWorld outcome ended).supply := by
    rw [settles.world]
    rfl
  rw [after, ← before]
  rcases settles.lasts plain hooks (fun _ => True) fun _ _ => trivial with
    ⟨failed, restored⟩ | ⟨succeeds, lasts⟩
  · have undone := World.supply_of_balance (World.looksLike_of_view restored.world.view).balance
    have exact := (same (.inl failed)).trans undone
    exact ⟨le_of_eq exact, fun _ => exact⟩
  · have conserves := lasts.conserves
    refine ⟨le_trans less conserves.supply_le, ?_⟩
    rintro (failed | none)
    · rw [settles.verdict] at failed
      exact absurd (outcome.verdict_of_isSuccess succeeds) failed
    · have unlisted : ended.substate.destroyedAddresses = [] := by
        rw [Substate.destroyedAddresses_eq_nil] at none ⊢
        intro address
        rw [← none address, settles.substate]
        exact ((ended.substate.sameMarks_setRefund _).isDestroyed address).symm
      exact (same (.inr unlisted)).trans
        (conserves.exact ((Substate.destroyedAddresses_eq_nil _).mp unlisted)).2

/-- A contract that pays two units to one account and bequeaths the rest to another. -/
def givingWorld : World :=
  ((World.empty.setCode (.ofNat 1000)
    ⟨#[0x60, 0, 0x60, 0, 0x60, 0, 0x60, 0, 0x60, 2, 0x61, 0x07, 0xd0, 0x61, 0xff, 0xff, 0xf1,
      0x61, 0x0b, 0xb8, 0xff]⟩).setBalance (.ofNat 1000) (.ofLimb 5)).setBalance .zero (.ofLimb 10)

def givingHost : Host :=
  .standard .blank ⟨.zero, .account (.ofNat 1000), .ofLimb 3, ByteArray.empty, 200000, []⟩ .standard

theorem giving_contract_conserves_ether :
    ∃ machine report final, Transaction.boot givingHost givingWorld default = .ok machine ∧
      Transaction.execute givingHost machine = .ok report final ∧ report.verdict = .success ∧
      final.world.balance (.ofNat 2000) = .ofLimb 2 ∧
      final.world.balance (.ofNat 3000) = .ofLimb 6 ∧
      final.world.supply = 15 := by
  have shown : Transaction.shown? givingHost givingWorld (fun report final =>
      (report.verdict, final.world.balance (.ofNat 2000), final.world.balance (.ofNat 3000),
        final.substate.layers.flatMap (·.destroyed))) =
      some (.success, .ofLimb 2, .ofLimb 6, []) := by decide +kernel
  obtain ⟨machine, report, final, booted, done, answer⟩ := Transaction.shown?_eq_some shown
  simp only [Prod.mk.injEq] at answer
  obtain ⟨verdict, paid, inherited, none⟩ := answer
  have unlisted : final.substate.destroyedAddresses = [] :=
    Address.sortedDistinct_eq_nil.mpr none
  have conserved := (ether_is_conserved givingHost ⟨rfl, rfl⟩ rfl machine final report done).2
    (.inr unlisted)
  refine ⟨machine, report, final, booted, done, verdict, paid, inherited, ?_⟩
  rw [conserved, (Transaction.boot_eq_ok booted).world]
  decide +kernel

end CancunMachine
