import Mathlib.Tactic
import CancunMachine.Proofs.Evolution.Lasting
import CancunMachine.Proofs.World.Seen
import CancunMachine.Proofs.Word.Arithmetic

/-!
# Accounts act in their own frames only

A frame writes the account it acts on and pays from that account; other accounts can only receive.
So an account in whose name no frame runs keeps its storage, nonce and code, whatever code the
frames run and whoever they say has sent them.
-/

namespace CancunMachine

/-- Nothing was taken from the account at an address, and nothing of it was changed. -/
structure World.Spares (address : Address) (world next : World) : Prop where
  isPresent : world.isPresent address = true → next.isPresent address = true
  nonce : next.nonce address = world.nonce address
  code : next.code address = world.code address
  codeHash : next.codeHash address = world.codeHash address
  slot : ∀ key, next.slot address key = world.slot address key
  balance_le : (world.balance address).toNat ≤ (next.balance address).toNat

/-- The account at an address is spared, and nothing is listed or logged in its name. -/
structure Machine.Spares (address : Address) (machine next : Machine) : Prop where
  world : machine.world.Spares address next.world
  isDestroyed : next.substate.isDestroyed address = true →
    machine.substate.isDestroyed address = true
  logs : ∀ log ∈ next.substate.logs, log.address = address → log ∈ machine.substate.logs

variable {host : Host} {transfer : Transfer} {outcome : Outcome} {address : Address}

namespace World

theorem Spares.refl (address : Address) (world : World) : world.Spares address world :=
  ⟨id, rfl, rfl, rfl, fun _ => rfl, le_refl _⟩

theorem Spares.trans {first second third : World} (earlier : first.Spares address second)
    (later : second.Spares address third) : first.Spares address third where
  isPresent := later.isPresent ∘ earlier.isPresent
  nonce := later.nonce.trans earlier.nonce
  code := later.code.trans earlier.code
  codeHash := later.codeHash.trans earlier.codeHash
  slot := fun key => (later.slot key).trans (earlier.slot key)
  balance_le := le_trans earlier.balance_le later.balance_le

theorem spares_of_seen {world next : World}
    (isPresent : world.isPresent address = true → next.isPresent address = true)
    (same : next.seen address = world.seen address) : world.Spares address next where
  isPresent := isPresent
  nonce := congrArg Account.View.nonce same
  code := congrArg Account.View.code same
  codeHash := congrArg Account.View.codeHash same
  slot := fun key => congrFun (congrArg Account.View.slots same) key
  balance_le := le_of_eq (congrArg (fun view => view.balance.toNat) same).symm

theorem spares_of_view {world next : World} (same : next.view = world.view) :
    world.Spares address next := by
  refine spares_of_seen ?_ (congrFun (seen_of_view same) address)
  rw [isPresent_of_view same]
  exact id

/-- A write of one account spares every other. -/
theorem spares_of_update {world next : World} {other : Address} {view : Account.View}
    {present : Bool} (different : other ≠ address)
    (seen : next.seen = Function.update world.seen other view)
    (isPresent : next.isPresent = Function.update world.isPresent other present) :
    world.Spares address next := by
  refine spares_of_seen ?_ ?_
  · rw [isPresent, Function.update_of_ne different.symm]
    exact id
  · rw [seen, Function.update_of_ne different.symm]

theorem spares_updateHeader (world : World) {other : Address} (different : other ≠ address)
    (change : Account → Account) : world.Spares address (world.updateHeader other change) :=
  spares_of_update different (seen_updateHeader _ _ _) (isPresent_updateHeader _ _ _)

theorem spares_setNonce (world : World) {other : Address} (different : other ≠ address)
    (nonce : UInt64) : world.Spares address (world.setNonce other nonce) :=
  world.spares_updateHeader different _

theorem spares_setBalance (world : World) {other : Address} (different : other ≠ address)
    (balance : Word) : world.Spares address (world.setBalance other balance) :=
  world.spares_updateHeader different _

theorem spares_setCode (world : World) {other : Address} (different : other ≠ address)
    (code : ByteArray) : world.Spares address (world.setCode other code) :=
  world.spares_updateHeader different _

theorem spares_foldl_destroy {addresses : List Address} (unlisted : address ∉ addresses)
    (world : World) : world.Spares address (addresses.foldl destroy world) := by
  have same : (addresses.foldl destroy world).account? address = world.account? address := by
    rw [account?_foldl_destroy, if_neg unlisted]
  refine spares_of_seen ?_ ?_
  · rw [isPresent, isPresent, same]
    exact id
  · rw [seen, seen, same]

/-- Who does not pay has no less after a transfer. -/
theorem balance_le_of_moves {source target : Address} {value : Word} {world final : World}
    (different : source ≠ address) (moves : Moves source target value world final) :
    (world.balance address).toNat ≤ (final.balance address).toNat := by
  cases moves with
  | nothing => exact le_refl _
  | something _ _ fits =>
      have debited := balance_setBalance world source address
        ((world.balance source).sub value)
      rw [if_neg different.symm] at debited
      rw [moved, balance_setBalance]
      split
      · rename_i same
        have credited := Word.toNat_add_of_lt_eq_false fits
        rw [same] at debited ⊢
        rw [credited, debited]
        omega
      · rw [debited]

/-- A transfer spares everyone but its source. -/
theorem spares_of_moves {source target : Address} {value : Word} {world final : World}
    (pays : source ≠ address ∨ value.isZero = true)
    (moves : Moves source target value world final) : world.Spares address final := by
  rcases pays with different | zero
  · obtain ⟨seen, stays⟩ := seen_of_moves moves address
    exact ⟨stays, congrArg Account.View.nonce seen, congrArg Account.View.code seen,
      congrArg Account.View.codeHash seen,
      fun key => congrFun (congrArg Account.View.slots seen) key,
      balance_le_of_moves different moves⟩
  · cases moves with
    | nothing => exact .refl address world
    | something nonzero =>
        rw [zero] at nonzero
        cases nonzero

end World

namespace Machine

theorem Spares.trans {first second third : Machine} (earlier : first.Spares address second)
    (later : second.Spares address third) : first.Spares address third where
  world := earlier.world.trans later.world
  isDestroyed := earlier.isDestroyed ∘ later.isDestroyed
  logs := fun log member same => earlier.logs log (later.logs log member same) same

theorem spares_of_marks {machine next : Machine}
    (world : machine.world.Spares address next.world)
    (marks : machine.substate.SameMarks next.substate)
    (logs : next.substate.logs = machine.substate.logs) : machine.Spares address next where
  world := world
  isDestroyed := by
    rw [marks.isDestroyed]
    exact id
  logs := by
    intro log member _
    rwa [logs] at member

theorem spares_of_world {machine next : Machine}
    (world : machine.world.Spares address next.world)
    (same : next.substate = machine.substate) : machine.Spares address next :=
  spares_of_marks world (by rw [same]; exact .refl _) (by rw [same])

/-- Opening a frame does nothing to any account. -/
theorem spares_opened (host : Host) (address : Address) (machine : Machine) :
    machine.Spares address (machine.opened host) :=
  spares_of_marks (World.spares_of_view rfl) machine.substate.sameMarks_pushBackup
    machine.substate.logs_pushBackup

theorem Restored.spares {machine next : Machine} (restored : machine.Restored next) :
    machine.Spares address next :=
  spares_of_world (World.spares_of_view restored.world.view) restored.substate

end Machine

/-- The acts of a frame spare all accounts but the one it acts on. -/
theorem Act.spares {machine final : Machine}
    (elsewhere : machine.frame.invocation.recipient ≠ address) (act : Act host machine final) :
    machine.Spares address final := by
  cases act with
  | compute | warm | report | cache | pool =>
      exact Machine.spares_of_world (.refl address _) rfl
  | writeSlot key value =>
      obtain ⟨seen, isPresent⟩ :=
        machine.world.seen_setSlot machine.frame.invocation.recipient key value
      exact Machine.spares_of_world (World.spares_of_update elsewhere seen isPresent) rfl
  | writeTransient key value =>
      exact Machine.spares_of_marks (.refl address _)
        (machine.substate.sameMarks_setTransient _ key value)
        (machine.substate.logs_setTransient _ key value)
  | refund change =>
      exact Machine.spares_of_marks (.refl address _) (machine.substate.sameMarks_setRefund _)
        (machine.substate.logs_setRefund _)
  | log log _ own =>
      refine ⟨.refl address _, ?_, ?_⟩
      · rw [(machine.substate.sameMarks_addLog log).isDestroyed]
        exact id
      · intro shown member same
        rw [Substate.logs_addLog, List.mem_append, List.mem_singleton] at member
        rcases member with older | rfl
        · exact older
        · exact absurd (own.symm.trans same) elsewhere
  | raiseNonce =>
      exact Machine.spares_of_world (machine.world.spares_setNonce elsewhere _) rfl
  | bequeath _ _ _ moves =>
      exact Machine.spares_of_world (World.spares_of_moves (.inl elsewhere) moves) rfl
  | destroy =>
      refine ⟨machine.world.spares_setBalance elsewhere _, ?_, ?_⟩
      · rw [Substate.isDestroyed_addDestroyed, decide_eq_false elsewhere.symm, Bool.or_false]
        exact id
      · rw [Substate.logs_addDestroyed]
        exact fun _ member _ => member
  | deposit code =>
      exact Machine.spares_of_world (machine.world.spares_setCode elsewhere code) rfl

theorem Starts.spares {machine started : Machine}
    (elsewhere : machine.frame.invocation.recipient ≠ address)
    (pays : transfer.source ≠ address ∨ transfer.value.isZero = true)
    (starts : Starts host transfer machine started) : machine.Spares address started := by
  cases starts with
  | refused => exact Machine.spares_of_world (.refl address _) rfl
  | called world _ moves => exact Machine.spares_of_world (World.spares_of_moves pays moves) rfl
  | created world _ _ moves =>
      have claimed := machine.world.spares_setNonce elsewhere 1
      refine ⟨claimed.trans (World.spares_of_moves pays moves), ?_, ?_⟩
      · rw [Substate.isDestroyed_addCreated]
        exact id
      · rw [Substate.logs_addCreated]
        exact fun _ member _ => member

theorem Closes.spares {ended closed : Machine} (address : Address)
    (closes : Closes host outcome ended closed) (succeeds : outcome.isSuccess = true) :
    ended.Spares address closed := by
  obtain ⟨commits, merged⟩ := closes.of_success succeeds
  have world : ended.world.Spares address closed.world :=
    World.spares_of_view (World.view_of_commit commits)
  refine Machine.spares_of_marks world ?_ ?_ <;> rw [merged]
  · exact ended.substate.sameMarks_commitBackup
  · exact ended.substate.logs_commitBackup

/-- What lasts of a frame and its children spares an account that none of them acts on. -/
theorem Lasting.spares {machine final : Machine}
    (lasts : Lasting host (fun invocation => invocation.recipient ≠ address) machine final)
    (elsewhere : machine.frame.invocation.recipient ≠ address) : machine.Spares address final := by
  induction lasts with
  | refl => exact Machine.spares_of_world (.refl address _) rfl
  | act before acted inductionHypothesis =>
      rw [← before.samePlace.context.invocation] at elsewhere
      have earlier := inductionHypothesis (before.samePlace.context.invocation ▸ elsewhere)
      exact earlier.trans (acted.spares elsewhere)
  | @kept start middle started ended closed entry outcome before legal allowed begins _ succeeds
      closes earlier within =>
      have pays : entry.transfer.source ≠ address ∨ entry.transfer.value.isZero = true := by
        rcases legal.source with own | zero
        · left
          rw [own, before.samePlace.context.invocation]
          exact elsewhere
        · exact .inr zero
      have opened := (middle.entering entry.child).spares_opened host address
      have begun := begins.starts.spares allowed pays
      have below : started.frame.invocation.recipient ≠ address := by
        rw [begins.starts.samePlace.context.invocation]
        exact allowed
      have around := ((opened.trans begun).trans (within below)).trans
        (closes.spares address succeeds)
      -- Entering and resuming move frames only.
      exact (earlier elsewhere).trans ⟨around.world, around.isDestroyed, around.logs⟩
  | undone _ restored inductionHypothesis =>
      have around : Machine.Spares address _ _ := restored.spares
      exact (inductionHypothesis elsewhere).trans
        ⟨around.world, around.isDestroyed, around.logs⟩

theorem FrameLasts.spares {machine final : Machine}
    (lasts : FrameLasts host (fun invocation => invocation.recipient ≠ address) transfer machine
      outcome final) (elsewhere : machine.frame.invocation.recipient ≠ address)
    (pays : transfer.source ≠ address) : machine.Spares address final := by
  cases lasts with
  | intro begins within succeeds closes =>
      have begun : (machine.opened host).Spares address _ :=
        begins.starts.spares elsewhere (.inl pays)
      have below := begins.starts.samePlace.context.invocation ▸ elsewhere
      exact (((machine.spares_opened host address).trans begun).trans (within.spares below)).trans
        (closes.spares address succeeds)

namespace Transaction

/-- Destroying the listed accounts spares those that are not listed. -/
theorem spares_destroyedWorld {ended : Machine}
    (unlisted : ended.substate.isDestroyed address = false) :
    ended.world.Spares address (destroyedWorld outcome ended) := by
  have notListed : address ∉ ended.substate.destroyedAddresses := by
    rw [Substate.mem_destroyedAddresses, unlisted]
    exact Bool.false_ne_true
  unfold destroyedWorld
  split
  · exact World.spares_foldl_destroy notListed ended.world
  · exact .refl address _

theorem Prepared.spares {machine ready : Machine} (prepared : Prepared host machine ready)
    (notCaller : host.message.caller ≠ address) : machine.Spares address ready := by
  obtain ⟨warmth, rfl⟩ := prepared.counted
  exact Machine.spares_of_world (machine.world.spares_setNonce notCaller _) rfl

/-- The outermost frame spares an account that neither pays for the message nor is acted on by a
frame of it. -/
theorem Settles.spares {machine ready ended final : Machine} {report : Report}
    (settles : Settles host machine ready ended outcome report final) (plain : host.Plain)
    (hooks : host.hooks = [.settlement]) (notCaller : host.message.caller ≠ address)
    (notEntered : ∀ invocation ∈ enteredFrames host machine, invocation.recipient ≠ address) :
    ready.Spares address ended := by
  rcases settles.lasts plain hooks _ notEntered with ⟨_, restored⟩ | ⟨_, lasts⟩
  · exact restored.spares
  · have elsewhere : ready.frame.invocation.recipient ≠ address := by
      obtain ⟨warmth, rfl⟩ := (prepareSettlement_eq_ok settles.prepares).counted
      exact notEntered _ List.mem_cons_self
    exact lasts.spares elsewhere notCaller

end Transaction

/-- Executing a message spares every account but that of its caller and those its frames act on. It
destroys no such account, takes nothing from it, and logs nothing in its name. -/
theorem accounts_act_in_their_own_frames (host : Host) (plain : host.Plain)
    (hooks : host.hooks = [.settlement]) (world : World) (cache : Cache) (machine final : Machine)
    (report : Report) (booted : Transaction.boot host world cache = .ok machine)
    (done : Transaction.execute host machine = .ok report final) (address : Address)
    (notCaller : host.message.caller ≠ address)
    (notEntered : ∀ invocation ∈ Transaction.enteredFrames host machine,
      invocation.recipient ≠ address) :
    world.Spares address final.world ∧ ∀ log ∈ report.logs, log.address ≠ address := by
  obtain ⟨ready, ended, outcome, settles⟩ := Transaction.execute_eq_ok hooks done
  have fresh := Transaction.boot_eq_ok booted
  have prepared := Transaction.prepareSettlement_eq_ok settles.prepares
  have spared := (prepared.spares notCaller).trans (settles.spares plain hooks notCaller notEntered)
  have unlisted : ended.substate.isDestroyed address = false := by
    rw [← Bool.not_eq_true]
    intro listed
    have before := spared.isDestroyed listed
    rw [fresh.substate] at before
    cases before
  constructor
  · rw [settles.world, ← fresh.world]
    exact (spared.world.trans (Transaction.spares_destroyedWorld unlisted)).trans
      (World.spares_of_view rfl)
  · intro log member same
    rw [settles.logs] at member
    split at member
    · have before := spared.logs log member same
      rw [fresh.substate] at before
      cases before
    · cases member

/-- A contract that runs the code of another account in its own name and then leaves it all it
has. -/
def borrowingWorld : World :=
  (((World.empty.setCode (.ofNat 1000)
    ⟨#[0x5f, 0x5f, 0x5f, 0x5f, 0x61, 0x07, 0xd0, 0x61, 0xff, 0xff, 0xf4, 0x61, 0x07, 0xd0,
      0xff]⟩).setBalance (.ofNat 1000) (.ofLimb 5)).setCode (.ofNat 2000)
    ⟨#[0x60, 7, 0x60, 1, 0x55, 0x5f, 0x5f, 0xa0]⟩).setBalance .zero (.ofLimb 10)

def borrowingHost : Host :=
  .standard .blank ⟨.zero, .account (.ofNat 1000), .zero, ByteArray.empty, 200000, []⟩ .standard

theorem lender_of_code_is_spared :
    ∃ machine report final,
      Transaction.boot borrowingHost borrowingWorld default = .ok machine ∧
      Transaction.execute borrowingHost machine = .ok report final ∧
      report.logs.map (·.address) = [.ofNat 1000] ∧
      final.world.slot (.ofNat 1000) (.ofLimb 1) = .ofLimb 7 ∧
      final.world.balance (.ofNat 2000) = .ofLimb 5 ∧
      borrowingWorld.Spares (.ofNat 2000) final.world := by
  obtain ⟨shown, recipients⟩ :
      Transaction.shown? borrowingHost borrowingWorld (fun report final =>
          (report.logs.map (·.address), final.world.slot (.ofNat 1000) (.ofLimb 1),
            final.world.balance (.ofNat 2000))) = some ([.ofNat 1000], .ofLimb 7, .ofLimb 5) ∧
        (Transaction.boot borrowingHost borrowingWorld default).toOption.map (fun machine =>
          (Transaction.enteredFrames borrowingHost machine).map (·.recipient)) =
            some [.ofNat 1000, .ofNat 1000] := by
    decide +kernel
  obtain ⟨machine, report, final, booted, done, answer⟩ := Transaction.shown?_eq_some shown
  simp only [Prod.mk.injEq] at answer
  obtain ⟨logs, slot, balance⟩ := answer
  refine ⟨machine, report, final, booted, done, logs, slot, balance, ?_⟩
  have notEntered : ∀ invocation ∈ Transaction.enteredFrames borrowingHost machine,
      invocation.recipient ≠ .ofNat 2000 := by
    rw [booted] at recipients
    have entered : (Transaction.enteredFrames borrowingHost machine).map (·.recipient) =
        [.ofNat 1000, .ofNat 1000] := Option.some.inj recipients
    intro invocation member
    have listed : invocation.recipient ∈
        (Transaction.enteredFrames borrowingHost machine).map (·.recipient) :=
      List.mem_map_of_mem member
    rw [entered, List.mem_pair, or_self] at listed
    rw [listed]
    decide +kernel
  exact (accounts_act_in_their_own_frames borrowingHost ⟨rfl, rfl⟩ rfl borrowingWorld default
    machine final report booted done (.ofNat 2000) (by decide +kernel) notEntered).1

end CancunMachine
