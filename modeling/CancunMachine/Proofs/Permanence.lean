import Mathlib.Tactic
import CancunMachine.Proofs.Evolution.Lasting
import CancunMachine.Proofs.World.Seen

/-!
# Deployed accounts are permanent

An account with code or with a nonce is deployed. A creation claims an address where nothing is
deployed; code is stored and accounts are destroyed at claimed addresses only. So what was deployed
before a message is there after it with its code, and code that is new has passed the checks made
at its deposit.
-/

namespace CancunMachine

open Ending

/-- An account that has code or has sent something. -/
def Account.IsDeployed (account : Account) : Prop := account.hasCode = true ∨ account.nonce ≠ 0

def World.IsDeployed (world : World) (address : Address) : Prop :=
  ((world.account? address).getD .empty).IsDeployed

/-- What stays of a deployed account. -/
structure Account.Persists (account next : Account) : Prop where
  code : next.code = account.code
  codeHash : next.codeHash = account.codeHash
  nonce_le : account.nonce ≤ next.nonce

/-- Code that may be stored. -/
structure Host.Accepts (host : Host) (code : ByteArray) : Prop where
  size_le : code.size ≤ host.config.maxCodeSize
  notReserved : Bytes.get code 0 ≠ 0xef

/-- Against the world `origin` only nonces have grown and only accepted code is new, and not where
something was deployed. -/
structure World.Respects (host : Host) (origin world : World) : Prop where
  nonce_le : ∀ address, origin.nonce address ≤ world.nonce address
  code : ∀ address, origin.IsDeployed address → world.code address = origin.code address
  codeHash : ∀ address, origin.IsDeployed address →
    world.codeHash address = origin.codeHash address
  accepts : ∀ address, world.code address ≠ origin.code address →
    host.Accepts (world.code address)

/-- Only addresses where nothing was deployed are claimed, and only claimed ones are listed. -/
structure Substate.Respects (origin : World) (substate : Substate) : Prop where
  claims : ∀ address, substate.isCreated address = true → ¬origin.IsDeployed address
  destroys : ∀ address, substate.isDestroyed address = true → substate.isCreated address = true

/-- What holds all along a message that began in the world `origin`. -/
structure Machine.Respects (host : Host) (origin : World) (machine : Machine) : Prop where
  world : World.Respects host origin machine.world
  substate : machine.substate.Respects origin

/-- The address of a contract in creation is claimed. -/
def Machine.HasClaim (machine : Machine) : Prop :=
  machine.frame.invocation.kind.isCreation = true →
    machine.substate.isCreated machine.frame.invocation.recipient = true

/-- Addresses that were claimed before are still claimed. -/
def Machine.KeepsClaims (machine next : Machine) : Prop :=
  ∀ address, machine.substate.isCreated address = true → next.substate.isCreated address = true

variable {host : Host} {origin : World} {entered : Invocation → Prop} {transfer : Transfer}
  {outcome : Outcome}

namespace World

/-- Whether the digest at an address is that of some code. -/
def hasCode (world : World) (address : Address) : Bool :=
  ((world.account? address).getD .empty).hasCode

/-- Codes with their digests and nonces are the same in two worlds. -/
structure SameDeployments (world next : World) : Prop where
  code : ∀ address, next.code address = world.code address
  codeHash : ∀ address, next.codeHash address = world.codeHash address
  nonce : ∀ address, next.nonce address = world.nonce address

theorem sameDeployments_of_view {world next : World} (same : next.view = world.view) :
    world.SameDeployments next :=
  ⟨(looksLike_of_view same).code, (looksLike_of_view same).codeHash,
    (looksLike_of_view same).nonce⟩

theorem sameDeployments_of_update {world next : World} {address : Address} {view : Account.View}
    (seen : next.seen = Function.update world.seen address view)
    (code : view.code = world.code address) (codeHash : view.codeHash = world.codeHash address)
    (nonce : view.nonce = world.nonce address) : world.SameDeployments next := by
  have sameAt {Alpha : Type} (part : Account.View → Alpha)
      (same : part view = part (world.seen address)) (other : Address) :
      part (next.seen other) = part (world.seen other) := by
    rw [seen, Function.update_apply]
    split
    · rename_i here
      rw [here, same]
    · rfl
  exact ⟨sameAt Account.View.code code, sameAt Account.View.codeHash codeHash,
    sameAt Account.View.nonce nonce⟩

theorem sameDeployments_setSlot (world : World) (address : Address) (key value : Word) :
    world.SameDeployments (world.setSlot address key value) :=
  sameDeployments_of_update (world.seen_setSlot address key value).1 rfl rfl rfl

theorem sameDeployments_setBalance (world : World) (address : Address) (balance : Word) :
    world.SameDeployments (world.setBalance address balance) :=
  sameDeployments_of_update (world.seen_setBalance address balance) rfl rfl rfl

theorem sameDeployments_of_moves {source target : Address} {value : Word} {world final : World}
    (moves : Moves source target value world final) : world.SameDeployments final where
  code := fun address => congrArg Account.View.code (seen_of_moves moves address).1
  codeHash := fun address => congrArg Account.View.codeHash (seen_of_moves moves address).1
  nonce := fun address => congrArg Account.View.nonce (seen_of_moves moves address).1

/-- Nothing is deployed where there is neither code nor a nonce. -/
theorem not_isDeployed_iff {world : World} {address : Address} :
    ¬world.IsDeployed address ↔ world.hasCode address = false ∧ world.nonce address = 0 := by
  unfold IsDeployed Account.IsDeployed
  rw [not_or, not_not, Bool.not_eq_true]
  rfl

theorem not_isDeployed_of_account? {world : World} {address : Address}
    (unused : ∀ account, world.account? address = some account →
      account.hasCode = false ∧ account.nonce = 0) : ¬world.IsDeployed address := by
  unfold IsDeployed Account.IsDeployed
  cases found : world.account? address with
  | none => exact not_or.mpr ⟨Bool.eq_false_iff.mp Account.hasCode_empty, not_not_intro rfl⟩
  | some account =>
      obtain ⟨noCode, noNonce⟩ := unused account found
      simp [noCode, noNonce]

theorem Respects.refl (host : Host) (origin : World) : Respects host origin origin :=
  ⟨fun _ => UInt64.le_refl _, fun _ _ => rfl, fun _ _ => rfl, fun _ differs => absurd rfl differs⟩

theorem Respects.of_same {world next : World} (respects : Respects host origin world)
    (same : world.SameDeployments next) : Respects host origin next where
  nonce_le := fun address => same.nonce address ▸ respects.nonce_le address
  code := fun address deployed => (same.code address).trans (respects.code address deployed)
  codeHash := fun address deployed =>
    (same.codeHash address).trans (respects.codeHash address deployed)
  accepts := by
    intro address
    rw [same.code]
    exact respects.accepts address

theorem Respects.setNonce {world : World} (respects : Respects host origin world)
    (address : Address) {nonce : UInt64} (raises : world.nonce address ≤ nonce) :
    Respects host origin (world.setNonce address nonce) := by
  constructor
  case nonce_le =>
    intro other
    rw [nonce_setNonce]
    split
    · rename_i here
      rw [here]
      exact UInt64.le_trans (respects.nonce_le address) raises
    · exact respects.nonce_le other
  case code =>
    intro other
    rw [code_setNonce]
    exact respects.code other
  case codeHash =>
    intro other
    rw [codeHash_setNonce]
    exact respects.codeHash other
  case accepts =>
    intro other
    rw [code_setNonce]
    exact respects.accepts other

/-- Accepted code may be stored where nothing was deployed. -/
theorem Respects.setCode {world : World} (respects : Respects host origin world)
    {address : Address} {code : ByteArray} (unused : ¬origin.IsDeployed address)
    (accepted : host.Accepts code) : Respects host origin (world.setCode address code) := by
  have elsewhere : ∀ other, origin.IsDeployed other → other ≠ address := by
    rintro other deployed rfl
    exact unused deployed
  constructor
  case nonce_le =>
    intro other
    rw [nonce_setCode]
    exact respects.nonce_le other
  case code =>
    intro other deployed
    rw [code_setCode, if_neg (elsewhere other deployed)]
    exact respects.code other deployed
  case codeHash =>
    intro other deployed
    rw [codeHash_setCode, if_neg (elsewhere other deployed)]
    exact respects.codeHash other deployed
  case accepts =>
    intro other
    rw [code_setCode]
    split
    · exact fun _ => accepted
    · exact respects.accepts other

/-- What is unused now was not deployed before. -/
theorem Respects.unused {world : World} {address : Address}
    (respects : Respects host origin world) (unused : ¬world.IsDeployed address) :
    ¬origin.IsDeployed address := by
  intro deployed
  obtain ⟨code, nonce⟩ := not_isDeployed_iff.mp unused
  refine not_isDeployed_iff.mpr ⟨?_, ?_⟩ deployed
  · exact (congrArg (· != emptyCodeHash) (respects.codeHash address deployed)).symm.trans code
  · have less := respects.nonce_le address
    rw [nonce] at less
    exact UInt64.le_zero_iff.mp less

/-- A deployed account persists. -/
theorem Respects.persists {world : World} {address : Address} {account : Account}
    (respects : Respects host origin world) (found : origin.account? address = some account)
    (deployed : origin.IsDeployed address) :
    ∃ kept, world.account? address = some kept ∧ account.Persists kept := by
  have still : world.IsDeployed address := not_imp_not.mp respects.unused deployed
  have code := respects.code address deployed
  have codeHash := respects.codeHash address deployed
  have nonce_le := respects.nonce_le address
  simp only [World.code, World.codeHash, World.nonce, found, Option.getD_some]
    at code codeHash nonce_le
  cases after : world.account? address with
  | none =>
      have unused := not_isDeployed_of_account? fun account found => by
        cases after.symm.trans found
      exact absurd still unused
  | some kept =>
      rw [after] at code codeHash nonce_le
      exact ⟨kept, rfl, code, codeHash, nonce_le⟩

end World

namespace Substate

theorem respects_empty (origin : World) : Substate.empty.Respects origin where
  claims := fun _ claimed => by cases claimed
  destroys := fun _ listed => by cases listed

theorem Respects.of_same {substate next : Substate} (respects : substate.Respects origin)
    (same : substate.SameMarks next) : next.Respects origin where
  claims := fun address claimed => respects.claims address (same.isCreated address ▸ claimed)
  destroys := by
    intro address listed
    rw [same.isDestroyed] at listed
    rw [same.isCreated]
    exact respects.destroys address listed

theorem Respects.addCreated {substate : Substate} (respects : substate.Respects origin)
    {address : Address} (unused : ¬origin.IsDeployed address) :
    (substate.addCreated address).Respects origin := by
  constructor
  case claims =>
    intro other claimed
    rw [isCreated_addCreated, Bool.or_eq_true, decide_eq_true_eq] at claimed
    rcases claimed with earlier | rfl
    · exact respects.claims other earlier
    · exact unused
  case destroys =>
    intro other listed
    rw [isDestroyed_addCreated] at listed
    rw [isCreated_addCreated, respects.destroys other listed, Bool.true_or]

theorem Respects.addDestroyed {substate : Substate} (respects : substate.Respects origin)
    {address : Address} (claimed : substate.isCreated address = true) :
    (substate.addDestroyed address).Respects origin := by
  constructor
  case claims =>
    intro other
    rw [isCreated_addDestroyed]
    exact respects.claims other
  case destroys =>
    intro other listed
    rw [isDestroyed_addDestroyed, Bool.or_eq_true, decide_eq_true_eq] at listed
    rw [isCreated_addDestroyed]
    rcases listed with earlier | rfl
    · exact respects.destroys other earlier
    · exact claimed

end Substate

theorem Host.accepts_of_deposit {code : ByteArray} (small : code.size ≤ host.config.maxCodeSize)
    (unreserved : code.isEmpty = true ∨ Bytes.get code 0 ≠ Interpreter.reservedCodeByte) :
    host.Accepts code where
  size_le := small
  notReserved := by
    rcases unreserved with isEmpty | other
    · rw [ByteArray.isEmpty, beq_iff_eq, ByteArray.size_eq_zero_iff] at isEmpty
      rw [isEmpty]
      decide
    · exact other

theorem Host.accepts_empty (host : Host) : host.Accepts ByteArray.empty :=
  accepts_of_deposit (Nat.zero_le _) (.inl rfl)

theorem le_add_one_of_ne_max {nonce : UInt64} (notFull : nonce ≠ maxUInt64) :
    nonce ≤ nonce + 1 := by
  rw [UInt64.le_iff_toNat_le, toNat_add_one_of_ne_max notFull]
  exact Nat.le_succ _

theorem Act.keepsClaims {machine final : Machine} (act : Act host machine final) :
    machine.KeepsClaims final := by
  intro address claimed
  cases act with
  | writeTransient key value =>
      exact ((machine.substate.sameMarks_setTransient _ key value).isCreated address).trans claimed
  | refund change =>
      exact ((machine.substate.sameMarks_setRefund _).isCreated address).trans claimed
  | log log => exact ((machine.substate.sameMarks_addLog log).isCreated address).trans claimed
  | destroy => exact (machine.substate.isCreated_addDestroyed _ address).trans claimed
  | _ => exact claimed

theorem Starts.keepsClaims {machine started : Machine}
    (starts : Starts host transfer machine started) : machine.KeepsClaims started := by
  intro address claimed
  cases starts with
  | refused | called => exact claimed
  | created => rw [Substate.isCreated_addCreated, claimed, Bool.true_or]

theorem Closes.keepsClaims {ended closed : Machine} (closes : Closes host outcome ended closed)
    (succeeds : outcome.isSuccess = true) : ended.KeepsClaims closed := by
  intro address claimed
  rw [(closes.of_success succeeds).2]
  exact (ended.substate.sameMarks_commitBackup.isCreated address).trans claimed

/-- A frame and its children claim addresses and give none of them up. -/
theorem Lasting.keepsClaims {machine final : Machine}
    (lasts : Lasting host entered machine final) : machine.KeepsClaims final := by
  induction lasts with
  | refl => exact fun _ => id
  | act _ acted inductionHypothesis =>
      exact fun address claimed => acted.keepsClaims address (inductionHypothesis address claimed)
  | @kept _ middle _ _ _ _ _ _ _ _ begins _ succeeds closes before within =>
      intro address claimed
      have opened := (middle.substate.sameMarks_pushBackup.isCreated address).trans
        (before address claimed)
      have begun := begins.starts.keepsClaims address opened
      exact closes.keepsClaims succeeds address (within address begun)
  | @undone _ middle closed _ _ restored inductionHypothesis =>
      intro address claimed
      have same : closed.substate = middle.substate := restored.substate
      change closed.substate.isCreated address = true
      rw [same]
      exact inductionHypothesis address claimed

theorem Lasting.hasClaim {machine final : Machine} (lasts : Lasting host entered machine final)
    (claim : machine.HasClaim) : final.HasClaim := by
  intro creation
  rw [lasts.samePlace.context.invocation] at creation ⊢
  exact lasts.keepsClaims _ (claim creation)

/-- A start that went through has claimed the address of a new contract. -/
theorem Begins.hasClaim {machine started : Machine}
    (begins : Begins host transfer machine started) : started.HasClaim := by
  intro creation
  rw [begins.starts.samePlace.context.invocation] at creation ⊢
  exact begins.claims creation

theorem Act.respects {machine final : Machine} (act : Act host machine final)
    (claim : machine.HasClaim) (respects : machine.Respects host origin) :
    final.Respects host origin := by
  obtain ⟨world, substate⟩ := respects
  cases act with
  | compute | warm | report | cache | pool => exact ⟨world, substate⟩
  | writeSlot key value =>
      exact ⟨world.of_same (machine.world.sameDeployments_setSlot _ key value), substate⟩
  | writeTransient key value =>
      exact ⟨world, substate.of_same (machine.substate.sameMarks_setTransient _ key value)⟩
  | refund change => exact ⟨world, substate.of_same (machine.substate.sameMarks_setRefund _)⟩
  | log log => exact ⟨world, substate.of_same (machine.substate.sameMarks_addLog log)⟩
  | raiseNonce _ notFull => exact ⟨world.setNonce _ (le_add_one_of_ne_max notFull), substate⟩
  | bequeath _ _ _ moves => exact ⟨world.of_same (World.sameDeployments_of_moves moves), substate⟩
  | destroy _ created =>
      exact ⟨world.of_same (machine.world.sameDeployments_setBalance _ .zero),
        substate.addDestroyed created⟩
  | deposit code creation small unreserved =>
      have unused := substate.claims _ (claim creation)
      exact ⟨world.setCode unused (Host.accepts_of_deposit small unreserved), substate⟩

theorem Starts.respects {machine started : Machine}
    (starts : Starts host transfer machine started) (respects : machine.Respects host origin) :
    started.Respects host origin := by
  obtain ⟨world, substate⟩ := respects
  cases starts with
  | refused => exact ⟨world, substate⟩
  | called _ _ moves => exact ⟨world.of_same (World.sameDeployments_of_moves moves), substate⟩
  | created _ _ free moves =>
      have unused := World.not_isDeployed_of_account? free
      have raises : machine.world.nonce machine.frame.invocation.recipient ≤ 1 := by
        rw [(World.not_isDeployed_iff.mp unused).2]
        decide
      exact ⟨(world.setNonce _ raises).of_same (World.sameDeployments_of_moves moves),
        substate.addCreated (world.unused unused)⟩

theorem Closes.respects {ended closed : Machine} (closes : Closes host outcome ended closed)
    (succeeds : outcome.isSuccess = true) (respects : ended.Respects host origin) :
    closed.Respects host origin := by
  obtain ⟨commits, merged⟩ := closes.of_success succeeds
  constructor
  · exact respects.world.of_same (World.sameDeployments_of_view (World.view_of_commit commits))
  · rw [merged]
    exact respects.substate.of_same ended.substate.sameMarks_commitBackup

theorem Machine.Respects.opened {machine : Machine} (respects : machine.Respects host origin) :
    (machine.opened host).Respects host origin where
  world := respects.world.of_same (World.sameDeployments_of_view rfl)
  substate := respects.substate.of_same machine.substate.sameMarks_pushBackup

theorem Machine.Restored.respects {machine next : Machine} (restored : machine.Restored next)
    (respects : machine.Respects host origin) : next.Respects host origin where
  world := respects.world.of_same (World.sameDeployments_of_view restored.world.view)
  substate := by
    rw [restored.substate]
    exact respects.substate

/-- Whatever a frame and its children do, they respect what was deployed before the message. -/
theorem Lasting.respects {machine final : Machine} (lasts : Lasting host entered machine final)
    (claim : machine.HasClaim) (respects : machine.Respects host origin) :
    final.Respects host origin := by
  induction lasts with
  | refl => exact respects
  | act before acted inductionHypothesis =>
      exact acted.respects (before.hasClaim claim) (inductionHypothesis claim respects)
  | @kept _ middle _ _ _ entry _ _ _ _ begins _ succeeds closes before within =>
      have entering : (middle.entering entry.child).Respects host origin :=
        ⟨(before claim respects).world, (before claim respects).substate⟩
      have begun := begins.starts.respects entering.opened
      have closed := closes.respects succeeds (within begins.hasClaim begun)
      -- Resuming moves frames only.
      exact ⟨closed.world, closed.substate⟩
  | @undone _ middle _ child _ restored inductionHypothesis =>
      have entering : (middle.entering child).Respects host origin :=
        ⟨(inductionHypothesis claim respects).world, (inductionHypothesis claim respects).substate⟩
      have closed := restored.respects entering
      exact ⟨closed.world, closed.substate⟩

theorem FrameLasts.respects {machine final : Machine}
    (lasts : FrameLasts host entered transfer machine outcome final)
    (respects : machine.Respects host origin) : final.Respects host origin := by
  cases lasts with
  | intro begins within succeeds closes =>
      have begun := begins.starts.respects respects.opened
      exact closes.respects succeeds (within.respects begins.hasClaim begun)

namespace Transaction

theorem Prepared.respects {machine ready : Machine} (prepared : Prepared host machine ready)
    (respects : machine.Respects host origin) : ready.Respects host origin := by
  obtain ⟨warmth, rfl⟩ := prepared.counted
  have raises := le_add_one_of_ne_max (nonce_ne_max_of_accepted prepared.accepted)
  exact ⟨respects.world.setNonce _ raises, respects.substate⟩

theorem Settles.respects {machine ready ended final : Machine} {report : Report}
    (settles : Settles host machine ready ended outcome report final) (plain : host.Plain)
    (hooks : host.hooks = [.settlement]) (respects : ready.Respects host origin) :
    ended.Respects host origin := by
  rcases settles.lasts plain hooks (fun _ => True) fun _ _ => trivial with
    ⟨_, restored⟩ | ⟨_, lasts⟩
  · exact restored.respects respects
  · exact lasts.respects respects

/-- An account that is not listed is there after the listed ones have gone. -/
theorem account?_destroyedWorld (outcome : Outcome) (ended : Machine) (address : Address) :
    (destroyedWorld outcome ended).account? address = ended.world.account? address ∨
      ended.substate.isDestroyed address = true ∧
        (destroyedWorld outcome ended).account? address = none := by
  unfold destroyedWorld
  split
  · rw [World.account?_foldl_destroy]
    split
    · rename_i listed
      exact .inr ⟨ended.substate.mem_destroyedAddresses address |>.mp listed, rfl⟩
    · exact .inl rfl
  · exact .inl rfl

/-- The accounts after a message are those at the end of its outermost frame, but for claimed ones
that have been destroyed. -/
theorem Settles.account?_final {machine ready ended final : Machine} {report : Report}
    (settles : Settles host machine ready ended outcome report final)
    (respects : ended.Respects host origin) (address : Address) :
    final.world.account? address = ended.world.account? address ∨
      ¬origin.IsDeployed address ∧ final.world.account? address = none := by
  rw [settles.world]
  rcases account?_destroyedWorld outcome ended address with kept | ⟨listed, gone⟩
  · exact .inl kept
  · have claimed := respects.substate.destroys address listed
    exact .inr ⟨respects.substate.claims address claimed, gone⟩

end Transaction

/-- Deployed accounts are permanent and new code is acceptable: an account with code or a nonce
keeps its code with its digest and loses no nonce over a message, and where a message has changed the
code, nothing was deployed before and the new code is one that may be stored. -/
theorem deployed_accounts_are_permanent (host : Host) (plain : host.Plain)
    (hooks : host.hooks = [.settlement]) (world : World) (cache : Cache) (machine final : Machine)
    (report : Report) (booted : Transaction.boot host world cache = .ok machine)
    (done : Transaction.execute host machine = .ok report final) (address : Address) :
    (∀ account, world.account? address = some account →
      account.hasCode = true ∨ account.nonce ≠ 0 →
        ∃ kept, final.world.account? address = some kept ∧ account.Persists kept) ∧
      (final.world.code address ≠ world.code address →
        world.hasCode address = false ∧ world.nonce address = 0 ∧
          host.Accepts (final.world.code address)) := by
  obtain ⟨ready, ended, outcome, settles⟩ := Transaction.execute_eq_ok hooks done
  have fresh := Transaction.boot_eq_ok booted
  have prepared := Transaction.prepareSettlement_eq_ok settles.prepares
  have first : machine.Respects host world := by
    constructor
    · rw [fresh.world]
      exact .refl host world
    · rw [fresh.substate]
      exact Substate.respects_empty world
  have respects := settles.respects plain hooks (prepared.respects first)
  constructor
  case left =>
    intro account found isDeployed
    have deployed : world.IsDeployed address := by
      unfold World.IsDeployed
      rw [found]
      exact isDeployed
    rcases settles.account?_final respects address with same | ⟨unused, _⟩
    · rw [same]
      exact respects.world.persists found deployed
    · exact absurd deployed unused
  case right =>
    intro differs
    rcases settles.account?_final respects address with same | ⟨unused, gone⟩
    · have code : final.world.code address = ended.world.code address := by
        unfold World.code
        rw [same]
      rw [code] at differs ⊢
      have unused : ¬world.IsDeployed address :=
        fun deployed => differs (respects.world.code address deployed)
      obtain ⟨noCode, noNonce⟩ := World.not_isDeployed_iff.mp unused
      exact ⟨noCode, noNonce, respects.world.accepts address differs⟩
    · have noCode : final.world.code address = ByteArray.empty := by
        unfold World.code
        rw [gone]
        rfl
      obtain ⟨hadNoCode, noNonce⟩ := World.not_isDeployed_iff.mp unused
      rw [noCode]
      exact ⟨hadNoCode, noNonce, host.accepts_empty⟩

/-- A sender that has sent three messages before and now creates a contract. -/
def foundingWorld : World := (World.empty.setBalance .zero (.ofLimb 10)).setNonce .zero 3

def foundingHost : Host :=
  .standard .blank ⟨.zero, .creation, .zero, ⟨#[0x60, 1, 0x5f, 0xf3]⟩, 200000, []⟩ .standard

theorem founder_and_foundation_are_permanent :
    ∃ machine report final address kept,
      Transaction.boot foundingHost foundingWorld default = .ok machine ∧
      Transaction.execute foundingHost machine = .ok report final ∧
      report.createdAddress = some address ∧ final.world.code address = ⟨#[0]⟩ ∧
      foundingHost.Accepts ⟨#[0]⟩ ∧
      final.world.account? .zero = some kept ∧
      Account.Persists { Account.empty with balance := .ofLimb 10, nonce := 3 } kept := by
  have shown : Transaction.shown? foundingHost foundingWorld (fun report final =>
      report.createdAddress.map final.world.code) = some (some ⟨#[0]⟩) := by decide +kernel
  obtain ⟨machine, report, final, booted, done, answer⟩ := Transaction.shown?_eq_some shown
  obtain ⟨address, created, code⟩ := Option.map_eq_some_iff.mp answer
  have founds := deployed_accounts_are_permanent foundingHost ⟨rfl, rfl⟩ rfl foundingWorld default
    machine final report booted done
  obtain ⟨kept, found, persists⟩ :=
    (founds .zero).1 { Account.empty with balance := .ofLimb 10, nonce := 3 } rfl
      (.inr (by decide))
  have unused : foundingWorld.code address = ByteArray.empty := by
    unfold foundingWorld
    rw [World.code_setNonce, (World.empty.sameDeployments_setBalance .zero _).code]
    rfl
  have differs : final.world.code address ≠ foundingWorld.code address := by
    rw [code, unused]
    decide
  obtain ⟨_, _, accepted⟩ := (founds address).2 differs
  rw [code] at accepted
  exact ⟨machine, report, final, address, kept, booted, done, created, code, accepted, found,
    persists⟩

end CancunMachine
