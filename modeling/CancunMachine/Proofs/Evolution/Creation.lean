import Mathlib.Tactic
import CancunMachine.Proofs.Evolution.Call
import CancunMachine.Proofs.World.Header

/-!
# How creations prepare their initcode

A creation raises the nonce of its account, and hands all but a 64th of its gas to the initcode.
That the nonce has room is checked before anything that could not be taken back.
-/

namespace CancunMachine

open Ending

namespace Instruction

variable {host : Host} {known : Invocation → Prop} {silent tame : Prop}

theorem orderly_readCreate : Orderly host known silent tame 0 0 readCreate :=
  (orderly_peekThree.bind fun _ => orderly_pure _).weaken (by omega) (by omega)

theorem orderly_readCreate2 : Orderly host known silent tame 0 0 readCreate2 :=
  (orderly_peekFour.bind fun _ => orderly_pure _).weaken (by omega) (by omega)

theorem three_le_operandCount (request : CreationRequest) : 3 ≤ request.operandCount := by
  unfold CreationRequest.operandCount
  split <;> omega

theorem orderly_payCreation (request : CreationRequest) :
    Orderly host known silent tame host.schedule.createBase.toNat (-request.operandCount)
      (payCreation host request) := by
  refine orderly_forbidStatic.step fun _ => (orderly_range _ _).step fun range =>
    Orderly.guard fun _ => ?_
  exact ((orderly_reach _ _).bind fun _ => orderly_memorySize.bind fun _ =>
    (orderly_chargeCost _ _ fun _ => GasSchedule.le_create).bind fun _ =>
    (orderly_drop _).bind fun _ =>
    (orderly_onMemory (Memory.haltsUnchanged_grow _)).bind fun _ =>
    (orderly_setReturnData _).bind fun _ => orderly_pure _).weaken (by omega) (by omega)

theorem isStatic_of_payCreation {request : CreationRequest} {machine final : Machine}
    {range : Nat × Nat} (done : payCreation host request machine = .ok range final) :
    machine.frame.invocation.isStatic = false := by
  obtain ⟨_, _, permitted, _⟩ := bind_eq_ok.mp done
  exact (isStatic_of_forbidStatic permitted).1

theorem orderly_creationFailsEarly (deployer : Address) (value : Word) :
    Orderly host known silent tame 0 0 (creationFailsEarly host deployer value) :=
  ((orderly_reading (Access.reads_balance _)).bind fun _ =>
    (orderly_reading (Access.reads_nonce _)).bind fun _ => (orderly_frame _).bind fun _ =>
    orderly_pure _).weaken (by omega) (by omega)

/-- A creation that goes on can afford its value, can be counted and is not nested too deeply. -/
theorem creationFailsEarly_eq_ok {deployer : Address} {value : Word} {machine final : Machine}
    {early : Bool} (done : creationFailsEarly host deployer value machine = .ok early final) :
    final = machine ∧ (early = false →
      (machine.world.balance deployer).lt value = false ∧
      machine.world.nonce deployer ≠ maxUInt64 ∧
      machine.frame.invocation.depth < host.config.maxCallDepth) := by
  obtain ⟨balance, _, read, rest⟩ := bind_eq_ok.mp done
  obtain ⟨world, shown, rfl⟩ := Run.onWorld_eq_ok.mp read
  obtain ⟨rfl, rfl⟩ := (Access.reads_balance _).shows shown
  obtain ⟨nonce, _, read, rest⟩ := bind_eq_ok.mp rest
  obtain ⟨world, shown, rfl⟩ := Run.onWorld_eq_ok.mp read
  obtain ⟨rfl, rfl⟩ := (Access.reads_nonce _).shows shown
  cases rest
  refine ⟨rfl, fun goesOn => ?_⟩
  simpa [and_assoc] using goesOn

/-- Counting a creation is an act of a frame that is not static. -/
theorem orderly_incrementNonce {deployer : Address}
    (writable : ∀ invocation, known invocation → invocation.isStatic = false)
    (own : ∀ invocation, known invocation → deployer = invocation.recipient) :
    Orderly host known False False 0 0
      (Run.onWorld (Access.incrementNonce host.refusals deployer)) := by
  refine orderly_of_acting ?_ False.elim ?_
  · intro machine nonce final holds done
    obtain ⟨world, raised, rfl⟩ := Run.onWorld_eq_ok.mp done
    obtain ⟨rfl, room, rfl⟩ := Access.incrementNonce_eq_ok raised
    rw [own _ holds] at room ⊢
    exact ⟨.single (.raiseNonce (writable _ holds) room), rfl⟩
  · intro machine cause final failed
    obtain ⟨error, world, _, rfl, rfl⟩ := Run.onWorld_eq_error.mp failed
    exact ⟨rfl, False.elim, rfl, rfl⟩

theorem orderly_initcodeFrame (kind : CallKind) (deployer address : Address) (value : Word)
    (gas : UInt64) (code : ByteArray) :
    Orderly host known silent tame 0 0
      (initcodeFrame host kind deployer address value gas code) :=
  ((orderly_makeProgram _).bind fun _ => orderly_takeBuffers.bind fun _ =>
    (orderly_frame _).bind fun _ => orderly_pure _).weaken (by omega) (by omega)

theorem initcodeFrame_eq_ok {kind : CallKind} {deployer address : Address} {value : Word}
    {gas : UInt64} {code : ByteArray} {machine final : Machine} {child : Frame}
    (done : initcodeFrame host kind deployer address value gas code machine = .ok child final) :
    child.Fresh ∧ child.invocation.kind = kind ∧ child.invocation.recipient = address ∧
      child.invocation.isStatic = false ∧ child.invocation.gasLimit = gas ∧
      child.invocation.depth = machine.frame.invocation.depth + 1 := by
  obtain ⟨program, _, made, rest⟩ := bind_eq_ok.mp done
  cases made
  obtain ⟨buffers, _, taken, rest⟩ := bind_eq_ok.mp rest
  obtain ⟨stackCleared, memoryCleared, pool, rfl⟩ := takeBuffers_eq_ok taken
  cases rest
  exact ⟨⟨rfl, stackCleared, memoryCleared⟩, rfl, rfl, rfl, rfl, rfl⟩

theorem orderly_initcodeEntry (request : CreationRequest) {deployer : Address} (offset size : Nat)
    (writable : ∀ invocation, known invocation → invocation.isStatic = false)
    (own : ∀ invocation, known invocation → deployer = invocation.recipient) :
    Orderly host known False False 0 0 (initcodeEntry host request deployer offset size) :=
  ((orderly_onMemory (Memory.haltsUnchanged_load _ _)).bind fun _ =>
    (orderly_incrementNonce writable own).bind fun _ => (orderly_warmAddress _).bind fun _ =>
    (orderly_frame _).bind fun _ => ((orderly_charge _).weaken (Nat.zero_le _) (le_refl _)).bind
      fun _ => (orderly_initcodeFrame _ _ _ _ _ _).bind fun _ =>
    orderly_pure _).weaken (by omega) (by omega)

theorem initcodeEntry_eq_ok {request : CreationRequest} {deployer : Address} {offset size : Nat}
    {machine final : Machine} {entry : Entry}
    (done : initcodeEntry host request deployer offset size machine = .ok entry final) :
    entry.child.Fresh ∧ entry.child.invocation.isStatic = false ∧
      entry.transfer = ⟨deployer, entry.child.invocation.recipient, request.value⟩ ∧
      entry.child.invocation.depth = machine.frame.invocation.depth + 1 ∧
      (∀ address, final.world.balance address = machine.world.balance address) ∧
      final.frame.gas.toNat + entry.child.invocation.gasLimit.toNat ≤
        machine.frame.gas.toNat := by
  obtain ⟨code, _, loaded, rest⟩ := bind_eq_ok.mp done
  obtain ⟨memory, _, rfl⟩ := Run.onMemory_eq_ok.mp loaded
  obtain ⟨nonce, _, raises, rest⟩ := bind_eq_ok.mp rest
  obtain ⟨world, raised, rfl⟩ := Run.onWorld_eq_ok.mp raises
  obtain ⟨rfl, _, rfl⟩ := Access.incrementNonce_eq_ok raised
  obtain ⟨_, _, warmed, rest⟩ := bind_eq_ok.mp rest
  cases warmed
  obtain ⟨available, _, asked, rest⟩ := bind_eq_ok.mp rest
  rw [Run.frame_apply] at asked
  cases asked
  obtain ⟨_, _, charged, rest⟩ := bind_eq_ok.mp rest
  obtain ⟨enough, rfl⟩ := Run.charge_eq_ok.mp charged
  obtain ⟨child, made, makes, returned⟩ := bind_eq_ok.mp rest
  cases returned
  obtain ⟨fresh, kind, recipient, static, limit, depth⟩ := initcodeFrame_eq_ok makes
  have making : Orderly host (fun _ => True) True True _ _ (initcodeFrame host
    (if request.salt.isSome then .create2 else .create) deployer
    (request.address deployer (machine.world.nonce deployer) code) request.value
    (Gas.forChild machine.frame.gas machine.frame.gas) code) := orderly_initcodeFrame _ _ _ _ _ _
  have bounded : (Gas.forChild machine.frame.gas machine.frame.gas).toNat ≤
      machine.frame.gas.toNat := UInt64.le_iff_toNat_le.mp enough
  have paid : (machine.frame.gas - Gas.forChild machine.frame.gas machine.frame.gas).toNat =
      machine.frame.gas.toNat - (Gas.forChild machine.frame.gas machine.frame.gas).toNat :=
    UInt64.toNat_sub_of_le _ _ enough
  have kept : final.frame.gas.toNat + 0 ≤
      (machine.frame.gas - Gas.forChild machine.frame.gas machine.frame.gas).toNat :=
    making.spends trivial makes
  refine ⟨fresh, static, by rw [recipient], depth, ?_, ?_⟩
  · intro address
    rw [(making.keeps trivial trivial makes).1]
    exact World.balance_setNonce _ _ _ _
  · have granted : child.invocation.gasLimit =
        Gas.forChild machine.frame.gas machine.frame.gas := limit
    simp only [granted]
    omega

theorem orderly_prepareCreation (request : CreationRequest) :
    Orderly host known False False host.schedule.createBase.toNat (1 - request.operandCount)
      (prepareCreation host request) := by
  have enters : ∀ range : Nat × Nat,
      Orderly host (fun invocation => known invocation ∧ invocation.isStatic = false) False False
        0 1 (do
          let deployer ← Run.frame (·.invocation.recipient)
          if ← creationFailsEarly host deployer request.value then
            Run.push .zero
            return none
          return some (← initcodeEntry host request deployer range.1 range.2)) := by
    intro range
    refine Orderly.asking (·.recipient) fun deployer =>
      (orderly_creationFailsEarly _ _).step fun early => Orderly.branch ?_ ?_
    · exact ((orderly_push _).bind fun _ => orderly_pure _).weaken (by omega) (by omega)
    · refine (orderly_initcodeEntry request _ _ ?_ ?_).step fun entry => ?_
      · exact fun _ holds => holds.1.2
      · exact fun _ holds => holds.2
      · exact (orderly_pure _).weaken (by omega) (by omega)
  exact ((orderly_payCreation request).learn (fun _ invocation => invocation.isStatic = false)
    (fun _ pays => isStatic_of_payCreation pays) enters).weaken (by omega) (by omega)

theorem prepareCreation_eq_some {request : CreationRequest} {machine final : Machine}
    {entry : Entry} (done : prepareCreation host request machine = .ok (some entry) final) :
    Prepared host machine request.operandCount entry final := by
  have paying : Orderly host (fun _ => True) True True _ _ (payCreation host request) :=
    orderly_payCreation request
  obtain ⟨⟨offset, size⟩, paid, pays, rest⟩ := bind_eq_ok.mp done
  have writable := isStatic_of_payCreation pays
  have samePaid := (paying.evolves trivial pays).samePlace.context.invocation
  have spent := paying.spends trivial pays
  have grown := paying.grows trivial pays
  obtain ⟨deployer, _, asked, rest⟩ := bind_eq_ok.mp rest
  rw [Run.frame_apply] at asked
  cases asked
  obtain ⟨early, looked, asks, rest⟩ := bind_eq_ok.mp rest
  obtain ⟨same, goesOn⟩ := creationFailsEarly_eq_ok asks
  rw [same] at rest
  cases early with
  | true =>
      obtain ⟨_, _, _, returned⟩ := bind_eq_ok.mp rest
      cases returned
  | false =>
      obtain ⟨affordable, _, allowed⟩ := goesOn rfl
      obtain ⟨made, _, makes, returned⟩ := bind_eq_ok.mp rest
      cases returned
      have making : Orderly host (fun invocation => invocation = paid.frame.invocation) False False
          0 0 (initcodeEntry host request paid.frame.invocation.recipient offset size) := by
        refine orderly_initcodeEntry request offset size ?_ ?_
        · rintro invocation rfl
          rw [samePaid, writable]
        · rintro invocation rfl
          rfl
      have sameMade := (making.evolves rfl makes).samePlace.context.invocation
      have madeGrown := making.grows rfl makes
      obtain ⟨fresh, static, transfer, depth, balances, shared⟩ := initcodeEntry_eq_ok makes
      constructor
      case legal =>
        constructor
        case fresh => exact fresh
        case depth => rw [depth, sameMade]
        case depthAllowed => rw [sameMade]; exact allowed
        case source => rw [transfer, sameMade]; exact .inl rfl
        case target => rw [transfer]
        case affordable => rw [transfer, balances]; exact .inr affordable
        case creation => rw [sameMade, samePaid]; exact fun _ => ⟨writable, static⟩
        case inherits =>
          intro isStatic
          rw [sameMade, samePaid, writable] at isStatic
          cases isStatic
        case neutral =>
          intro isStatic
          rw [static] at isStatic
          cases isStatic
      case stack => omega
      case gas =>
        intro cancun
        have base : GasSchedule.cancun.createBase.toNat = 32000 := rfl
        rw [cancun] at spent
        omega

theorem settles_of_initcodeEntry {request : CreationRequest} {deployer : Address}
    {offset size : Nat} {machine final : Machine} {cause : Failure}
    (granted : host.refusals = .none) (room : machine.world.nonce deployer ≠ maxUInt64)
    (failed : initcodeEntry host request deployer offset size machine = .error cause final) :
    cause.endsMessage = false := by
  rcases bind_eq_error.mp failed with unread | ⟨code, _, loaded, rest⟩
  · obtain ⟨left, unloaded, _⟩ := Run.onMemory_eq_error.mp unread
    rw [(Memory.haltsUnchanged_load _ _ unloaded).1]
    rfl
  obtain ⟨memory, _, rfl⟩ := Run.onMemory_eq_ok.mp loaded
  rcases bind_eq_error.mp rest with uncounted | ⟨nonce, counted, _, rest⟩
  · obtain ⟨error, world, refused, _, _⟩ := Run.onWorld_eq_error.mp uncounted
    rw [Access.incrementNonce_of_granted granted room] at refused
    cases refused
  have making : Orderly host (fun _ => True) True True _ _ (do
      Run.warmAddress (request.address deployer nonce code)
      let available ← Run.frame (·.gas)
      Run.charge (Gas.forChild available available)
      let child ← initcodeFrame host (if request.salt.isSome then .create2 else .create) deployer
        (request.address deployer nonce code) request.value (Gas.forChild available available) code
      return (⟨child, ⟨deployer, request.address deployer nonce code, request.value⟩⟩ : Entry)) :=
    (orderly_warmAddress _).bind fun _ => (orderly_frame _).bind fun available =>
      ((orderly_charge _).weaken (Nat.zero_le _) (le_refl _)).bind fun _ =>
      (orderly_initcodeFrame _ _ _ _ _ _).bind fun _ => orderly_pure _
  exact making.settles trivial trivial rest granted

theorem settles_of_prepareCreation {request : CreationRequest} {machine final : Machine}
    {cause : Failure} (granted : host.refusals = .none)
    (failed : prepareCreation host request machine = .error cause final) :
    cause.endsMessage = false := by
  have paying : Orderly host (fun _ => True) True True _ _ (payCreation host request) :=
    orderly_payCreation request
  rcases bind_eq_error.mp failed with unpaid | ⟨⟨offset, size⟩, paid, pays, rest⟩
  · exact paying.settles trivial trivial unpaid granted
  rcases bind_eq_error.mp rest with unasked | ⟨deployer, _, asked, rest⟩
  · cases unasked
  rw [Run.frame_apply] at asked
  cases asked
  have asking : Orderly host (fun _ => True) True True _ _
    (creationFailsEarly host paid.frame.invocation.recipient request.value) :=
    orderly_creationFailsEarly _ _
  rcases bind_eq_error.mp rest with unread | ⟨early, looked, asks, rest⟩
  · exact asking.settles trivial trivial unread granted
  obtain ⟨same, goesOn⟩ := creationFailsEarly_eq_ok asks
  rw [same] at rest
  cases early with
  | true =>
      have giving : Orderly host (fun _ => True) True True _ _ (do
          Run.push .zero
          return (none : Option Entry)) := (orderly_push _).bind fun _ => orderly_pure _
      exact giving.settles trivial trivial rest granted
  | false =>
      rcases bind_eq_error.mp rest with unmade | ⟨_, _, _, returned⟩
      · exact settles_of_initcodeEntry granted (goesOn rfl).2.1 unmade
      · cases returned

end Instruction

end CancunMachine
