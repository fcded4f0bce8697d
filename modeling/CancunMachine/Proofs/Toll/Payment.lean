import Mathlib.Tactic
import CancunMachine.Proofs.Order.Child
import CancunMachine.Proofs.Prewarming
import CancunMachine.Proofs.Rollback

/-!
# Tolls

Some instructions pay for touching an account or a slot, and they pay more if nobody has touched it
yet. The toll of an instruction is what it does up to this payment: the key is looked up before it
is paid for, and it is warmed right after. What is paid holds at least the price of the access, cold
or warm. The rest of the instruction cools nothing.
-/

namespace CancunMachine

open Ending

variable {Alpha Beta : Type} {host : Host}

/-- What has been paid for: the touched key, whether it was cold, and the whole price. -/
structure Toll where
  key : WarmKey
  cold : Bool
  price : UInt64

/-- Whether the prices take a key for cold. -/
def Run.isCold (key : WarmKey) : Run Bool := do
  return !(← get).warmth.knows key

/-- Warms a key. -/
def Run.visit (key : WarmKey) : Run Unit := Run.modifyWarmth (·.visit key)

namespace Instruction

/-- Pays for touching a key. -/
def keyToll (key : WarmKey) (assess : Bool → Run UInt64) : Run (Option Toll) := do
  let cold ← Run.isCold key
  let price ← assess cold
  Run.charge price
  return some ⟨key, cold, price⟩

variable (host : Host)

/-- Pays for looking at the code of an account. -/
def codeToll (address : Address) (extra : UInt64) : Run (Option Toll) := do
  if host.policy.isHostAccount address then
    let estimate ← Run.ofHalting (Gas.plus host.schedule.coldAccountAccess extra)
    if (← Run.frame (·.gas)) < estimate then Run.halt .outOfGas
  keyToll ⟨address, none⟩ fun cold =>
    Run.ofHalting (Gas.plus (host.schedule.accountAccess cold) extra)

def extcodecopyToll : Run (Option Toll) := do
  let (address, target, _, size) ← Run.peekFour
  let (size, target) ← Run.range size target
  let needed ← Run.reach target size
  let whole ← Run.ofHalting
    (host.schedule.extcodecopy size needed (← Run.memorySize) false)
  codeToll host address.toAddress (subSaturating whole (host.schedule.accountAccess false))

def selfdestructToll : Run (Option Toll) := do
  Run.forbidStatic
  let beneficiary := (← Run.peekOne).toAddress
  let address ← Run.frame (·.invocation.recipient)
  let balance ← Run.onWorld (Access.readBalance host.refusals address)
  keyToll ⟨beneficiary, none⟩ fun cold => do
    let createsAccount ←
      if balance.isZero then pure false
      else Run.onWorld (Access.accountIsEmpty host.refusals beneficiary)
    return host.schedule.selfdestructCost cold createsAccount

/-- A call touches the account whose code it runs, unless it fails before its callee is entered. -/
def callToll (request : CallRequest) : Run (Option Toll) := do
  let (_, baseCost) ← quoteCall host request
  if ← callFailsEarly host request.target then return none
  keyToll ⟨request.target.codeAddress, none⟩ fun cold =>
    Run.ofHalting (Gas.plus baseCost (host.schedule.accountAccess cold))

def sloadToll : Run (Option Toll) := do
  let key ← Run.peekOne
  let address ← Run.frame (·.invocation.recipient)
  keyToll ⟨address, some key⟩ fun cold => return host.schedule.sload cold

def sstoreToll : Run (Option Toll) := do
  Run.forbidStatic
  if (← Run.frame (·.gas)) ≤ host.schedule.sstoreSentry then Run.halt .outOfGas
  let (key, new) ← Run.peekTwo
  let address ← Run.frame (·.invocation.recipient)
  let current ← Run.onWorld (Access.readSlot host.refusals address key)
  let initial ← Run.onWorld (Access.readInitial host.refusals address key)
  keyToll ⟨address, some key⟩ fun cold => Run.ofHalting (sstorePrice host initial current new cold)

/-- What an instruction does up to its payment for touching an account or a slot, if it touches
one. -/
def toll : Opcode → Run (Option Toll)
  | .balance => do
      let address := (← Run.peekOne).toAddress
      keyToll ⟨address, none⟩ fun cold => return host.schedule.accountAccess cold
  | .extcodesize | .extcodehash => do codeToll host (← Run.peekOne).toAddress 0
  | .extcodecopy => extcodecopyToll host
  | .selfdestruct => selfdestructToll host
  | .call => do callToll host (← readCall host)
  | .callcode => do callToll host (← readCallcode host)
  | .delegatecall => do callToll host (← readDelegatecall)
  | .staticcall => do callToll host (← readStaticcall host)
  | .sload => sloadToll host
  | .sstore => sstoreToll host
  | _ => pure none

end Instruction

/-- A computation that cools nothing. -/
def Grows (action : Run Alpha) : Prop :=
  ∀ machine value final, action machine = .ok value final →
    machine.warmth.Extends final.warmth

namespace Grows

theorem bind {first : Run Alpha} {next : Alpha → Run Beta} (early : Grows first)
    (late : ∀ value, Grows (next value)) : Grows (first >>= next) := by
  intro machine value final done
  obtain ⟨shown, middle, started, rest⟩ := bind_eq_ok.mp done
  exact (early _ _ _ started).trans (late shown _ _ _ rest)

theorem branch {condition : Prop} [Decidable condition] {left right : Run Alpha}
    (yes : Grows left) (no : Grows right) : Grows (if condition then left else right) := by
  split
  · exact yes
  · exact no

theorem pure (value : Alpha) : Grows (Pure.pure value : Run Alpha) := by
  intro machine shown final done
  cases done
  exact .refl _

theorem of_orderly (host : Host) {cost : Nat} {growth : Int} {action : Run Alpha}
    (orderly : Orderly host (fun _ => True) False False cost growth action) : Grows action := by
  intro machine value final done
  have evolves := orderly.evolves trivial done
  exact evolves.reversible.warmth

theorem of_same {action : Run Alpha}
    (same : ∀ {machine value final}, action machine = .ok value final →
      final.warmth = machine.warmth) : Grows action := by
  intro machine value final done
  rw [same done]
  exact .refl _

theorem onWorld (access : Access Alpha) : Grows (Run.onWorld access) :=
  of_same fun done => by
    obtain ⟨world, _, rfl⟩ := Run.onWorld_eq_ok.mp done
    rfl

theorem updateStack (change : Stack → Except Halt Stack) : Grows (Run.updateStack change) :=
  of_same fun done => by
    obtain ⟨stack, _, rfl⟩ := Run.updateStack_eq_ok.mp done
    rfl

theorem onMemory (action : Memory.Action Alpha) : Grows (Run.onMemory action) :=
  of_same fun done => by
    obtain ⟨memory, _, rfl⟩ := Run.onMemory_eq_ok.mp done
    rfl

theorem modifySubstate (change : Substate → Substate) : Grows (Run.modifySubstate change) :=
  of_same fun done => by
    cases done
    rfl

end Grows

/-- An action that pays this toll before anything else: both begin with the same computation, after
which the toll forgets what else has been found out, and the action warms what it has paid for and
cools nothing any more. -/
structure Tolls (access : Bool → UInt64) (toll : Run (Option Toll)) (action : Run Alpha) :
    Prop where
  /-- The cold price is paid for what is not known yet. -/
  assesses : ∀ {machine paid : Machine} {shown : Toll}, toll machine = .ok (some shown) paid →
    shown.cold = !machine.warmth.knows shown.key
  covers : ∀ {machine paid : Machine} {shown : Toll}, toll machine = .ok (some shown) paid →
    access shown.cold ≤ shown.price
  pays : ∀ {machine paid : Machine} {shown : Toll}, toll machine = .ok (some shown) paid →
    shown.price ≤ machine.frame.gas ∧ paid.frame.gas = machine.frame.gas - shown.price
  goesOn : ∃ (Detail : Type) (start : Run (Option Toll × Detail))
    (rest : Option Toll × Detail → Run Alpha),
    (toll = do return (← start).1) ∧ action = start >>= rest ∧
    ∀ shown detail, ∃ after : Run Alpha,
      (rest (some shown, detail) = do Run.visit shown.key; after) ∧ Grows after

namespace Tolls

variable {access : Bool → UInt64} {toll : Run (Option Toll)} {action : Run Alpha}

/-- What has been paid for is known when the action is done. -/
theorem knows {machine paid final : Machine} {shown : Toll} {value : Alpha}
    (tolls : Tolls access toll action) (pays : toll machine = .ok (some shown) paid)
    (done : action machine = .ok value final) : final.warmth.knows shown.key = true := by
  obtain ⟨Detail, start, rest, rfl, rfl, visits⟩ := tolls.goesOn
  obtain ⟨⟨answer, detail⟩, middle, started, returned⟩ := bind_eq_ok.mp pays
  cases returned
  obtain ⟨after, visited, grows⟩ := visits shown detail
  rw [bind_of_ok started, visited] at done
  obtain ⟨_, warm, warms, finished⟩ := bind_eq_ok.mp done
  cases warms
  exact (grows _ _ _ finished).knows (paid.warmth.knows_visit shown.key)

/-- Nothing to pay for. -/
theorem free (action : Run Alpha) : Tolls access (pure none) action where
  assesses := nofun
  covers := nofun
  pays := nofun
  goesOn := by
    refine ⟨Unit, pure (none, ()), fun asked => asked.1.elim action fun shown => do
      Run.visit shown.key
      Run.halt .outOfGas, rfl, rfl, fun shown _ => ⟨_, rfl, fun _ _ _ => nofun⟩⟩

/-- What follows a look at the machine finds it unchanged but for the return data. -/
theorem rest_of_looks {first : Run Beta} {tolls : Beta → Run (Option Toll)} {machine paid : Machine}
    {shown : Toll} (looks : Prudent True True .looks first)
    (pays : (first >>= tolls) machine = .ok (some shown) paid) :
    ∃ value data, tolls value { machine with frame.returnData := data } =
      .ok (some shown) paid := by
  obtain ⟨value, middle, started, rest⟩ := bind_eq_ok.mp pays
  obtain ⟨data, rfl⟩ := looks.looks rfl started
  exact ⟨value, data, rest⟩

/-- Looking at the machine comes before both. -/
theorem look {first : Run Beta} {tolls : Beta → Run (Option Toll)} {next : Beta → Run Alpha}
    (looks : Prudent True True .looks first)
    (later : ∀ value, Tolls access (tolls value) (next value)) :
    Tolls access (first >>= tolls) (first >>= next) where
  assesses := by
    intro machine paid shown pays
    obtain ⟨value, _, rest⟩ := rest_of_looks looks pays
    have known := (later value).assesses rest
    exact known
  covers := by
    intro machine paid shown pays
    obtain ⟨value, _, rest⟩ := rest_of_looks looks pays
    have known := (later value).covers rest
    exact known
  pays := by
    intro machine paid shown pays
    obtain ⟨value, _, rest⟩ := rest_of_looks looks pays
    have known := (later value).pays rest
    exact known
  goesOn := by
    choose Detail start rest pays goesOn visits using fun value => (later value).goesOn
    -- What has been looked at is found out as well.
    refine ⟨(value : Beta) × Detail value, do
      let value ← first
      let (answer, detail) ← start value
      return (answer, ⟨value, detail⟩), fun asked => rest asked.2.1 (asked.1, asked.2.2), ?_, ?_,
      fun shown detail => visits detail.1 shown detail.2⟩
    · rw [funext pays]
      simp only [bind_assoc, pure_bind]
    · rw [funext goesOn]
      simp only [bind_assoc, pure_bind]

theorem branch {condition : Prop} [Decidable condition] {other : Run (Option Toll)}
    {instead : Run Alpha} (yes : Tolls access toll action) (no : Tolls access other instead) :
    Tolls access (if condition then toll else other) (if condition then action else instead) := by
  split
  · exact yes
  · exact no

/-- A halt comes before both if a condition holds. -/
theorem guard {condition : Prop} [Decidable condition] {reason : Halt}
    {tolls : Unit → Run (Option Toll)} {next : Unit → Run Alpha}
    (later : Tolls access (tolls ()) (next ())) :
    Tolls access (if condition then do tolls (← Run.halt reason) else tolls ())
      (if condition then do next (← Run.halt reason) else next ()) :=
  branch (look (prudent_halt nofun) fun _ => later) later

/-- Whatever cools nothing may follow. -/
theorem before {next : Alpha → Run Beta} (tolls : Tolls access toll action)
    (grows : ∀ value, Grows (next value)) : Tolls access toll (action >>= next) where
  assesses := tolls.assesses
  covers := tolls.covers
  pays := tolls.pays
  goesOn := by
    obtain ⟨Detail, start, rest, rfl, rfl, visits⟩ := tolls.goesOn
    refine ⟨Detail, start, fun asked => rest asked >>= next, rfl, bind_assoc _ _ _,
      fun shown detail => ?_⟩
    obtain ⟨after, visited, cools⟩ := visits shown detail
    refine ⟨after >>= next, ?_, cools.bind grows⟩
    simp only [visited, bind_assoc]

end Tolls

end CancunMachine
