import Mathlib.Tactic
import CancunMachine.World.Access
import CancunMachine.Proofs.Machine.Ending
import CancunMachine.Proofs.World.Log

/-!
# What an access does to the world

A store that refuses an operation stops the access; apart from that a reading access tells what
`World` shows and changes nothing, and a writing access makes one change. A transfer of value
succeeds only as described by `World.Moves`.
-/

namespace CancunMachine

open Ending

namespace World

/-- The balance of an account; a missing account has none. -/
def balance (world : World) (address : Address) : Word :=
  ((world.account? address).getD .empty).balance

/-- The nonce of an account; a missing account has never sent anything. -/
def nonce (world : World) (address : Address) : UInt64 :=
  ((world.account? address).getD .empty).nonce

/-- The digest that is stored beside the code of an account. -/
def codeHash (world : World) (address : Address) : Hash :=
  ((world.account? address).getD .empty).codeHash

/-- The world after `value` was taken from `source`. -/
def debited (world : World) (source : Address) (value : Word) : World :=
  world.setBalance source ((world.balance source).sub value)

/-- The world after `value` was taken from `source` and given to `target`, in this order. -/
def moved (world : World) (source target : Address) (value : Word) : World :=
  let debited := world.setBalance source ((world.balance source).sub value)
  debited.setBalance target ((debited.balance target).add value)

/-- A transfer that succeeds: there is nothing to move, or the source can pay and the target can
hold the sum. -/
inductive Moves (source target : Address) (value : Word) (world : World) : World → Prop
  | nothing : value.isZero = true → Moves source target value world world
  | something :
      value.isZero = false →
      (world.balance source).lt value = false →
      (let debited := world.setBalance source ((world.balance source).sub value)
       ((debited.balance target).add value).lt (debited.balance target) = false) →
      Moves source target value world (world.moved source target value)

theorem commit_of_open {world : World} (opened : world.layers ≠ []) :
    ∃ committed, world.commit = .ok committed := by
  rcases world.commit_eq with ⟨closed, _⟩ | ⟨_, _, _, _, commits, _⟩
  · exact absurd closed opened
  · exact ⟨_, commits⟩

theorem revert_of_open {world : World} (opened : world.layers ≠ []) :
    ∃ reverted, world.revert = .ok reverted := by
  rcases world.revert_eq with ⟨closed, _⟩ | ⟨_, _, _, _, reverts, _⟩
  · exact absurd closed opened
  · exact ⟨_, reverts⟩

/-- Whoever can afford a transfer can make it. -/
def Solvent (world : World) : Prop :=
  ∀ source target value, (world.balance source).lt value = false →
    ∃ final, Moves source target value world final

end World

namespace Access

variable {Alpha : Type} {refusals : Refusals}

theorem permit_bind_eq_ok {refusal : Option StoreError} {next : Access Alpha} {world final : World}
    {value : Alpha} :
    (permit refusal >>= fun _ => next) world = .ok value final ↔
      refusal = none ∧ next world = .ok value final := by
  cases refusal <;> simp [permit, bind_eq_ok]

theorem permit_bind_eq_error {refusal : Option StoreError} {next : Access Alpha}
    {world final : World} {error : StoreError} :
    (permit refusal >>= fun _ => next) world = .error error final ↔
      refusal = some error ∧ world = final ∨ refusal = none ∧ next world = .error error final := by
  cases refusal <;> simp [permit, bind_eq_error]

/-- An access that only looks. -/
structure Reads (refusals : Refusals) (access : Access Alpha) (view : World → Alpha) : Prop where
  shows : ∀ {world value final}, access world = .ok value final →
    value = view world ∧ final = world
  refuses : ∀ {world error final}, access world = .error error final → final = world
  granted : refusals = .none → ∀ world, access world = .ok (view world) world

/-- An access that makes one change. -/
structure Writes (refusals : Refusals) (access : Access Unit) (change : World → World) : Prop where
  changes : ∀ {world final}, access world = .ok () final → final = change world
  refuses : ∀ {world error final}, access world = .error error final → final = world
  granted : refusals = .none → ∀ world, access world = .ok () (change world)

/-- Looking after asking for permission is looking. -/
theorem reads_of_permit (operation : StoreOperation) (address : Address) (view : World → Alpha) :
    Reads refusals (do permit (refusals.account operation address); return view (← get)) view where
  shows := by
    intro world value final done
    obtain ⟨_, shown⟩ := permit_bind_eq_ok.mp done
    cases shown
    exact ⟨rfl, rfl⟩
  refuses := by
    intro world error final failed
    rcases permit_bind_eq_error.mp failed with ⟨_, rfl⟩ | ⟨_, impossible⟩
    · rfl
    · cases impossible
  granted := by
    rintro rfl world
    rfl

/-- What is computed from what an access shows is shown as well. -/
theorem Reads.map {Beta : Type} {access : Access Alpha} {view : World → Alpha}
    {next : Alpha → Access Beta} (reads : Reads refusals access view) (compute : Alpha → Beta)
    (returns : ∀ value, next value = pure (compute value)) :
    Reads refusals (access >>= next) fun world => compute (view world) where
  shows := by
    intro world value final done
    obtain ⟨shown, middle, looked, returned⟩ := bind_eq_ok.mp done
    obtain ⟨rfl, rfl⟩ := reads.shows looked
    rw [returns] at returned
    cases returned
    exact ⟨rfl, rfl⟩
  refuses := by
    intro world error final failed
    rcases bind_eq_error.mp failed with early | ⟨_, _, _, late⟩
    · exact reads.refuses early
    · rw [returns] at late
      cases late
  granted := by
    intro none world
    rw [bind_of_ok (reads.granted none world), returns]
    rfl

theorem reads_account (address : Address) :
    Reads refusals (readAccount refusals address) (·.account? address) :=
  reads_of_permit _ _ _

theorem reads_code (address : Address) :
    Reads refusals (readCode refusals address) (·.code address) :=
  reads_of_permit _ _ _

theorem reads_slot (address : Address) (key : Word) :
    Reads refusals (readSlot refusals address key) (·.slot address key) :=
  reads_of_permit _ _ _

theorem reads_initial (address : Address) (key : Word) :
    Reads refusals (readInitial refusals address key) (·.initialSlot address key) :=
  reads_of_permit _ _ _

theorem reads_blockHash (number : UInt64) :
    Reads refusals (readBlockHash refusals number) (·.blockHashes.get? number) where
  shows := by
    intro world value final done
    obtain ⟨_, shown⟩ := permit_bind_eq_ok.mp done
    cases shown
    exact ⟨rfl, rfl⟩
  refuses := by
    intro world error final failed
    rcases permit_bind_eq_error.mp failed with ⟨_, rfl⟩ | ⟨_, impossible⟩
    · rfl
    · cases impossible
  granted := by
    rintro rfl world
    rfl

theorem reads_exists (address : Address) :
    Reads refusals (accountExists refusals address) fun world =>
      (world.account? address).isSome :=
  (reads_account address).map _ fun _ => rfl

theorem reads_isEmpty (address : Address) :
    Reads refusals (accountIsEmpty refusals address) fun world =>
      ((world.account? address).getD .empty).isEmpty :=
  (reads_account address).map _ fun _ => rfl

theorem reads_balance (address : Address) :
    Reads refusals (readBalance refusals address) (·.balance address) :=
  (reads_account address).map _ fun _ => rfl

theorem reads_nonce (address : Address) :
    Reads refusals (readNonce refusals address) (·.nonce address) :=
  (reads_account address).map _ fun _ => rfl

/-- Changing after asking for permission is changing. -/
theorem writes_of_permit (operation : StoreOperation) (address : Address)
    (change : World → World) :
    Writes refusals (do permit (refusals.account operation address); modify change) change where
  changes := by
    intro world final done
    obtain ⟨_, changed⟩ := permit_bind_eq_ok.mp done
    cases changed
    rfl
  refuses := by
    intro world error final failed
    rcases permit_bind_eq_error.mp failed with ⟨_, rfl⟩ | ⟨_, impossible⟩
    · rfl
    · cases impossible
  granted := by
    rintro rfl world
    rfl

theorem writes_slot (address : Address) (key value : Word) :
    Writes refusals (writeSlot refusals address key value) (·.setSlot address key value) :=
  writes_of_permit _ _ _

theorem writes_balance (address : Address) (balance : Word) :
    Writes refusals (writeBalance refusals address balance) (·.setBalance address balance) :=
  writes_of_permit _ _ _

theorem writes_nonce (address : Address) (nonce : UInt64) :
    Writes refusals (writeNonce refusals address nonce) (·.setNonce address nonce) :=
  writes_of_permit _ _ _

theorem writes_code (address : Address) (code : ByteArray) :
    Writes refusals (writeCode refusals address code) (·.setCode address code) :=
  writes_of_permit _ _ _

theorem writes_destroy (address : Address) :
    Writes refusals (destroy refusals address) (·.destroy address) :=
  writes_of_permit _ _ _

theorem incrementNonce_eq_ok {address : Address} {world final : World} {nonce : UInt64}
    (done : incrementNonce refusals address world = .ok nonce final) :
    nonce = world.nonce address ∧ nonce ≠ 0xffffffffffffffff ∧
      final = world.setNonce address (nonce + 1) := by
  obtain ⟨read, middle, looked, rest⟩ := bind_eq_ok.mp done
  obtain ⟨rfl, rfl⟩ := (reads_nonce address).shows looked
  by_cases full : middle.nonce address = 0xffffffffffffffff
  · simp only [if_pos full, bind_eq_ok, throw_apply, reduceCtorEq, false_and, exists_false] at rest
  · simp only [if_neg full] at rest
    obtain ⟨_, written, wrote, returned⟩ := bind_eq_ok.mp rest
    cases (writes_nonce address _).changes wrote
    cases returned
    exact ⟨rfl, full, rfl⟩

theorem incrementNonce_of_granted {address : Address} {world : World}
    (granted : refusals = .none) (room : world.nonce address ≠ 0xffffffffffffffff) :
    incrementNonce refusals address world =
      .ok (world.nonce address) (world.setNonce address (world.nonce address + 1)) := by
  unfold incrementNonce
  rw [bind_of_ok ((reads_nonce address).granted granted world)]
  simp only [if_neg room]
  exact bind_of_ok ((writes_nonce address _).granted granted world)

/-- A transfer that returns has moved the value. -/
theorem moves_of_transfer {source target : Address} {value : Word} {world final : World}
    (done : transfer refusals source target value world = .ok () final) :
    World.Moves source target value world final := by
  unfold transfer at done
  by_cases zero : value.isZero = true
  · simp only [if_pos zero] at done
    cases done
    exact .nothing zero
  simp only [if_neg zero] at done
  obtain ⟨available, first, looked, rest⟩ := bind_eq_ok.mp done
  obtain ⟨rfl, rfl⟩ := (reads_balance source).shows looked
  by_cases poor : (first.balance source).lt value = true
  · simp only [if_pos poor, bind_eq_ok, throw_apply, reduceCtorEq, false_and, exists_false] at rest
  simp only [if_neg poor] at rest
  obtain ⟨_, debited, wrote, credit⟩ := bind_eq_ok.mp rest
  cases (writes_balance source _).changes wrote
  obtain ⟨held, second, lookedAgain, rest⟩ := bind_eq_ok.mp credit
  obtain ⟨rfl, rfl⟩ := (reads_balance target).shows lookedAgain
  split at rest
  · simp only [bind_eq_ok, throw_apply, reduceCtorEq, false_and, exists_false] at rest
  · rename_i fits
    cases (writes_balance target _).changes rest
    exact .something (by simpa using zero) (by simpa using poor) (by simpa using fits)

/-- What a transfer does where the store refuses nothing. -/
theorem transfer_granted (world : World) (source target : Address) (value : Word) :
    transfer .none source target value world =
      if value.isZero then .ok () world
      else if (world.balance source).lt value then .error (.custom "insufficient balance") world
      else if (((world.debited source value).balance target).add value).lt
          ((world.debited source value).balance target) then
        .error (.custom "balance overflow") (world.debited source value)
      else .ok () (world.moved source target value) := by
  unfold transfer
  by_cases zero : value.isZero = true
  · simp only [if_pos zero, pure_apply]
  simp only [if_neg zero]
  rw [bind_of_ok ((reads_balance source).granted rfl world)]
  by_cases poor : (world.balance source).lt value = true
  · simp only [if_pos poor]
    rfl
  simp only [if_neg poor]
  rw [bind_of_ok ((writes_balance source _).granted rfl world),
    bind_of_ok ((reads_balance target).granted rfl _), ← World.debited]
  split
  · rfl
  · exact (writes_balance target _).granted rfl _

/-- A store that refuses nothing makes every transfer that is described by `World.Moves`. -/
theorem transfer_of_granted {source target : Address} {value : Word} {world final : World}
    (granted : refusals = .none) (moves : World.Moves source target value world final) :
    transfer refusals source target value world = .ok () final := by
  rw [granted, transfer_granted]
  cases moves with
  | nothing zero => rw [if_pos zero]
  | something nonzero affordable fits =>
      rw [if_neg (Bool.eq_false_iff.mp nonzero), if_neg (Bool.eq_false_iff.mp affordable)]
      exact if_neg (Bool.eq_false_iff.mp fits)

end Access

end CancunMachine
