import Mathlib.Tactic
import CancunMachine.Proofs.World.Access

/-!
# What a change of the world leaves alone

The accounts as `World.account?` shows them after each kind of change. Balance and nonce of an
account change only where they are written.
-/

namespace CancunMachine

namespace World

variable {world : World} {address other : Address}

theorem account?_setAccount (world : World) (address other : Address) (account : Account) :
    (world.setAccount address account).account? other =
      if other = address then some account else world.account? other :=
  Table.get?_insert _ _ _ _

@[simp]
theorem accounts_record (world : World) (undo : Undo) :
    (world.record undo).accounts = world.accounts := rfl

@[simp]
theorem account?_record (world : World) (undo : Undo) (address : Address) :
    (world.record undo).account? address = world.account? address := rfl

theorem account?_updateHeader (world : World) (address other : Address)
    (change : Account → Account) :
    (world.updateHeader address change).account? other =
      if other = address then some (change ((world.account? address).getD .empty))
      else world.account? other := by
  simp only [updateHeader, account?_setAccount, account?_record]

theorem balance_setBalance (world : World) (address other : Address) (balance : Word) :
    (world.setBalance address balance).balance other =
      if other = address then balance else world.balance other := by
  simp only [World.balance, setBalance, account?_updateHeader]
  split <;> simp

@[simp]
theorem balance_setNonce (world : World) (address other : Address) (nonce : UInt64) :
    (world.setNonce address nonce).balance other = world.balance other := by
  simp only [World.balance, setNonce, account?_updateHeader]
  split
  · rename_i same
    simp [same]
  · rfl

@[simp]
theorem balance_setCode (world : World) (address other : Address) (code : ByteArray) :
    (world.setCode address code).balance other = world.balance other := by
  simp only [World.balance, setCode, account?_updateHeader]
  split
  · rename_i same
    simp [same]
  · rfl

theorem nonce_setNonce (world : World) (address other : Address) (nonce : UInt64) :
    (world.setNonce address nonce).nonce other =
      if other = address then nonce else world.nonce other := by
  simp only [World.nonce, setNonce, account?_updateHeader]
  split <;> simp

theorem code_setNonce (world : World) (address other : Address) (nonce : UInt64) :
    (world.setNonce address nonce).code other = world.code other := by
  simp only [World.code, setNonce, account?_updateHeader]
  split
  · rename_i same
    simp [same]
  · rfl

theorem codeHash_setNonce (world : World) (address other : Address) (nonce : UInt64) :
    (world.setNonce address nonce).codeHash other = world.codeHash other := by
  simp only [World.codeHash, setNonce, account?_updateHeader]
  split
  · rename_i same
    simp [same]
  · rfl

theorem nonce_setCode (world : World) (address other : Address) (code : ByteArray) :
    (world.setCode address code).nonce other = world.nonce other := by
  simp only [World.nonce, setCode, account?_updateHeader]
  split
  · rename_i same
    simp [same]
  · rfl

theorem code_setCode (world : World) (address other : Address) (code : ByteArray) :
    (world.setCode address code).code other =
      if other = address then code else world.code other := by
  simp only [World.code, setCode, account?_updateHeader]
  split <;> simp

theorem codeHash_setCode (world : World) (address other : Address) (code : ByteArray) :
    (world.setCode address code).codeHash other =
      if other = address then keccak code else world.codeHash other := by
  simp only [World.codeHash, setCode, account?_updateHeader]
  split <;> simp

end World

end CancunMachine
