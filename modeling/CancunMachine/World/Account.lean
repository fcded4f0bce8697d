import CancunMachine.Keccak
import CancunMachine.Address
import CancunMachine.Table
import CancunMachine.Word.Arithmetic

/-!
# Accounts

An account has a header, its code and its storage. The header keeps the digest of the code beside
it; whether there is code is read off the digest.
-/

namespace CancunMachine

/-- The digest of no bytes. -/
def emptyCodeHash : Hash where
  bytes := ⟨#[
    0xc5, 0xd2, 0x46, 0x01, 0x86, 0xf7, 0x23, 0x3c, 0x92, 0x7e, 0x7d, 0xb2, 0xdc, 0xc7, 0x03, 0xc0,
    0xe5, 0x00, 0xb6, 0x53, 0xca, 0x82, 0x27, 0x3b, 0x7b, 0xfa, 0xd8, 0x04, 0x5d, 0x85, 0xa4, 0x70]⟩
  size_eq := rfl

/-- Balance, nonce and digest of the code of an account. -/
structure AccountInfo where
  balance : Word
  nonce : UInt64
  codeHash : Hash

namespace AccountInfo

def hasCode (info : AccountInfo) : Bool := info.codeHash != emptyCodeHash

/-- No balance, no transactions and no code. -/
def isEmpty (info : AccountInfo) : Bool :=
  info.balance.isZero && info.nonce == 0 && !info.hasCode

end AccountInfo

/-- An account with its code and storage. -/
structure Account extends AccountInfo where
  code : ByteArray
  storage : Table Word Word
  codeHash := keccak code

namespace Account

/-- An account nothing was ever done to. -/
def empty : Account where
  balance := .zero
  nonce := 0
  codeHash := emptyCodeHash
  code := ByteArray.empty
  storage := .empty

instance : Inhabited Account := ⟨empty⟩

theorem hasCode_empty : empty.hasCode = false := bne_self_eq_false emptyCodeHash

/-- All of an account but its storage. -/
def header (account : Account) : AccountInfo × ByteArray := (account.toAccountInfo, account.code)

/-- The value of a storage slot; a slot never written holds zero. -/
def slot (account : Account) (key : Word) : Word := (account.storage.get? key).getD .zero

def setSlot (account : Account) (key value : Word) : Account :=
  { account with storage := account.storage.insert key value }

end Account

end CancunMachine
