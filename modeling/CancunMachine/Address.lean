import CancunMachine.Hex
import CancunMachine.Word.Bytes

/-!
# Account addresses

Addresses are the numbers below `2 ^ 160`. A word becomes an address by dropping its upper 96
bits, and an address becomes a word by filling them with zeros.
-/

namespace CancunMachine

/-- A 160-bit address: two limbs and a half, least significant first. -/
structure Address where
  low : UInt64
  middle : UInt64
  high : UInt32
deriving DecidableEq, Inhabited

namespace Address

def toNat (address : Address) : Nat :=
  address.low.toNat + Word.limbBase * (address.middle.toNat + Word.limbBase * address.high.toNat)

/-- The address of a number, modulo `2 ^ 160`. -/
def ofNat (value : Nat) : Address where
  low := UInt64.ofNat value
  middle := UInt64.ofNat (value / Word.limbBase)
  high := UInt32.ofNat (value / Word.limbBase / Word.limbBase)

def zero : Address := ⟨0, 0, 0⟩

def toWord (address : Address) : Word :=
  ⟨address.low, address.middle, address.high.toUInt64, 0⟩

/-- The 20 bytes of an address, most significant first. -/
def toBytes (address : Address) : ByteArray :=
  address.toWord.toBytes.extract 12 32

/-- The address of the last 20 bytes of a string. -/
def ofBytes (bytes : ByteArray) : Address :=
  ⟨Word.limbFromEnd bytes 0, Word.limbFromEnd bytes 1, (Word.limbFromEnd bytes 2).toUInt32⟩

/-- The usual text of an address: `0x` and forty digits. -/
def text (address : Address) : String :=
  "0x" ++ Hex.ofBytes address.toBytes

/-- Addresses in increasing order, each once. -/
def sortedDistinct (addresses : List Address) : List Address :=
  addresses.eraseDups.mergeSort fun left right => left.toNat ≤ right.toNat

end Address

/-- The low 160 bits of a word. -/
def Word.toAddress (word : Word) : Address :=
  ⟨word.limb0, word.limb1, word.limb2.toUInt32⟩

end CancunMachine
