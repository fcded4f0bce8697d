/-!
# Byte strings

Reading past the end gives zeros, a window of a string can be cut out with or without padding,
and a window can be overwritten in place.
-/

namespace CancunMachine

/-- Byte strings are compared as a whole. -/
instance (priority := 2000) byteStringDecidableEq : DecidableEq ByteArray :=
  ByteArray.instDecidableEq

namespace Bytes

/-- The byte at `position`, zero beyond the end. -/
def get (bytes : ByteArray) (position : Nat) : UInt8 :=
  if within : position < bytes.size then bytes[position] else 0

/-- The byte `distance` places before the last one, zero beyond the start. -/
def fromEnd (bytes : ByteArray) (distance : Nat) : UInt8 :=
  if distance < bytes.size then Bytes.get bytes (bytes.size - 1 - distance) else 0

def zeros (size : Nat) : ByteArray := ⟨Array.replicate size 0⟩

theorem size_zeros (size : Nat) : (zeros size).size = size := by
  simp only [zeros, ByteArray.size, Array.size_replicate]

/-- The bytes from `offset` on; empty when `offset` is beyond the end. -/
def dropFirst (bytes : ByteArray) (offset : Nat) : ByteArray :=
  bytes.extract offset bytes.size

/-- The bytes from `offset` up to `offset + size`, if all of them exist. -/
def window? (bytes : ByteArray) (offset size : Nat) : Option ByteArray :=
  if offset + size ≤ bytes.size then some (bytes.extract offset (offset + size)) else none

/-- The first `size` bytes, filled up with zeros. -/
def resized (bytes : ByteArray) (size : Nat) : ByteArray :=
  let kept := bytes.extract 0 size
  kept ++ zeros (size - kept.size)

/-- Writes `data` over the bytes from `offset` on. -/
def overwrite (bytes : ByteArray) (offset : Nat) (data : ByteArray) : ByteArray :=
  data.copySlice 0 bytes offset data.size

theorem size_le_size_overwrite (bytes : ByteArray) (offset : Nat) (data : ByteArray) :
    bytes.size ≤ (overwrite bytes offset data).size := by
  simp only [overwrite, ByteArray.copySlice_eq_append, ByteArray.size_append,
    ByteArray.size_extract, ByteArray.size_data]
  omega

def ofList (bytes : List UInt8) : ByteArray := ⟨bytes.toArray⟩

/-- The number whose big-endian digits in base 256 are the given bytes. -/
def toNat (bytes : ByteArray) : Nat :=
  bytes.data.foldl (fun value byte => value * 256 + byte.toNat) 0

end Bytes

end CancunMachine
