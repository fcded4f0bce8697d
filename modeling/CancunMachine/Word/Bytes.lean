import CancunMachine.Bytes
import CancunMachine.Word.Basic

/-!
# Words as byte strings

The first byte is the most significant one. Reading takes the low 32 bytes of any string and treats a
shorter one as if zeros stood before it.
-/

namespace CancunMachine

namespace Word

/-- Appends the eight bytes of a limb, most significant first. -/
def pushLimb (bytes : ByteArray) (limb : UInt64) : ByteArray :=
  bytes.push (limb >>> 56).toUInt8
    |>.push (limb >>> 48).toUInt8
    |>.push (limb >>> 40).toUInt8
    |>.push (limb >>> 32).toUInt8
    |>.push (limb >>> 24).toUInt8
    |>.push (limb >>> 16).toUInt8
    |>.push (limb >>> 8).toUInt8
    |>.push limb.toUInt8

/-- The 32 bytes of a word, most significant first. -/
def toBytes (word : Word) : ByteArray :=
  pushLimb (pushLimb (pushLimb (pushLimb ByteArray.empty word.limb3) word.limb2) word.limb1)
    word.limb0

theorem pushLimb_size (bytes : ByteArray) (limb : UInt64) :
    (pushLimb bytes limb).size = bytes.size + 8 := by
  simp [pushLimb]

theorem toBytes_size (word : Word) : word.toBytes.size = 32 := by
  simp [toBytes, pushLimb_size]

/-- The limb read from the eight bytes that end `8 * index` places before the end. -/
def limbFromEnd (bytes : ByteArray) (index : Nat) : UInt64 :=
  (List.range 8).foldr
    (fun place high => high * 256 + (Bytes.fromEnd bytes (8 * index + place)).toUInt64) 0

/-- The word of a big-endian byte string, modulo `2 ^ 256`. -/
def ofBytes (bytes : ByteArray) : Word :=
  ⟨limbFromEnd bytes 0, limbFromEnd bytes 1, limbFromEnd bytes 2, limbFromEnd bytes 3⟩

end Word

end CancunMachine
