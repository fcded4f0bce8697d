/-!
# Words

Words of the machine: the numbers below `2 ^ 256`, held as four 64-bit limbs with the least
significant limb first. `Word.toNat` is the number a word stands for; every operation on words
is meant to be read through it.
-/

namespace CancunMachine

/-- A 256-bit word as four limbs, least significant first. -/
structure Word where
  limb0 : UInt64
  limb1 : UInt64
  limb2 : UInt64
  limb3 : UInt64
deriving DecidableEq

namespace Word

/-- The number of values of a limb, `2 ^ 64`. -/
def limbBase : Nat := 0x10000000000000000

/-- The number of words, `2 ^ 256`. -/
def count : Nat := limbBase * limbBase * limbBase * limbBase

def toNat (word : Word) : Nat :=
  word.limb0.toNat + limbBase * (word.limb1.toNat + limbBase * (word.limb2.toNat
    + limbBase * word.limb3.toNat))

/-- The word of a number, modulo `2 ^ 256`. -/
def ofNat (value : Nat) : Word where
  limb0 := UInt64.ofNat value
  limb1 := UInt64.ofNat (value / limbBase)
  limb2 := UInt64.ofNat (value / limbBase / limbBase)
  limb3 := UInt64.ofNat (value / limbBase / limbBase / limbBase)

def zero : Word := ⟨0, 0, 0, 0⟩

def one : Word := ⟨1, 0, 0, 0⟩

/-- The largest word, all bits set. -/
def max : Word := ⟨0xffffffffffffffff, 0xffffffffffffffff, 0xffffffffffffffff, 0xffffffffffffffff⟩

instance : Inhabited Word := ⟨zero⟩

def ofLimb (value : UInt64) : Word := ⟨value, 0, 0, 0⟩

/-- One for true and zero for false. -/
def ofBool (flag : Bool) : Word := if flag then one else zero

/-- Limb `index`, counted from the least significant one; zero beyond the fourth. -/
def limb (word : Word) : Nat → UInt64
  | 0 => word.limb0
  | 1 => word.limb1
  | 2 => word.limb2
  | 3 => word.limb3
  | _ => 0

def limbs (word : Word) : List UInt64 :=
  [word.limb0, word.limb1, word.limb2, word.limb3]

def isZero (word : Word) : Bool :=
  (word.limb0 ||| word.limb1 ||| word.limb2 ||| word.limb3) == 0

/-- Whether the value fits in the lowest limb. -/
def fitsLimb (word : Word) : Bool :=
  (word.limb1 ||| word.limb2 ||| word.limb3) == 0

/-- The lowest limb, or the largest limb when the value does not fit. -/
def toLimbSaturating (word : Word) : UInt64 :=
  if word.fitsLimb then word.limb0 else 0xffffffffffffffff

/-- The value as a position, or `2 ^ 64 - 1` when it does not fit in 64 bits. -/
def toNatSaturating (word : Word) : Nat :=
  word.toLimbSaturating.toNat

/-- The value as a position, if it fits in 64 bits. -/
def toPosition? (word : Word) : Option Nat :=
  if word.fitsLimb then some word.limb0.toNat else none

/-- The sign bit of the two's-complement reading. -/
def isNegative (word : Word) : Bool :=
  word.limb3 >>> 63 == 1

/-- The number a word stands for in two's complement. -/
def toInt (word : Word) : Int :=
  if word.isNegative then (word.toNat : Int) - count else word.toNat

/-- Words below this bound are kept in a shared table. -/
def sharedBound : Nat := 64

/-- The table of the words below `sharedBound`. -/
def shared : Array Word :=
  (Array.range sharedBound).map fun value => ofNat value

/-- The same word, taken from the shared table when it is small. -/
def intern (word : Word) : Word :=
  if word.fitsLimb then (shared[word.limb0.toNat]?).getD word else word

end Word

end CancunMachine
