import CancunMachine.Word.Basic

/-!
# Bitwise operations on words

Bit operations, comparisons and shifts, limb by limb. Shifts move whole limbs first and then
merge neighbouring limbs once; a comparison is decided by the most significant limbs that
differ.
-/

namespace CancunMachine

namespace Word

def and (left right : Word) : Word :=
  ⟨left.limb0 &&& right.limb0, left.limb1 &&& right.limb1,
    left.limb2 &&& right.limb2, left.limb3 &&& right.limb3⟩

def or (left right : Word) : Word :=
  ⟨left.limb0 ||| right.limb0, left.limb1 ||| right.limb1,
    left.limb2 ||| right.limb2, left.limb3 ||| right.limb3⟩

def xor (left right : Word) : Word :=
  ⟨left.limb0 ^^^ right.limb0, left.limb1 ^^^ right.limb1,
    left.limb2 ^^^ right.limb2, left.limb3 ^^^ right.limb3⟩

def not (word : Word) : Word :=
  ⟨~~~word.limb0, ~~~word.limb1, ~~~word.limb2, ~~~word.limb3⟩

/-- Byte `index` counted from the most significant end; zero from index 32 on. -/
def byte (index word : Word) : Word :=
  if index.fitsLimb && index.limb0 < 32 then
    let position := index.limb0.toNat
    let shift := UInt64.ofNat ((7 - position % 8) * 8)
    ofLimb ((word.limb (3 - position / 8) >>> shift) &&& 0xff)
  else
    zero

/-- Unsigned comparison, from the most significant limb down. -/
def compare (left right : Word) : Ordering :=
  (Ord.compare left.limb3 right.limb3).then <|
    (Ord.compare left.limb2 right.limb2).then <|
      (Ord.compare left.limb1 right.limb1).then <|
        Ord.compare left.limb0 right.limb0

/-- Two's-complement comparison: the top limbs compare as signed numbers. -/
def compareSigned (left right : Word) : Ordering :=
  (Ord.compare left.limb3.toInt64 right.limb3.toInt64).then <|
    (Ord.compare left.limb2 right.limb2).then <|
      (Ord.compare left.limb1 right.limb1).then <|
        Ord.compare left.limb0 right.limb0

def lt (left right : Word) : Bool := left.compare right == .lt

def gt (left right : Word) : Bool := left.compare right == .gt

def slt (left right : Word) : Bool := left.compareSigned right == .lt

def sgt (left right : Word) : Bool := left.compareSigned right == .gt

/-- The number of places of a shift, if it is below 256. -/
def shiftAmount (shift : Word) : Option Nat :=
  if shift.fitsLimb && shift.limb0 < 256 then some shift.limb0.toNat else none

/-- A limb of a left shift: `current` moves up by `bits` places and takes in `below`'s top. -/
def mergeLeft (current below : UInt64) (bits : Nat) : UInt64 :=
  if bits = 0 then current
  else (current <<< UInt64.ofNat bits) ||| (below >>> UInt64.ofNat (64 - bits))

/-- A limb of a right shift: `current` moves down by `bits` places and takes in `above`'s bottom. -/
def mergeRight (current above : UInt64) (bits : Nat) : UInt64 :=
  if bits = 0 then current
  else (current >>> UInt64.ofNat bits) ||| (above <<< UInt64.ofNat (64 - bits))

/-- Limb `index` after moving every limb up by `count` places. -/
def limbMovedUp (word : Word) (count index : Nat) : UInt64 :=
  if count ≤ index then word.limb (index - count) else 0

def shiftLeft (word : Word) (amount : Nat) : Word :=
  let count := amount / 64
  let bits := amount % 64
  ⟨mergeLeft (word.limbMovedUp count 0) 0 bits,
    mergeLeft (word.limbMovedUp count 1) (word.limbMovedUp count 0) bits,
    mergeLeft (word.limbMovedUp count 2) (word.limbMovedUp count 1) bits,
    mergeLeft (word.limbMovedUp count 3) (word.limbMovedUp count 2) bits⟩

def shiftRight (word : Word) (amount : Nat) : Word :=
  let count := amount / 64
  let bits := amount % 64
  ⟨mergeRight (word.limb count) (word.limb (count + 1)) bits,
    mergeRight (word.limb (count + 1)) (word.limb (count + 2)) bits,
    mergeRight (word.limb (count + 2)) (word.limb (count + 3)) bits,
    mergeRight (word.limb (count + 3)) (word.limb (count + 4)) bits⟩

/-- Arithmetic right shift by fewer than 256 places: the vacated bits copy the sign. -/
def shiftRightSigned (word : Word) (amount : Nat) : Word :=
  if word.isNegative && amount != 0 then
    (word.shiftRight amount).or (max.shiftRight amount).not
  else
    word.shiftRight amount

/-- Left shift by any word. -/
def shl (shift word : Word) : Word :=
  match shiftAmount shift with
  | some amount => word.shiftLeft amount
  | none => zero

/-- Logical right shift by any word. -/
def shr (shift word : Word) : Word :=
  match shiftAmount shift with
  | some amount => word.shiftRight amount
  | none => zero

/-- Arithmetic right shift by any word. -/
def sar (shift word : Word) : Word :=
  match shiftAmount shift with
  | some amount => word.shiftRightSigned amount
  | none => if word.isNegative then max else zero

/-- Extends the sign of byte `index`, counted from the least significant end. -/
def signExtend (index word : Word) : Word :=
  if index.fitsLimb && index.limb0 < 31 then
    let amount := (31 - index.limb0.toNat) * 8
    (word.shiftLeft amount).shiftRightSigned amount
  else
    word

/-- The number of set bits of a number, looking at `places` bits. -/
def countOnes : Nat → Nat → Nat
  | 0, _ => 0
  | places + 1, value => value % 2 + countOnes places (value / 2)

/-- Whether the limbs have exactly one set bit together. -/
def isPowerOfTwo (word : Word) : Bool :=
  countOnes 64 word.limb0.toNat + countOnes 64 word.limb1.toNat + countOnes 64 word.limb2.toNat +
    countOnes 64 word.limb3.toNat == 1

/-- The lowest set bit of a number, looking at `places` bits. -/
def lowestBit : Nat → Nat → Nat
  | 0, _ => 0
  | places + 1, value => if value % 2 = 1 then 0 else lowestBit places (value / 2) + 1

/-- The number of zero bits below the lowest set bit; 256 for zero. -/
def trailingZeros (word : Word) : Nat :=
  if word.limb0 ≠ 0 then lowestBit 64 word.limb0.toNat
  else if word.limb1 ≠ 0 then 64 + lowestBit 64 word.limb1.toNat
  else if word.limb2 ≠ 0 then 128 + lowestBit 64 word.limb2.toNat
  else 192 + lowestBit 64 word.limb3.toNat

def bitLength (word : Word) : Nat :=
  if word.limb3 ≠ 0 then 193 + word.limb3.toNat.log2
  else if word.limb2 ≠ 0 then 129 + word.limb2.toNat.log2
  else if word.limb1 ≠ 0 then 65 + word.limb1.toNat.log2
  else if word.limb0 ≠ 0 then 1 + word.limb0.toNat.log2
  else 0

def byteLength (word : Word) : Nat :=
  (word.bitLength + 7) / 8

end Word

end CancunMachine
