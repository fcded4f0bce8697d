import CancunMachine.Hash

/-!
# The Keccak-256 digest

The state is a square of 5 by 5 lanes of 64 bits, lane `(x, y)` at index `x + 5 * y`; each block
of 136 bytes is added into the first seventeen lanes and followed by the 24 rounds of the
permutation.
-/

namespace CancunMachine

namespace Keccak

/-- The state: 25 lanes of 64 bits. -/
abbrev Lanes := Vector UInt64 25

/-- The bytes absorbed between two permutations. -/
def rate : Nat := 136

/-- The constants added to lane `(0, 0)`, one per round. -/
def roundConstants : List UInt64 :=
  [0x0000000000000001, 0x0000000000008082, 0x800000000000808a, 0x8000000080008000,
    0x000000000000808b, 0x0000000080000001, 0x8000000080008081, 0x8000000000008009,
    0x000000000000008a, 0x0000000000000088, 0x0000000080008009, 0x000000008000000a,
    0x000000008000808b, 0x800000000000008b, 0x8000000000008089, 0x8000000000008003,
    0x8000000000008002, 0x8000000000000080, 0x000000000000800a, 0x800000008000000a,
    0x8000000080008081, 0x8000000000008080, 0x0000000080000001, 0x8000000080008008]

/-- The rotation of each lane. -/
def rotations : Vector UInt64 25 :=
  #v[0, 1, 62, 28, 27, 36, 44, 6, 55, 20, 3, 10, 43, 25, 39, 41, 45, 15, 21, 8, 18, 2, 61, 56, 14]

def rotateLeft (lane amount : UInt64) : UInt64 :=
  if amount = 0 then lane else (lane <<< amount) ||| (lane >>> (64 - amount))

/-- The lane in column `x` and row `y`, both taken modulo five. -/
def lane (state : Lanes) (x y : Nat) : UInt64 :=
  state[x % 5 + 5 * (y % 5)]

def parity (state : Lanes) (x : Nat) : UInt64 :=
  lane state x 0 ^^^ lane state x 1 ^^^ lane state x 2 ^^^ lane state x 3 ^^^ lane state x 4

/-- Adds to every lane the parities of two neighbouring columns. -/
def mixColumns (state : Lanes) : Lanes :=
  let parities : Vector UInt64 5 := .ofFn fun x => parity state x
  let effects : Vector UInt64 5 := .ofFn fun x =>
    parities[(x.val + 4) % 5] ^^^ rotateLeft parities[(x.val + 1) % 5] 1
  .ofFn fun index => state[index] ^^^ effects[index.val % 5]

/-- Rotates the lanes and moves lane `(x, y)` to column `y`, row `2 * x + 3 * y`. -/
def rotateAndMove (state : Lanes) : Lanes :=
  .ofFn fun index =>
    let x := index.val % 5
    let y := index.val / 5
    let source := (x + 3 * y) % 5 + 5 * x
    if within : source < 25 then rotateLeft state[source] rotations[source] else 0

/-- Combines each lane with the next two of its row. -/
def combineRows (state : Lanes) : Lanes :=
  .ofFn fun index =>
    let x := index.val % 5
    let y := index.val / 5
    lane state x y ^^^ (~~~(lane state (x + 1) y) &&& lane state (x + 2) y)

def round (state : Lanes) (constant : UInt64) : Lanes :=
  let mixed := combineRows (rotateAndMove (mixColumns state))
  mixed.set 0 (mixed[0] ^^^ constant)

def permute (state : Lanes) : Lanes := roundConstants.foldl round state

/-- The number of blocks after padding. -/
def blockCount (size : Nat) : Nat := size / rate + 1

/-- The byte at `position` of the padded message: a one bit follows the data and a one bit ends
the last block. -/
def paddedByte (data : ByteArray) (position : Nat) : UInt8 :=
  let start := if position = data.size then 0x01 else Bytes.get data position
  if position + 1 = blockCount data.size * rate then start ||| 0x80 else start

/-- The eight padded bytes at `position` as a little-endian lane. -/
def paddedLane (data : ByteArray) (position : Nat) : UInt64 :=
  (List.range 8).foldr
    (fun place high => high * 256 + (paddedByte data (position + place)).toUInt64) 0

/-- Adds one block into the state and permutes it. -/
def absorb (data : ByteArray) (state : Lanes) (block : Nat) : Lanes :=
  permute <| .ofFn fun index =>
    if index.val < 17 then state[index] ^^^ paddedLane data (block * rate + 8 * index.val)
    else state[index]

/-- The bytes of a lane in the opposite order. -/
def reverseBytes (lane : UInt64) : UInt64 :=
  (List.range 8).foldl
    (fun reversed place => reversed * 256 + ((lane >>> UInt64.ofNat (8 * place)) &&& 0xff)) 0

end Keccak

def keccak (data : ByteArray) : Hash :=
  let state := (List.range (Keccak.blockCount data.size)).foldl (Keccak.absorb data)
    (Vector.replicate 25 0)
  Word.toHash ⟨Keccak.reverseBytes state[3], Keccak.reverseBytes state[2],
    Keccak.reverseBytes state[1], Keccak.reverseBytes state[0]⟩

end CancunMachine
