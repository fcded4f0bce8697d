import CancunMachine.Word.Bitwise

/-!
# Arithmetic of words

Arithmetic modulo `2 ^ 256`. Sums and differences carry from limb to limb. Products, quotients
and remainders settle the cheap cases (zero, one, powers of two, one-limb operands) with shifts,
masks and single-limb steps, and leave the rest to exact arithmetic on the numbers themselves.
-/

namespace CancunMachine

namespace Word

/-- The carry out of `sum = left + right`, read off the top bits. -/
def carryOut (left right sum : UInt64) : UInt64 :=
  ((left &&& right) ||| ((left ^^^ right) &&& ~~~sum)) >>> 63

/-- One limb of a sum with its outgoing carry. -/
def addLimb (left right carry : UInt64) : UInt64 × UInt64 :=
  let sum := left + right
  let total := sum + carry
  (total, carryOut left right sum ||| carryOut sum carry total)

def add (left right : Word) : Word :=
  let (sum0, carry0) := addLimb left.limb0 right.limb0 0
  let (sum1, carry1) := addLimb left.limb1 right.limb1 carry0
  let (sum2, carry2) := addLimb left.limb2 right.limb2 carry1
  let (sum3, _) := addLimb left.limb3 right.limb3 carry2
  ⟨sum0, sum1, sum2, sum3⟩

/-- One limb of a difference with its outgoing borrow. -/
def subLimb (left right borrow : UInt64) : UInt64 × UInt64 :=
  let difference := left - right
  (difference - borrow, if left < right || difference < borrow then 1 else 0)

def sub (left right : Word) : Word :=
  let (difference0, borrow0) := subLimb left.limb0 right.limb0 0
  let (difference1, borrow1) := subLimb left.limb1 right.limb1 borrow0
  let (difference2, borrow2) := subLimb left.limb2 right.limb2 borrow1
  let (difference3, _) := subLimb left.limb3 right.limb3 borrow2
  ⟨difference0, difference1, difference2, difference3⟩

def negate (word : Word) : Word := word.not.add one

/-- The absolute value of the two's-complement reading. -/
def abs (word : Word) : Word := if word.isNegative then word.negate else word

/-- One limb of a product with a single limb, and the outgoing carry. -/
def mulStep (limb factor : UInt64) (carry : Nat) : UInt64 × Nat :=
  let product := limb.toNat * factor.toNat + carry
  (UInt64.ofNat product, product / limbBase)

/-- Product with a single limb, modulo `2 ^ 256`. -/
def mulLimb (word : Word) (factor : UInt64) : Word :=
  let (product0, carry0) := mulStep word.limb0 factor 0
  let (product1, carry1) := mulStep word.limb1 factor carry0
  let (product2, carry2) := mulStep word.limb2 factor carry1
  let (product3, _) := mulStep word.limb3 factor carry2
  ⟨product0, product1, product2, product3⟩

def mul (left right : Word) : Word :=
  if left.isZero || right.isZero then zero
  else if left = one then right
  else if right = one then left
  else if left.isPowerOfTwo then right.shiftLeft left.trailingZeros
  else if right.isPowerOfTwo then left.shiftLeft right.trailingZeros
  else if right.fitsLimb then left.mulLimb right.limb0
  else if left.fitsLimb then right.mulLimb left.limb0
  else ofNat (left.toNat * right.toNat)

/-- What a division gives, unless its divisor is zero. -/
def dividing? (divisor : Nat) (result : Word) : Option Word :=
  if divisor = 0 then none else some result

/-- Unsigned quotient, refused where a division by zero would be carried out. -/
def div? (dividend divisor : Word) : Option Word :=
  if divisor.isZero || dividend.isZero then some zero
  else if divisor = one then some dividend
  else
    match dividend.compare divisor with
    | .eq => some one
    | .lt => some zero
    | .gt =>
        if divisor.isPowerOfTwo then some (dividend.shiftRight divisor.trailingZeros)
        else if dividend.fitsLimb then
          dividing? divisor.limb0.toNat (ofLimb (dividend.limb0 / divisor.limb0))
        else dividing? divisor.toNat (ofNat (dividend.toNat / divisor.toNat))

/-- Unsigned remainder, refused where a division by zero would be carried out. -/
def rem? (dividend divisor : Word) : Option Word :=
  if divisor.isZero || divisor = one then some zero
  else
    match dividend.compare divisor with
    | .eq => some zero
    | .lt => some dividend
    | .gt =>
        if divisor.isPowerOfTwo then some (dividend.and (divisor.sub one))
        else if dividend.fitsLimb then
          dividing? divisor.limb0.toNat (ofLimb (dividend.limb0 % divisor.limb0))
        else dividing? divisor.toNat (ofNat (dividend.toNat % divisor.toNat))

/-- Unsigned quotient; zero when the divisor is zero. -/
def div (dividend divisor : Word) : Word := (dividend.div? divisor).getD zero

/-- Unsigned remainder; zero when the divisor is zero. -/
def rem (dividend divisor : Word) : Word := (dividend.rem? divisor).getD zero

/-- Signed quotient, truncated toward zero; the smallest word over minus one wraps to itself. -/
def sdiv (dividend divisor : Word) : Word :=
  if dividend.isZero || divisor.isZero then zero
  else
    let quotient := dividend.abs.div divisor.abs
    if dividend.isNegative ^^ divisor.isNegative then quotient.negate else quotient

/-- Signed remainder, with the sign of the dividend. -/
def smod (dividend divisor : Word) : Word :=
  if dividend.isZero || divisor.isZero then zero
  else
    let remainder := dividend.abs.rem divisor.abs
    if dividend.isNegative then remainder.negate else remainder

/-- The remainder of the untruncated sum; zero when the modulus is zero. -/
def addMod (left right modulus : Word) : Word :=
  if modulus.isZero || modulus = one then zero
  else if modulus.isPowerOfTwo then (left.add right).and (modulus.sub one)
  else ofNat ((left.toNat + right.toNat) % modulus.toNat)

/-- The remainder of the untruncated product; zero when the modulus is zero. -/
def mulMod (left right modulus : Word) : Word :=
  if modulus.isZero || modulus = one || left.isZero || right.isZero then zero
  else if modulus.isPowerOfTwo then (left.mul right).and (modulus.sub one)
  else ofNat (left.toNat * right.toNat % modulus.toNat)

/-- Square and multiply: `remaining` bits of the exponent are still to be read, `square` is the
base raised to the place of the lowest of them, and `result` collects the factors. -/
def powLoop (exponent : Nat) : Nat → Word → Word → Word
  | 0, _, result => result
  | remaining + 1, square, result =>
      let next := if exponent % 2 = 1 then result.mul square else result
      match remaining with
      | 0 => next
      | _ => powLoop (exponent / 2) remaining (square.mul square) next

def exp (base exponent : Word) : Word :=
  if exponent.isZero then one
  else if base.isZero then zero
  else if base = one then one
  else if exponent = one then base
  else if base.isPowerOfTwo then
    let bits := exponent.toNatSaturating * base.trailingZeros
    if bits < 256 then one.shiftLeft bits else zero
  else powLoop exponent.toNat exponent.bitLength base one

end Word

end CancunMachine
