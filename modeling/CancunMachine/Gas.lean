import CancunMachine.Memory
import CancunMachine.Word.Arithmetic

/-!
# Prices

A schedule gives the price of every primitive step as a 64-bit number; the cost of an instruction
is a sum of such prices, and a sum that does not fit in 64 bits can never be paid, so it fails as
running out of gas.
-/

namespace CancunMachine

def maxUInt64 : UInt64 := 0xffffffffffffffff

/-- The sum, if it fits in 64 bits. -/
def addWithin? (left right : UInt64) : Option UInt64 :=
  if left ≤ maxUInt64 - right then some (left + right) else none

/-- The sum, or the largest 64-bit number. -/
def addSaturating (left right : UInt64) : UInt64 :=
  (addWithin? left right).getD maxUInt64

/-- The difference, or zero. -/
def subSaturating (left right : UInt64) : UInt64 :=
  if right ≤ left then left - right else 0

/-- The product, if it fits in 64 bits. -/
def mulWithin? (left right : UInt64) : Option UInt64 :=
  if left.toNat * right.toNat < UInt64.size then some (left * right) else none

/-- Signed 64-bit numbers: a result beyond either end becomes that end. -/
def clampInt64 (value : Int) : Int :=
  max (-0x8000000000000000) (min value 0x7fffffffffffffff)

/-- A 64-bit number read as a signed one, or zero when it does not fit. -/
def signedOrZero (value : UInt64) : Int :=
  if value.toNat < 0x8000000000000000 then value.toNat else 0

namespace Gas

/-- An option whose absence means that the cost can never be paid. -/
def payable : Option UInt64 → Except Halt UInt64
  | some cost => .ok cost
  | none => .error .outOfGas

def plus (left right : UInt64) : Except Halt UInt64 := payable (addWithin? left right)

def sum (costs : List UInt64) : Except Halt UInt64 := costs.foldlM plus 0

def times (count : Nat) (price : UInt64) : Except Halt UInt64 :=
  if count < positionLimit then payable (mulWithin? (UInt64.ofNat count) price) else .error .outOfGas

/-- The gas a child may take: all but one 64th of what is left, at most what is asked for. -/
def forChild (remaining requested : UInt64) : UInt64 :=
  min (subSaturating remaining (remaining / 64)) requested

end Gas

inductive Tier
  | zero
  | base
  | veryLow
  | low
  | mid
  | high
  | ext
deriving DecidableEq

structure GasSchedule where
  tier : Tier → UInt64
  jumpdest : UInt64
  copyWord : UInt64
  expStatic : UInt64
  expByte : UInt64
  keccakStatic : UInt64
  keccakWord : UInt64
  logStatic : UInt64
  logTopic : UInt64
  logDataByte : UInt64
  warmAccess : UInt64
  coldAccountAccess : UInt64
  coldSload : UInt64
  /-- The gas that must be exceeded before a storage write may run at all. -/
  sstoreSentry : UInt64
  sstoreSet : UInt64
  sstoreReset : UInt64
  sstoreClears : UInt64
  transientStorage : UInt64
  createBase : UInt64
  initcodeWord : UInt64
  codeDepositByte : UInt64
  callBase : UInt64
  callValue : UInt64
  newAccount : UInt64
  callStipend : UInt64
  selfdestruct : UInt64
  blockhash : UInt64
  blobhash : UInt64

namespace GasSchedule

/-- The prices in force since the Cancun fork. -/
def cancun : GasSchedule where
  tier
    | .zero => 0
    | .base => 2
    | .veryLow => 3
    | .low => 5
    | .mid => 8
    | .high => 10
    | .ext => 20
  jumpdest := 1
  copyWord := 3
  expStatic := 10
  expByte := 50
  keccakStatic := 30
  keccakWord := 6
  logStatic := 375
  logTopic := 375
  logDataByte := 8
  warmAccess := 100
  coldAccountAccess := 2600
  coldSload := 2100
  sstoreSentry := 2300
  sstoreSet := 20000
  sstoreReset := 5000
  sstoreClears := 4800
  transientStorage := 100
  createBase := 32000
  initcodeWord := 2
  codeDepositByte := 200
  callBase := 0
  callValue := 9000
  newAccount := 25000
  callStipend := 2300
  selfdestruct := 5000
  blockhash := 20
  blobhash := 3

instance : Inhabited GasSchedule := ⟨cancun⟩

/-- The surcharge of a destruction whose beneficiary has to be created, in every schedule. -/
def selfdestructNewAccount : UInt64 := 25000

def accountAccess (schedule : GasSchedule) (cold : Bool) : UInt64 :=
  if cold then schedule.coldAccountAccess else schedule.warmAccess

def sload (schedule : GasSchedule) (cold : Bool) : UInt64 :=
  if cold then schedule.coldSload else schedule.warmAccess

/-- The price of a storage write, without the surcharge for a cold slot. Only the first change of
a slot within a transaction pays for the write itself. -/
def sstoreCost (schedule : GasSchedule) (initial current new : Word) : UInt64 :=
  if new = current ∨ current ≠ initial then schedule.warmAccess
  else if initial.isZero then schedule.sstoreSet
  else subSaturating schedule.sstoreReset schedule.coldSload

/-- What a write that restores the initial value gives back. -/
def sstoreRestored (schedule : GasSchedule) (initial : Word) : UInt64 :=
  if initial.isZero then subSaturating schedule.sstoreSet schedule.warmAccess
  else subSaturating (subSaturating schedule.sstoreReset schedule.coldSload) schedule.warmAccess

/-- The change of the refund counter by a storage write. -/
def sstoreRefund (schedule : GasSchedule) (initial current new : Word) : Int :=
  let clears := signedOrZero schedule.sstoreClears
  if current = new then 0
  else if current = initial then
    if !initial.isZero && new.isZero then clears else 0
  else
    let cleared :=
      if initial.isZero then 0
      else if current.isZero then -clears
      else if new.isZero then clears
      else 0
    if new = initial then
      clampInt64 (cleared + signedOrZero (schedule.sstoreRestored initial))
    else cleared

/-- Copies into memory from the call data, the code, the return data or the memory itself. -/
def copy (schedule : GasSchedule) (needed current size : Nat) : Except Halt UInt64 := do
  Gas.sum [schedule.tier .veryLow, ← Gas.times (wordCount size) schedule.copyWord,
    ← Memory.expansionPrice needed current]

/-- Copies of another account's code. -/
def extcodecopy (schedule : GasSchedule) (size needed current : Nat) (cold : Bool) :
    Except Halt UInt64 := do
  Gas.sum [schedule.accountAccess cold, ← Gas.times (wordCount size) schedule.copyWord,
    ← Memory.expansionPrice needed current]

/-- Loads and stores of one memory word or byte. -/
def memoryAccess (schedule : GasSchedule) (needed current : Nat) : Except Halt UInt64 := do
  Gas.sum [schedule.tier .veryLow, ← Memory.expansionPrice needed current]

def exp (schedule : GasSchedule) (exponent : Word) : Except Halt UInt64 := do
  Gas.sum [schedule.expStatic, ← Gas.times exponent.byteLength schedule.expByte]

def keccak256 (schedule : GasSchedule) (needed current size : Nat) : Except Halt UInt64 := do
  Gas.sum [schedule.keccakStatic, ← Gas.times (wordCount size) schedule.keccakWord,
    ← Memory.expansionPrice needed current]

def log (schedule : GasSchedule) (needed current size topics : Nat) : Except Halt UInt64 := do
  Gas.sum [schedule.logStatic, ← Gas.times topics schedule.logTopic,
    ← Gas.times size schedule.logDataByte, ← Memory.expansionPrice needed current]

/-- Leaving a frame with output. -/
def exit (_schedule : GasSchedule) (needed current : Nat) : Except Halt UInt64 :=
  Memory.expansionPrice needed current

/-- A creation, without the gas of the initcode itself. -/
def create (schedule : GasSchedule) (needed current initcodeSize : Nat) (hashesInitcode : Bool) :
    Except Halt UInt64 := do
  let words := wordCount initcodeSize
  let hashing ← if hashesInitcode then Gas.times words schedule.keccakWord else .ok 0
  Gas.sum [schedule.createBase, ← Gas.times words schedule.initcodeWord, hashing,
    ← Memory.expansionPrice needed current]

/-- A call, without the account access and the gas of the callee. -/
def call (schedule : GasSchedule) (needed current : Nat) (movesValue createsAccount : Bool) :
    Except Halt UInt64 := do
  Gas.sum [schedule.callBase, ← Memory.expansionPrice needed current,
    if movesValue then schedule.callValue else 0,
    if movesValue && createsAccount then schedule.newAccount else 0]

def codeDeposit (schedule : GasSchedule) (size : Nat) : Except Halt UInt64 :=
  Gas.times size schedule.codeDepositByte

/-- Destroying an account; this price saturates. -/
def selfdestructCost (schedule : GasSchedule) (cold createsAccount : Bool) : UInt64 :=
  let accessed := if cold then addSaturating schedule.selfdestruct schedule.coldAccountAccess
    else schedule.selfdestruct
  if createsAccount then addSaturating accessed selfdestructNewAccount else accessed

end GasSchedule

end CancunMachine
