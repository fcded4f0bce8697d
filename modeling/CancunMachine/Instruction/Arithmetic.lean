import CancunMachine.Machine.Basic

/-!
# Instructions on the stack

Instructions that only compute on the stack: the price is taken first, then the operands, and
then the result is pushed. Exponentiation looks at its operands first, because its price depends
on the exponent.
-/

namespace CancunMachine

namespace Instruction

variable (host : Host)

/-- Pushes a value found after the price was taken. -/
def pushing (tier : Tier) (value : Run Word) : Run Signal := do
  Run.charge (host.schedule.tier tier)
  Run.push (← value)
  return .proceed

def unary (tier : Tier) (operation : Word → Word) : Run Signal := do
  Run.charge (host.schedule.tier tier)
  Run.push (operation (← Run.popOne))
  return .proceed

/-- The first operand of `operation` is the top one. -/
def binary (tier : Tier) (operation : Word → Word → Word) : Run Signal := do
  Run.charge (host.schedule.tier tier)
  let (first, second) ← Run.popTwo
  Run.push (operation first second)
  return .proceed

/-- The first operand of `operation` is the top one. -/
def ternary (tier : Tier) (operation : Word → Word → Word → Word) : Run Signal := do
  Run.charge (host.schedule.tier tier)
  let (first, second, third) ← Run.popThree
  Run.push (operation first second third)
  return .proceed

def comparison (test : Word → Word → Bool) : Run Signal :=
  binary host .veryLow fun left right => .ofBool (test left right)

def exp : Run Signal := do
  let (base, exponent) ← Run.peekTwo
  Run.chargeCost (host.schedule.exp exponent)
  Run.drop 2
  Run.push (base.exp exponent)
  return .proceed

/-- Pushes the immediate bytes at the program counter and steps over them. -/
def pushImmediate (width : Nat) : Run Signal := do
  Run.charge (host.schedule.tier .veryLow)
  let word ← Run.frame fun frame => frame.program.program.immediate frame.pc width
  Run.push word
  Run.modifyFrame (·.advance width)
  return .proceed

def pushZero : Run Signal := pushing host .base (pure .zero)

def duplicate (index : Nat) : Run Signal := do
  Run.charge (host.schedule.tier .veryLow)
  Run.updateStack (·.dup index)
  return .proceed

/-- Exchanges the top operand with the one `index` places below it. -/
def exchange (index : Nat) : Run Signal := do
  Run.charge (host.schedule.tier .veryLow)
  Run.updateStack (·.swap index)
  return .proceed

def pop : Run Signal := do
  Run.charge (host.schedule.tier .base)
  Run.drop 1
  return .proceed

end Instruction

end CancunMachine
