import CancunMachine.Gas

/-!
# Native contracts

Contracts that run natively. Only the identity is served; an address without a native contract
is executed as an account without code.
-/

namespace CancunMachine

/-- What a native contract returns. -/
structure PrecompileOutput where
  output : ByteArray
  gasUsed : UInt64

/-- The native contracts by address, input and gas limit. -/
abbrev PrecompileSet :=
  Address → ByteArray → UInt64 → Option (Except Failure PrecompileOutput)

namespace Precompile

def identityAddress : Address := Address.ofNat 4

def identityCost (size : Nat) : Except Halt UInt64 := do
  Gas.sum [← Gas.times (wordCount size) 3, 15]

def identity (input : ByteArray) (gasLimit : UInt64) : Except Failure PrecompileOutput :=
  match identityCost input.size with
  | .error reason => .error (.halt reason)
  | .ok cost => if gasLimit < cost then .error (.halt .outOfGas) else .ok ⟨input, cost⟩

/-- The identity at its address and nothing else. -/
def standard : PrecompileSet := fun address input gasLimit =>
  if address = identityAddress then some (identity input gasLimit) else none

end Precompile

end CancunMachine
