import Mathlib.Tactic
import CancunMachine.Proofs.Evolution.Run
import CancunMachine.Proofs.Machine.Operands

/-!
# Pushes read their immediates from zero-extended code

A push reads the bytes that follow it in the code as the digits of a word. Where the code ends
within them, the missing ones are zeros, and they are stepped over all the same.
-/

namespace CancunMachine

open Ending

namespace Instruction

variable {host : Host} {enter : Transfer → Run Outcome} {machine final : Machine} {signal : Signal}

end Instruction

end CancunMachine
