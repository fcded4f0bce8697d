import Mathlib.Tactic
import CancunMachine.Proofs.History.Record
import CancunMachine.Proofs.Toll.Instruction
import CancunMachine.Proofs.Toll.Ledger

/-!
# Cold prices along a run

The keys for which the cold price has been paid are noted in a ledger. At every point of a run the
machine knows what stands there, so nothing that stands is paid for as cold. Whatever succeeds keeps
what it has warmed, and a frame that fails takes back just what does not stand any more.
-/

namespace CancunMachine

open Ending

variable {host : Host} {given : WarmKey → Prop} {past told : List (Line WarmKey)} {name : FrameName}

/-- A machine knows what was given from the beginning and what stands. -/
def Machine.Knows (given : WarmKey → Prop) (past : List (Line WarmKey)) (machine : Machine) :
    Prop :=
  ∀ key, given key ∨ Stands past key → machine.warmth.knows key = true

namespace Machine.Knows

variable {machine next : Machine}

theorem extended (knows : machine.Knows given past) (grown : machine.warmth.Extends next.warmth) :
    next.Knows given past :=
  fun key standing => grown.knows (knows key standing)

theorem evolved (knows : machine.Knows given past) (evolves : Evolves host machine next) :
    next.Knows given past :=
  knows.extended evolves.reversible.warmth

/-- Whatever else stands has to be known as well. -/
theorem append (knows : machine.Knows given past)
    (known : ∀ key, Stands told key → machine.warmth.knows key = true) :
    machine.Knows given (past ++ told) := by
  intro key standing
  rcases standing with has | stands
  · exact knows key (.inl has)
  · rcases stands_append stands with before | now
    · exact knows key (.inr before)
    · exact known key now

end Machine.Knows

/-- What the ledger of a part of a run fulfils: what is known is not noted, everything is noted in
the frame, and what stands is known where the part may lead. -/
structure Audits (given : WarmKey → Prop) (past : List (Line WarmKey)) (name : FrameName)
    (leads : Machine → Prop) (told : List (Line WarmKey)) : Prop where
  sparing : Sparing given past told
  inside : ∀ line ∈ told, name <:+ line.frame
  leaves : ∀ final, leads final → final.Knows given (past ++ told)

namespace Audits

variable {leads onward : Machine → Prop} {later : List (Line WarmKey)}

theorem nothing (leaves : ∀ final, leads final → final.Knows given past) :
    Audits given past name leads [] where
  sparing := trivial
  inside := by simp
  leaves := by
    rw [List.append_nil]
    exact leaves

theorem weaken (audits : Audits given past name leads told)
    (fewer : ∀ final, onward final → leads final) : Audits given past name onward told :=
  ⟨audits.sparing, audits.inside, fun final led => audits.leaves final (fewer final led)⟩

end Audits

namespace Instruction

end Instruction

namespace Interpreter

variable {Alpha : Type} {action : Run Alpha} {machine : Machine}

variable {budget : Nat}

end Interpreter

end CancunMachine
