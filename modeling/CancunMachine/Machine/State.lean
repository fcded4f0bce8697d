import CancunMachine.Frame
import CancunMachine.Substate
import CancunMachine.Warmth
import CancunMachine.World.Basic

/-!
# The state of a running message

The frames, the world and what is kept beside them, with all that has been observed of the run.
-/

namespace CancunMachine

/-- What can be observed of a run from outside. -/
inductive Event
  | enter (invocation : Invocation)
  | exit (depth : Nat) (outcome : Outcome)
  /-- The last write of a frame, reported when it ends. -/
  | updated (address : Address) (key value : Word)
  | read (address : Address) (key value : Word)
  | written (address : Address) (key value : Word)
  | destruction (address beneficiary : Address)
  | settled (succeeded : Bool) (depth : Nat)
  | queued (accepted : Bool)
  | prepared (warmSize : Nat)
  | finalized (warmSize : Nat) (refund : Int) (outcome : Outcome)

/-- Stacks and memories of finished frames, all of them cleared. -/
structure Pool where
  spareStacks : List Stack
  spareMemories : List Memory
  stacksCleared : ∀ stack ∈ spareStacks, stack.size = 0
  memoriesCleared : ∀ memory ∈ spareMemories, memory.size = 0

namespace Pool

def empty : Pool := ⟨[], [], by simp, by simp⟩

/-- Takes a cleared stack and memory, or new ones. -/
def take (pool : Pool) : (Stack × Memory) × Pool :=
  ((pool.spareStacks.headD .empty, pool.spareMemories.headD .empty),
    { spareStacks := pool.spareStacks.tail
      spareMemories := pool.spareMemories.tail
      stacksCleared := fun stack spare => pool.stacksCleared stack (List.mem_of_mem_tail spare)
      memoriesCleared := fun memory spare =>
        pool.memoriesCleared memory (List.mem_of_mem_tail spare) })

/-- Clears the stack and memory of a finished frame and keeps them. -/
def give (pool : Pool) (frame : Frame) : Pool where
  spareStacks := frame.stack.clear :: pool.spareStacks
  spareMemories := frame.memory.reset :: pool.spareMemories
  stacksCleared := List.forall_mem_cons.mpr ⟨rfl, pool.stacksCleared⟩
  memoriesCleared := List.forall_mem_cons.mpr ⟨rfl, pool.memoriesCleared⟩

end Pool

structure Machine where
  frame : Frame
  /-- The frames that wait for a child, innermost first. -/
  suspended : List Frame
  substate : Substate
  world : World
  warmth : Warmth
  cache : Cache
  pool : Pool
  /-- The events so far, latest first. -/
  events : List Event

/-- Whether some frame still uses a program instance. -/
def Machine.holds (machine : Machine) (serial : Nat) : Bool :=
  (machine.frame :: machine.suspended).any (·.program.serial == serial)

end CancunMachine
