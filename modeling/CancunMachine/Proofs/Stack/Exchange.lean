import Mathlib.Tactic
import CancunMachine.Proofs.Evolution.Call

/-!
# What a step takes from the stack and gives to it

A step exchanges the operands on top of the stack for others and leaves those below as they were.
The exchanges of a sequence add up: what a later step takes may have been given by an earlier one.
-/

namespace CancunMachine

open Ending

namespace Stack

theorem length_toList (stack : Stack) : stack.toList.length = stack.size := by
  rw [toList, List.length_reverse, Array.length_toList, size]

theorem toList_push {stack pushed : Stack} {word : Word} (pushes : stack.push word = .ok pushed) :
    pushed.toList = word :: stack.toList := by
  unfold push at pushes
  split at pushes
  · cases pushes
    rw [toList, Array.toList_push, List.reverse_append]
    rfl
  · cases pushes

theorem toList_drop {stack rest : Stack} {count : Nat} (drops : stack.drop count = .ok rest) :
    count ≤ stack.size ∧ rest.toList = stack.toList.drop count := by
  unfold drop at drops
  split at drops
  · rename_i enough
    cases drops
    refine ⟨enough, ?_⟩
    simp only [toList, Array.toList_shrink, List.reverse_take, Array.length_toList]
    congr 1
    omega
  · cases drops

theorem le_size_of_peek {stack : Stack} {count : Nat} {words : Vector Word count}
    (peeks : stack.peek count = .ok words) : count ≤ stack.size := by
  unfold peek at peeks
  split at peeks
  · assumption
  · cases peeks

theorem toList_dup {stack next : Stack} {index : Nat} (dups : stack.dup index = .ok next) :
    index < stack.size ∧ ∃ word, next.toList = word :: stack.toList := by
  unfold dup at dups
  split at dups
  · rename_i within
    exact ⟨within, _, toList_push dups⟩
  · cases dups

/-- Exchanging the top with another operand moves nothing below that one. -/
theorem toList_swap {stack next : Stack} {index : Nat} (swaps : stack.swap index = .ok next) :
    index < stack.size ∧ next.size = stack.size ∧
      next.toList.drop (index + 1) = stack.toList.drop (index + 1) := by
  unfold swap at swaps
  split at swaps
  · rename_i within
    cases swaps
    refine ⟨within, Array.size_swap .., ?_⟩
    simp only [toList, List.drop_reverse, Array.toList_swap, List.length_set, Array.length_toList]
    rw [List.take_set_of_le (by omega), List.take_set_of_le (by omega)]
  · cases swaps

/-- One stack after `takes` operands on top were replaced by `gives` others. -/
structure Exchanged (takes gives : Nat) (before after : Stack) : Prop where
  enough : takes ≤ before.size
  size : after.size + takes = before.size + gives
  below : after.toList.drop gives = before.toList.drop takes

namespace Exchanged

theorem refl (stack : Stack) : Exchanged 0 0 stack stack := ⟨Nat.zero_le _, rfl, rfl⟩

/-- What the second exchange takes has in part been given by the first one. -/
theorem trans {takes gives laterTakes laterGives : Nat} {before middle after : Stack}
    (first : Exchanged takes gives before middle)
    (second : Exchanged laterTakes laterGives middle after) :
    Exchanged (takes + (laterTakes - gives)) (laterGives + (gives - laterTakes)) before after := by
  have firstEnough := first.enough
  have firstSize := first.size
  have secondEnough := second.enough
  have secondSize := second.size
  refine ⟨by omega, by omega, ?_⟩
  calc after.toList.drop (laterGives + (gives - laterTakes))
      = middle.toList.drop (laterTakes + (gives - laterTakes)) := by
        rw [← List.drop_drop, second.below, List.drop_drop]
    _ = middle.toList.drop (gives + (laterTakes - gives)) := by
        congr 1
        omega
    _ = before.toList.drop (takes + (laterTakes - gives)) := by
        rw [← List.drop_drop, first.below, List.drop_drop]

end Exchanged

end Stack

variable {Alpha Beta : Type} {host : Host} {takes gives laterTakes laterGives : Nat}

/-- A computation that takes operands from the stack and gives others in their place. -/
def Exchanges (takes gives : Nat) (action : Run Alpha) : Prop :=
  ∀ machine value final, action machine = .ok value final →
    Stack.Exchanged takes gives machine.frame.stack final.frame.stack

namespace Exchanges

theorem as {action : Run Alpha} (exchanges : Exchanges takes gives action)
    (sameTakes : takes = laterTakes) (sameGives : gives = laterGives) :
    Exchanges laterTakes laterGives action :=
  sameTakes ▸ sameGives ▸ exchanges

/-- A later step may depend on what an earlier one is known to show. -/
theorem learn {first : Run Alpha} {next : Alpha → Run Beta} (early : Exchanges takes gives first)
    (holds : Alpha → Prop)
    (shows : ∀ {machine value final}, first machine = .ok value final → holds value)
    (late : ∀ value, holds value → Exchanges laterTakes laterGives (next value)) :
    Exchanges (takes + (laterTakes - gives)) (laterGives + (gives - laterTakes))
      (first >>= next) := by
  intro machine value final done
  obtain ⟨shown, middle, started, finished⟩ := bind_eq_ok.mp done
  exact (early _ _ _ started).trans (late shown (shows started) _ _ _ finished)

theorem bind {first : Run Alpha} {next : Alpha → Run Beta} (early : Exchanges takes gives first)
    (late : ∀ value, Exchanges laterTakes laterGives (next value)) :
    Exchanges (takes + (laterTakes - gives)) (laterGives + (gives - laterTakes))
      (first >>= next) :=
  early.learn (fun _ => True) (fun _ => trivial) fun value _ => late value

/-- The first step gives no more than the rest takes. -/
theorem step {first : Run Alpha} {next : Alpha → Run Beta} {allTakes : Nat}
    (early : Exchanges takes gives first) (enough : takes ≤ allTakes)
    (late : ∀ value, Exchanges (allTakes - takes + gives) laterGives (next value)) :
    Exchanges allTakes laterGives (first >>= next) :=
  (early.bind late).as (by omega) (by omega)

theorem branch {condition : Prop} [Decidable condition] {left right : Run Alpha}
    (first : Exchanges takes gives left) (second : Exchanges takes gives right) :
    Exchanges takes gives (if condition then left else right) := by
  split
  · exact first
  · exact second

end Exchanges

theorem exchanges_of_looks {action : Run Alpha} (looks : Looks action) : Exchanges 0 0 action := by
  intro machine value final done
  rw [looks done]
  exact .refl _

/-- A step that keeps the stack exchanges nothing. -/
theorem exchanges_of_keeps {action : Run Alpha}
    (keeps : ∀ {machine value final}, action machine = .ok value final →
      final.frame.stack = machine.frame.stack) : Exchanges 0 0 action := by
  intro machine value final done
  rw [keeps done]
  exact .refl _

theorem exchanges_throw (cause : Failure) : Exchanges takes gives (throw cause : Run Alpha) :=
  fun _ _ _ done => nomatch done

theorem exchanges_halt (reason : Halt) : Exchanges takes gives (Run.halt reason : Run Alpha) :=
  fun _ _ _ done => nomatch done

/-- Nothing stands behind a check that halts. -/
theorem Exchanges.guard {condition : Prop} [Decidable condition] {reason : Halt}
    {rest : Unit → Run Alpha} (goesOn : Exchanges takes gives (rest ())) :
    Exchanges takes gives (if condition then do rest (← Run.halt reason) else rest ()) :=
  Exchanges.branch (fun _ _ _ done => nomatch done) goesOn

namespace Run

theorem exchanges_pure (value : Alpha) : Exchanges 0 0 (pure value : Run Alpha) :=
  exchanges_of_looks (looks_pure value)

theorem exchanges_get : Exchanges 0 0 (get : Run Machine) := by
  intro machine value final done
  cases done
  exact .refl _

theorem exchanges_frame (question : Frame → Alpha) : Exchanges 0 0 (frame question) :=
  exchanges_of_looks (looks_frame question)

theorem exchanges_ofHalting (answer : Except Halt Alpha) : Exchanges 0 0 (ofHalting answer) :=
  exchanges_of_looks (looks_ofHalting answer)

theorem exchanges_ofExcept (answer : Except Failure Alpha) : Exchanges 0 0 (ofExcept answer) := by
  intro machine value final done
  cases answer <;> cases done
  exact .refl _

theorem exchanges_modifyFrame (change : Frame → Frame)
    (keeps : ∀ frame, (change frame).stack = frame.stack) :
    Exchanges 0 0 (modifyFrame change) := by
  refine exchanges_of_keeps fun done => ?_
  cases done
  exact keeps _

theorem exchanges_advance (count : Nat) : Exchanges 0 0 (modifyFrame (·.advance count)) :=
  exchanges_modifyFrame _ fun _ => rfl

theorem exchanges_setReturnData (data : ByteArray) :
    Exchanges 0 0 (modifyFrame fun frame => { frame with returnData := data }) :=
  exchanges_modifyFrame _ fun _ => rfl

theorem exchanges_setFrameOutput (output : ByteArray) :
    Exchanges 0 0 (modifyFrame fun frame => { frame with output }) :=
  exchanges_modifyFrame _ fun _ => rfl

theorem exchanges_setLastWrite (write : Option (Word × Word)) :
    Exchanges 0 0 (modifyFrame fun frame => { frame with lastWrite := write }) :=
  exchanges_modifyFrame _ fun _ => rfl

theorem exchanges_position (word : Word) : Exchanges 0 0 (position word) := exchanges_ofHalting _

theorem exchanges_range (size offset : Word) : Exchanges 0 0 (range size offset) :=
  exchanges_ofHalting _

theorem exchanges_reach (offset size : Nat) : Exchanges 0 0 (reach offset size) :=
  exchanges_ofHalting _

theorem exchanges_memorySize : Exchanges 0 0 memorySize := exchanges_frame _

theorem exchanges_charge (cost : UInt64) : Exchanges 0 0 (charge cost) := by
  refine exchanges_of_keeps fun done => ?_
  obtain ⟨_, rfl⟩ := charge_eq_ok.mp done
  rfl

theorem exchanges_chargeCost (cost : Except Halt UInt64) : Exchanges 0 0 (chargeCost cost) :=
  ((exchanges_ofHalting cost).bind fun _ => exchanges_charge _).as rfl rfl

theorem exchanges_jump (destination : Word) :
    Exchanges 0 0 (updateFrame (·.jump destination)) := by
  refine exchanges_of_keeps fun done => ?_
  obtain ⟨next, jumps, rfl⟩ := updateFrame_eq_ok.mp done
  unfold Frame.jump at jumps
  split at jumps <;> cases jumps
  rfl

theorem exchanges_onMemory (action : Memory.Action Alpha) :
    Exchanges 0 0 (onMemory action) := by
  refine exchanges_of_keeps fun done => ?_
  obtain ⟨_, _, rfl⟩ := onMemory_eq_ok.mp done
  rfl

theorem exchanges_onWorld (access : Access Alpha) : Exchanges 0 0 (onWorld access) := by
  refine exchanges_of_keeps fun done => ?_
  obtain ⟨_, _, rfl⟩ := onWorld_eq_ok.mp done
  rfl

theorem exchanges_modifyWarmth (change : Warmth → Warmth) :
    Exchanges 0 0 (modifyWarmth change) := by
  refine exchanges_of_keeps fun done => ?_
  cases done
  rfl

theorem exchanges_modifySubstate (change : Substate → Substate) :
    Exchanges 0 0 (modifySubstate change) := by
  refine exchanges_of_keeps fun done => ?_
  cases done
  rfl

theorem exchanges_record (event : Event) : Exchanges 0 0 (record event) := by
  refine exchanges_of_keeps fun done => ?_
  cases done
  rfl

theorem exchanges_trace (event : Event) : Exchanges 0 0 (trace host event) :=
  .branch (exchanges_record event) (exchanges_pure ())

theorem exchanges_warmAddress (address : Address) : Exchanges 0 0 (warmAddress address) :=
  exchanges_modifyWarmth _

theorem exchanges_warmSlot (address : Address) (key : Word) :
    Exchanges 0 0 (warmSlot address key) :=
  exchanges_modifyWarmth _

theorem exchanges_isColdAddress (address : Address) : Exchanges 0 0 (isColdAddress address) :=
  (exchanges_get.bind fun _ => exchanges_pure _).as rfl rfl

theorem exchanges_isColdSlot (address : Address) (key : Word) :
    Exchanges 0 0 (isColdSlot address key) :=
  (exchanges_get.bind fun _ => exchanges_pure _).as rfl rfl

theorem exchanges_forbidStatic : Exchanges 0 0 forbidStatic :=
  exchanges_of_looks fun done => (isStatic_of_forbidStatic done).2

theorem exchanges_makeProgram (code : ByteArray) : Exchanges 0 0 (makeProgram code) := by
  refine exchanges_of_keeps fun done => ?_
  cases done
  rfl

theorem exchanges_takeBuffers : Exchanges 0 0 (takeBuffers host) := by
  refine exchanges_of_keeps fun done => ?_
  obtain ⟨_, _, _, rfl⟩ := takeBuffers_eq_ok done
  rfl

/-- Looking at operands shows that they are there. -/
theorem exchanges_peek (count : Nat) : Exchanges count count (peek count) := by
  intro machine words final done
  obtain ⟨peeks, rfl⟩ := Instruction.peek_eq_ok done
  exact ⟨Stack.le_size_of_peek peeks, rfl, rfl⟩

theorem exchanges_peekOne : Exchanges 1 1 peekOne :=
  ((exchanges_peek 1).bind fun _ => exchanges_pure _).as rfl rfl

theorem exchanges_peekTwo : Exchanges 2 2 peekTwo :=
  ((exchanges_peek 2).bind fun _ => exchanges_pure _).as rfl rfl

theorem exchanges_peekThree : Exchanges 3 3 peekThree :=
  ((exchanges_peek 3).bind fun _ => exchanges_pure _).as rfl rfl

theorem exchanges_peekFour : Exchanges 4 4 peekFour :=
  ((exchanges_peek 4).bind fun _ => exchanges_pure _).as rfl rfl

theorem exchanges_updateStack {change : Stack → Except Halt Stack}
    (exchanges : ∀ {stack next}, change stack = .ok next → stack.Exchanged takes gives next) :
    Exchanges takes gives (updateStack change) := by
  intro machine _ final done
  obtain ⟨stack, changed, rfl⟩ := updateStack_eq_ok.mp done
  exact exchanges changed

theorem exchanges_push (word : Word) : Exchanges 0 1 (push word) := by
  refine exchanges_updateStack fun {stack next} pushes => ?_
  have pushed := Stack.toList_push pushes
  refine ⟨Nat.zero_le _, ?_, ?_⟩
  · rw [← next.length_toList, ← stack.length_toList, pushed]
    rfl
  · rw [pushed]
    rfl

theorem exchanges_drop (count : Nat) : Exchanges count 0 (drop count) := by
  refine exchanges_updateStack fun {stack next} drops => ?_
  obtain ⟨enough, dropped⟩ := Stack.toList_drop drops
  refine ⟨enough, ?_, dropped⟩
  rw [← next.length_toList, dropped, List.length_drop, stack.length_toList]
  omega

theorem exchanges_pop (count : Nat) : Exchanges count 0 (pop count) :=
  ((exchanges_peek count).bind fun _ => (exchanges_drop count).bind fun _ =>
    exchanges_pure _).as (by omega) (by omega)

theorem exchanges_popOne : Exchanges 1 0 popOne :=
  (exchanges_peekOne.bind fun _ => (exchanges_drop 1).bind fun _ => exchanges_pure _).as rfl rfl

theorem exchanges_popTwo : Exchanges 2 0 popTwo :=
  (exchanges_peekTwo.bind fun _ => (exchanges_drop 2).bind fun _ => exchanges_pure _).as rfl rfl

theorem exchanges_popThree : Exchanges 3 0 popThree :=
  (exchanges_peekThree.bind fun _ => (exchanges_drop 3).bind fun _ => exchanges_pure _).as rfl rfl

theorem exchanges_dup (index : Nat) :
    Exchanges (index + 1) (index + 2) (updateStack (·.dup index)) := by
  refine exchanges_updateStack fun {stack next} dups => ?_
  obtain ⟨within, word, doubled⟩ := Stack.toList_dup dups
  refine ⟨within, ?_, ?_⟩
  · rw [← next.length_toList, doubled, List.length_cons, stack.length_toList]
    omega
  · rw [doubled, List.drop_succ_cons]

theorem exchanges_swap (index : Nat) :
    Exchanges (index + 1) (index + 1) (updateStack (·.swap index)) := by
  refine exchanges_updateStack fun swaps => ?_
  obtain ⟨within, size, below⟩ := Stack.toList_swap swaps
  exact ⟨within, congrArg (· + (index + 1)) size, below⟩

end Run

end CancunMachine
