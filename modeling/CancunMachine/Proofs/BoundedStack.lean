import Mathlib.Tactic
import CancunMachine.Proofs.Replay
import CancunMachine.Proofs.Stack.Columns

/-!
# The stack is a bounded list

The reference is a list of at most 1024 words, top first, which knows nothing of columns, slots or
limbs. `StackStep` lists what can be done to a stack; the columns, the running stack and the list
do it with the same answers, and afterwards they hold the same words.
-/

namespace CancunMachine

/-- What can be done to a stack. -/
inductive StackStep
  | push (operand : Operand)
  | pop (count : Nat)
  | peek (count : Nat)
  | drop (count : Nat)
  | dup (index : Nat)
  | swap (index : Nat)
  | popOne
  | popWord
  | popClamped63
  | popClamped31
  | popAddress
  | popHash
  | clear

/-- What an operation answers: nothing, some words, or a number, which is also how an address and a
digest are told. -/
inductive StackReply
  | done
  | words (words : List Word)
  | number (value : Nat)

/-- The number that an operand stands for; of a string, the last 32 bytes. -/
def Operand.number : Operand → Nat
  | .whole word => word.toNat
  | .limbs limb0 limb1 limb2 limb3 =>
      limb0.toNat + 2 ^ 64 * limb1.toNat + 2 ^ 128 * limb2.toNat + 2 ^ 192 * limb3.toNat
  | .zero => 0
  | .limb value => value.toNat
  | .position value => value.toNat
  | .flag value => value.toNat
  | .account address => address.toNat
  | .string bytes => Bytes.toNat bytes % 2 ^ 256

/-- The operand of any form is the word of its number. -/
theorem Operand.toWord_eq (operand : Operand) : operand.toWord = .ofNat operand.number := by
  apply Word.eq_of_toNat_eq
  rw [Word.toNat_ofNat, Word.count_eq]
  cases operand with
  | whole word =>
      have bound := word.toNat_lt_count
      rw [Word.count_eq] at bound
      exact (Nat.mod_eq_of_lt bound).symm
  | limbs limb0 limb1 limb2 limb3 =>
      have first := limb0.toNat_lt
      have second := limb1.toNat_lt
      have third := limb2.toNat_lt
      have fourth := limb3.toNat_lt
      simp only [toWord, number, Word.toNat, Word.limbBase]
      omega
  | zero => rfl
  | limb value =>
      have bound := value.toNat_lt
      simp only [toWord, number, Word.toNat_ofLimb]
      omega
  | position value =>
      have bound := value.toUInt64.toNat_lt
      simp only [toWord, number, Word.toNat_ofLimb, USize.toNat_toUInt64] at bound ⊢
      omega
  | flag value => cases value <;> rfl
  | account address =>
      have low := address.low.toNat_lt
      have middle := address.middle.toNat_lt
      have high := address.high.toNat_lt
      simp only [toWord, number, Address.toNat_toWord, Address.toNat, Word.limbBase]
      omega
  | string bytes =>
      simp only [toWord, number, Word.toNat_ofBytes_eq_mod, Word.count_eq, Nat.mod_mod]

/-- One attempt, after which what was there is still there if it has failed. -/
def settle {State : Type} (attempted : Except Halt (StackReply × State)) (state : State) :
    Except Halt StackReply × State :=
  match attempted with
  | .ok (reply, next) => (.ok reply, next)
  | .error reason => (.error reason, state)

namespace WordList

/-- Takes the first word off the list. -/
def takeFirst (view : Word → StackReply) : List Word → Except Halt (StackReply × List Word)
  | [] => .error .stackUnderflow
  | word :: words => .ok (view word, words)

/-- What an operation answers and leaves, or why it fails. -/
def attempt (words : List Word) : StackStep → Except Halt (StackReply × List Word)
  | .push operand =>
      if words.length < 1024 then .ok (.done, .ofNat operand.number :: words)
      else .error .stackOverflow
  | .pop count =>
      if count ≤ words.length then .ok (.words (words.take count), words.drop count)
      else .error .stackUnderflow
  | .peek count =>
      if count ≤ words.length then .ok (.words (words.take count), words)
      else .error .stackUnderflow
  | .drop count =>
      if count ≤ words.length then .ok (.done, words.drop count) else .error .stackUnderflow
  | .dup index =>
      match words[index]? with
      | none => .error .stackUnderflow
      | some word =>
          if words.length < 1024 then .ok (.done, word :: words) else .error .stackOverflow
  | .swap index =>
      match words[0]?, words[index]? with
      | some top, some other => .ok (.done, (words.set 0 other).set index top)
      | _, _ => .error .stackUnderflow
  | .popOne => takeFirst (fun word => .words [word]) words
  | .popWord => takeFirst (fun word => .words [word]) words
  | .popClamped63 => takeFirst (fun word => .number (min word.toNat (2 ^ 63 - 1))) words
  | .popClamped31 => takeFirst (fun word => .number (min word.toNat (2 ^ 31 - 1))) words
  | .popAddress => takeFirst (fun word => .number (word.toNat % 2 ^ 160)) words
  | .popHash => takeFirst (fun word => .number word.toNat) words
  | .clear => .ok (.done, [])

def perform (step : StackStep) (words : List Word) : Except Halt StackReply × List Word :=
  settle (attempt words step) words

end WordList

namespace Stack

/-- The operation that a step stands for, with what it answers. -/
def attempt (stack : Stack) : StackStep → Except Halt (StackReply × Stack)
  | .push operand => (stack.push operand.toWord).map fun next => (.done, next)
  | .pop count => (stack.pop count).map fun (words, next) => (.words words.toList, next)
  | .peek count => (stack.peek count).map fun words => (.words words.toList, stack)
  | .drop count => (stack.drop count).map fun next => (.done, next)
  | .dup index => (stack.dup index).map fun next => (.done, next)
  | .swap index => (stack.swap index).map fun next => (.done, next)
  | .popOne => stack.popWord.map fun (word, next) => (.words [word], next)
  | .popWord => stack.popWord.map fun (word, next) => (.words [word], next)
  | .popClamped63 => stack.popClamped63.map fun (value, next) => (.number value, next)
  | .popClamped31 => stack.popClamped31.map fun (value, next) => (.number value, next)
  | .popAddress => stack.popAddress.map fun (address, next) => (.number address.toNat, next)
  | .popHash => stack.popHash.map fun (hash, next) => (.number (Bytes.toNat hash.bytes), next)
  | .clear => .ok (.done, stack.clear)

def perform (step : StackStep) (stack : Stack) : Except Halt StackReply × Stack :=
  settle (stack.attempt step) stack

end Stack

namespace Columns

/-- The action that a step stands for, with what it answers. -/
def act : StackStep → Action StackReply
  | .push operand => do
      pushOperand operand
      pure .done
  | .pop count => do
      let words ← pop count
      pure (.words words.toList)
  | .peek count => do
      let words ← peek count
      pure (.words words.toList)
  | .drop count => do
      drop count
      pure .done
  | .dup index => do
      dup index
      pure .done
  | .swap index => do
      swap index
      pure .done
  | .popOne => do
      let word ← popOne
      pure (.words [word])
  | .popWord => do
      let word ← popWord
      pure (.words [word])
  | .popClamped63 => do
      let value ← popClamped63
      pure (.number value)
  | .popClamped31 => do
      let value ← popClamped31
      pure (.number value)
  | .popAddress => do
      let address ← popAddress
      pure (.number address.toNat)
  | .popHash => do
      let hash ← popHash
      pure (.number (Bytes.toNat hash.bytes))
  | .clear => do
      clear
      pure .done

def perform (step : StackStep) (columns : Columns) : Except Halt StackReply × Columns :=
  (act step).on columns

/-- An action that has nothing to tell is done. -/
theorem Refines.done {action : Action Unit} {operation : Stack → Except Halt Stack}
    (refines : Refines action fun stack => (operation stack).map fun next => ((), next)) :
    Refines (do action; pure StackReply.done)
      fun stack => (operation stack).map fun next => (.done, next) := by
  refine refines.map (fun _ => StackReply.done) fun stack => ?_
  cases operation stack <;> rfl

/-- Every step does to the columns what it does to the stack that they hold. -/
theorem refines_act (step : StackStep) : Refines (act step) (·.attempt step) := by
  cases step with
  | push operand => exact (refines_push operand.toWord).done
  | pop count =>
      exact (refines_pop count).map (fun words => StackReply.words words.toList) fun _ => rfl
  | peek count =>
      refine (refines_peek count).map (fun words => StackReply.words words.toList) fun stack => ?_
      rw [Stack.attempt]
      cases stack.peek count <;> rfl
  | drop count => exact (refines_drop count).done
  | dup index => exact (refines_dup index).done
  | swap index => exact (refines_swap index).done
  | popOne => exact refines_popOne.map (fun word => StackReply.words [word]) fun _ => rfl
  | popWord => exact refines_popWord.map (fun word => StackReply.words [word]) fun _ => rfl
  | popClamped63 => exact refines_popClamped63.map StackReply.number fun _ => rfl
  | popClamped31 => exact refines_popClamped31.map StackReply.number fun _ => rfl
  | popAddress =>
      exact refines_popAddress.map (fun address => StackReply.number address.toNat) fun _ => rfl
  | popHash =>
      exact refines_popHash.map (fun hash => StackReply.number (Bytes.toNat hash.bytes)) fun _ => rfl
  | clear => exact refines_clear.map (fun _ => StackReply.done) fun _ => rfl

/-- The answers agree, and the stack that is held stays the same, also after a failure. -/
theorem perform_agrees (step : StackStep) (columns : Columns) (stack : Stack)
    (same : columns.toStack = stack) :
    (perform step columns).1 = (Stack.perform step stack).1 ∧
      (perform step columns).2.toStack = (Stack.perform step stack).2 := by
  subst same
  unfold perform Stack.perform settle
  obtain ⟨reply, left, acted, attempted⟩ | ⟨reason, acted, attempted⟩ := refines_act step columns
  · simp only [acted, attempted, and_self]
  · simp only [acted, attempted, and_self]

theorem perform_error {step : StackStep} {columns : Columns} {reason : Halt}
    (failed : (perform step columns).1 = .error reason) : (perform step columns).2 = columns := by
  unfold perform at failed ⊢
  obtain ⟨reply, left, acted, -⟩ | ⟨reason, acted, -⟩ := refines_act step columns
  · rw [acted] at failed
    cases failed
  · rw [acted]

end Columns

namespace Stack

/-- What an operation answers and leaves, with the operands that are left as a list. -/
def listed (attempted : Except Halt (StackReply × Stack)) : Except Halt (StackReply × List Word) :=
  attempted.map fun (reply, next) => (reply, next.toList)

theorem listed_done (answer : Except Halt Stack) :
    listed (answer.map fun next => (.done, next)) =
      (answer.map toList).map fun words => (.done, words) := by
  cases answer <;> rfl

/-- However the topmost word is told, the words below it are left. -/
theorem listed_popWord (stack : Stack) (tell : Word → StackReply) :
    listed (stack.popWord.map fun (word, next) => (tell word, next)) =
      WordList.takeFirst tell stack.toList := by
  have told : listed (stack.popWord.map fun (word, next) => (tell word, next)) =
      (stack.popWord.map fun (word, next) => (word, next.toList)).map
        fun (word, words) => (tell word, words) := by
    cases stack.popWord <;> rfl
  rw [told, map_popWord]
  cases stack.toList <;> rfl

/-- A pop that views the topmost word tells what is to be told of the word. -/
theorem listed_view {Alpha : Type} {stack : Stack} {viewed : Except Halt (Alpha × Stack)}
    {view : Word → Alpha} {number : Alpha → Nat} {expected : Word → Nat}
    (views : viewed = stack.popWord.map fun (word, next) => (view word, next))
    (tells : ∀ word, number (view word) = expected word) :
    listed (viewed.map fun (value, next) => (.number (number value), next)) =
      WordList.takeFirst (fun word => .number (expected word)) stack.toList := by
  rw [← listed_popWord, ← funext tells, views]
  cases stack.popWord <;> rfl

/-- Every step does to a stack what it does to the list of its operands. -/
theorem listed_attempt (step : StackStep) (stack : Stack) :
    listed (stack.attempt step) = WordList.attempt stack.toList step := by
  cases step with
  | push operand =>
      rw [attempt, listed_done, map_push, Operand.toWord_eq, WordList.attempt, stackLimit]
      split <;> rfl
  | pop count =>
      have told : listed (stack.attempt (.pop count)) =
          ((stack.pop count).map fun (words, rest) => (words.toList, rest.toList)).map
            fun (words, rest) => (.words words, rest) := by
        rw [attempt]
        cases stack.pop count <;> rfl
      rw [told, map_pop, WordList.attempt]
      split <;> rfl
  | peek count =>
      have told : listed (stack.attempt (.peek count)) =
          ((stack.peek count).map Vector.toList).map
            fun words => (.words words, stack.toList) := by
        rw [attempt]
        cases stack.peek count <;> rfl
      rw [told, map_peek, WordList.attempt]
      split <;> rfl
  | drop count =>
      rw [attempt, listed_done, map_drop, WordList.attempt]
      split <;> rfl
  | dup index =>
      rw [attempt, listed_done, map_dup, WordList.attempt, stackLimit]
      cases stack.toList[index]? with
      | none => rfl
      | some word =>
          by_cases room : stack.toList.length < 1024 <;> simp [room, Except.map]
  | swap index =>
      rw [attempt, listed_done, map_swap, WordList.attempt]
      cases stack.toList[0]? with
      | none => rfl
      | some top => cases stack.toList[index]? <;> rfl
  | popOne => exact listed_popWord stack fun word => .words [word]
  | popWord => exact listed_popWord stack fun word => .words [word]
  | popClamped63 =>
      have tells (word : Word) :
          id (min word.toNatSaturating 0x7fffffffffffffff) = min word.toNat (2 ^ 63 - 1) := by
        simp only [Word.toNatSaturating_eq, Word.limbBase, id]
        omega
      exact listed_view rfl tells
  | popClamped31 =>
      have tells (word : Word) :
          id (min word.toNatSaturating 0x7fffffff) = min word.toNat (2 ^ 31 - 1) := by
        simp only [Word.toNatSaturating_eq, Word.limbBase, id]
        omega
      exact listed_view rfl tells
  | popAddress => exact listed_view rfl Word.toNat_toAddress
  | popHash =>
      rw [WordList.attempt, ← funext fun word => congrArg StackReply.number word.toNat_toBytes,
        ← listed_popWord, attempt, popHash]
      cases stack.popWord <;> rfl
  | clear => rfl

/-- The answers agree, and what is left is still listed, also after a failure. -/
theorem perform_agrees (step : StackStep) (stack : Stack) (words : List Word)
    (same : stack.toList = words) :
    (perform step stack).1 = (WordList.perform step words).1 ∧
      (perform step stack).2.toList = (WordList.perform step words).2 := by
  subst same
  unfold perform WordList.perform settle
  rw [← listed_attempt]
  cases stack.attempt step with
  | ok result => exact ⟨rfl, rfl⟩
  | error reason => exact ⟨rfl, rfl⟩

end Stack

/-- The stack in columns and the running stack are a list of at most 1024 words: both answer as the
list does and hold its words afterwards, and a step that fails leaves everything as it was. -/
theorem stack_is_bounded_list (steps : List StackStep) :
    (∀ columns : Columns,
      let (answers, final) := performAll Columns.perform steps columns
      let (expected, words) := performAll WordList.perform steps columns.toStack.toList
      answers = expected ∧ final.toStack.toList = words ∧ words.length ≤ 1024 ∧
        performAll Stack.perform steps columns.toStack = (answers, final.toStack)) ∧
      (∀ stack : Stack,
        let (answers, final) := performAll Stack.perform steps stack
        let (expected, words) := performAll WordList.perform steps stack.toList
        answers = expected ∧ final.toList = words) ∧
      (∀ (columns : Columns) (step : StackStep) (reason : Halt),
        (Columns.perform step columns).1 = .error reason →
          (Columns.perform step columns).2 = columns) ∧
      Columns.blank.toStack.toList = [] := by
  have lists (stack : Stack) := performAll_agrees Stack.perform_agrees steps (Eq.refl stack.toList)
  have holds (columns : Columns) :=
    performAll_agrees Columns.perform_agrees steps (Eq.refl columns.toStack)
  refine ⟨fun columns => ?_, lists, fun columns step reason => Columns.perform_error, rfl⟩
  obtain ⟨told, held⟩ := holds columns
  obtain ⟨listed, left⟩ := lists columns.toStack
  refine ⟨told.trans listed, held ▸ left, ?_, Prod.ext told.symm held.symm⟩
  rw [← left, Stack.length_toList]
  exact Stack.bounded _

end CancunMachine
