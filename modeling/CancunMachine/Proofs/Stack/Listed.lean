import Mathlib.Tactic
import CancunMachine.Proofs.History.Deed
import CancunMachine.Proofs.Stack.Exchange

/-!
# A stack as the list of its operands

What each operation answers and leaves, told by the operands from the top down, and when it fails.
-/

namespace CancunMachine

namespace Stack

variable (stack : Stack)

theorem getElem?_toList {index : Nat} (within : index < stack.items.size) :
    stack.toList[index]? = stack.items[stack.items.size - 1 - index]? := by
  simp [toList, within]

theorem getElem?_toList_eq_none {index : Nat} (beyond : ¬index < stack.items.size) :
    stack.toList[index]? = none := by
  simpa [toList] using beyond

theorem map_push (word : Word) :
    (stack.push word).map toList =
      if stack.toList.length < stackLimit then .ok (word :: stack.toList)
      else .error .stackOverflow := by
  rw [length_toList, size, push]
  split
  · simp [Except.map, toList]
  · rfl

theorem map_peek (count : Nat) :
    (stack.peek count).map Vector.toList =
      if count ≤ stack.toList.length then .ok (stack.toList.take count)
      else .error .stackUnderflow := by
  rw [length_toList, size, peek]
  split
  · rename_i enough
    refine congrArg Except.ok (List.ext_getElem ?_ fun index within _ => ?_)
    · simpa [toList] using enough
    · simp [toList]
  · rfl

theorem map_drop (count : Nat) :
    (stack.drop count).map toList =
      if count ≤ stack.toList.length then .ok (stack.toList.drop count)
      else .error .stackUnderflow := by
  cases dropped : stack.drop count with
  | ok rest =>
      obtain ⟨enough, same⟩ := toList_drop dropped
      rw [length_toList, if_pos enough, ← same]
      rfl
  | error reason =>
      unfold drop at dropped
      split at dropped
      · cases dropped
      · rename_i lacking
        cases dropped
        rw [length_toList, size, if_neg lacking]
        rfl

theorem map_pop (count : Nat) :
    ((stack.pop count).map fun (words, rest) => (words.toList, rest.toList)) =
      if count ≤ stack.toList.length then .ok (stack.toList.take count, stack.toList.drop count)
      else .error .stackUnderflow := by
  have peeked := stack.map_peek count
  have dropped := stack.map_drop count
  rw [pop]
  by_cases enough : count ≤ stack.toList.length
  · rw [if_pos enough] at peeked dropped ⊢
    cases looked : stack.peek count with
    | error reason =>
        rw [looked] at peeked
        cases peeked
    | ok words =>
        cases left : stack.drop count with
        | error reason =>
            rw [left] at dropped
            cases dropped
        | ok rest =>
            rw [looked] at peeked
            rw [left] at dropped
            exact congrArg Except.ok (Prod.ext (Except.ok.inj peeked) (Except.ok.inj dropped))
  · rw [if_neg enough] at peeked ⊢
    cases looked : stack.peek count with
    | error reason =>
        rw [looked] at peeked
        cases peeked
        rfl
    | ok words =>
        rw [looked] at peeked
        cases peeked

theorem map_dup (index : Nat) :
    (stack.dup index).map toList =
      match stack.toList[index]? with
      | none => .error .stackUnderflow
      | some word =>
          if stack.toList.length < stackLimit then .ok (word :: stack.toList)
          else .error .stackOverflow := by
  by_cases within : index < stack.items.size
  · rw [getElem?_toList stack within, Array.getElem?_eq_getElem (by omega), dup, dif_pos within,
      map_push]
  · rw [getElem?_toList_eq_none stack within, dup, dif_neg within]
    rfl

theorem map_swap (index : Nat) :
    (stack.swap index).map toList =
      match stack.toList[0]?, stack.toList[index]? with
      | some top, some other => .ok ((stack.toList.set 0 other).set index top)
      | _, _ => .error .stackUnderflow := by
  by_cases within : index < stack.items.size
  · have top : 0 < stack.items.size := Nat.zero_lt_of_lt within
    rw [getElem?_toList stack within, getElem?_toList stack top,
      Array.getElem?_eq_getElem (by omega), Array.getElem?_eq_getElem (by omega), swap,
      dif_pos within]
    refine congrArg Except.ok ?_
    refine List.ext_getElem ?_ fun place within _ => ?_
    · simp [toList]
    · simp only [toList, Array.toList_swap] at within
      simp only [List.length_reverse, List.length_set, Array.length_toList] at within
      have other : stack.items.size - 1 - index = stack.items.size - 1 - place ↔ index = place := by
        omega
      have first : stack.items.size - 1 = stack.items.size - 1 - place ↔ 0 = place := by
        omega
      simp only [toList, Array.toList_swap, List.getElem_reverse, List.getElem_set,
        List.length_set, Array.length_toList, other, first, Nat.sub_zero]
  · rw [getElem?_toList_eq_none stack within, swap, dif_neg within]
    cases stack.toList[0]? <;> rfl

/-- The topmost operand is the one word that is taken off. -/
theorem popWord_eq : stack.popWord = (stack.pop 1).map fun (words, rest) => (words.head, rest) := by
  rw [popWord, pop]
  cases peeked : stack.peek 1 with
  | ok words =>
      rw [top?_of_peek peeked Nat.zero_lt_one]
      simp only [bind, Except.bind]
      cases stack.drop 1 <;> rfl
  | error reason =>
      unfold peek at peeked
      split at peeked
      · cases peeked
      · rename_i lacking
        cases peeked
        rw [top?, if_neg (by simpa using lacking)]
        rfl

theorem map_popWord :
    (stack.popWord.map fun (word, rest) => (word, rest.toList)) =
      match stack.toList with
      | [] => .error .stackUnderflow
      | word :: words => .ok (word, words) := by
  have popped := stack.map_pop 1
  rw [popWord_eq]
  cases listed : stack.toList with
  | nil =>
      rw [listed, if_neg (by simp)] at popped
      cases found : stack.pop 1 with
      | ok result => simp [found, Except.map] at popped
      | error reason =>
          rw [found] at popped
          exact congrArg Except.error (Except.error.inj popped)
  | cons word words =>
      rw [listed, if_pos (by simp)] at popped
      cases found : stack.pop 1 with
      | error reason => simp [found, Except.map] at popped
      | ok result =>
          obtain ⟨first, rest⟩ := result
          simp only [found, Except.map, Except.ok.injEq, Prod.mk.injEq] at popped
          obtain ⟨one, left⟩ := popped
          have top : first.head = word := by
            have taken : first.toList[0]? = some word := by rw [one]; rfl
            simpa [Vector.head] using taken
          exact congrArg Except.ok (Prod.ext top left)

end Stack

end CancunMachine
