import Mathlib.Tactic
import CancunMachine.Proofs.Stack.Listed
import CancunMachine.Proofs.Word.Conversion
import CancunMachine.Stack.Columns

/-!
# The columns hold a stack

Reading the columns slot by slot gives a stack: the slots in use are its operands and the others are
what it has left behind. Every action on the columns does to this stack what the operation of the
same name does, and an action that fails has changed nothing.
-/

namespace CancunMachine

namespace Columns

variable {columns : Columns} {Alpha Beta : Type}

/-- The words of all slots, used or not. -/
def slots (columns : Columns) : List Word :=
  List.ofFn fun slot : Fin stackLimit => columns.read slot slot.isLt

@[simp]
theorem length_slots (columns : Columns) : columns.slots.length = stackLimit :=
  List.length_ofFn

theorem getElem_slots {slot : Nat} (within : slot < columns.slots.length) :
    columns.slots[slot] = columns.read slot (columns.length_slots ▸ within) :=
  List.getElem_ofFn ..

/-- The stack that the columns hold. -/
def toStack (columns : Columns) : Stack where
  items := (columns.slots.take columns.size).toArray
  stale := columns.slots.drop columns.size
  bounded := by
    rw [List.size_toArray, List.length_take, length_slots]
    exact Nat.min_le_right _ _

theorem size_toStack (columns : Columns) : columns.toStack.items.size = columns.size := by
  have bounded := columns.bounded
  rw [toStack, List.size_toArray, List.length_take, length_slots, Nat.min_eq_left bounded]

theorem getElem_toStack {slot : Nat} (within : slot < columns.toStack.items.size) :
    columns.toStack.items[slot] = columns.read slot
      (Nat.lt_of_lt_of_le within columns.toStack.bounded) := by
  simp only [toStack, List.getElem_toArray, List.getElem_take]
  exact getElem_slots _

theorem toStack_eq {columns : Columns} {stack : Stack}
    (items : columns.slots.take columns.size = stack.items.toList)
    (stale : columns.slots.drop columns.size = stack.stale) : columns.toStack = stack := by
  obtain ⟨words, left, bounded⟩ := stack
  simp only [toStack, items, stale]

theorem slots_write (columns : Columns) {slot : Nat} (word : Word) (within : slot < stackLimit) :
    (columns.write slot word within).slots = columns.slots.set slot word := by
  apply List.ext_getElem
  · simp
  · intro index inside _
    rw [getElem_slots, List.getElem_set]
    by_cases same : slot = index
    · subst same
      simp [read, write]
    · rw [if_neg same, getElem_slots]
      simp [read, write, same]

/-- On these columns an action ends as it should: with the answer and the stack that are expected,
or with the failure that is expected and nothing changed. -/
def EndsAs (columns : Columns) (action : Action Alpha) (expected : Except Halt (Alpha × Stack)) :
    Prop :=
  (∃ value left, action.on columns = (.ok value, left) ∧ expected = .ok (value, left.toStack)) ∨
    ∃ reason, action.on columns = (.error reason, columns) ∧ expected = .error reason

/-- An action does to the columns what the operation does to the stack that they hold, and changes
nothing where the operation fails. -/
def Refines (action : Action Alpha) (operation : Stack → Except Halt (Alpha × Stack)) : Prop :=
  ∀ columns : Columns, columns.EndsAs action (operation columns.toStack)

namespace Action

theorem on_get_bind (next : Columns → Action Alpha) (columns : Columns) :
    on (do let seen ← get; next seen) columns = (next columns).on columns := rfl

theorem on_bind_of_ok {action : Action Alpha} {columns left : Columns} {value : Alpha}
    (done : action.on columns = (.ok value, left)) (next : Alpha → Action Beta) :
    on (action >>= next) columns = (next value).on left := by
  change action columns = _ at done
  simp only [on, ExceptT.run, StateT.run, bind, ExceptT.bind, ExceptT.mk, StateT.bind, done,
    ExceptT.bindCont]

theorem on_bind_of_error {action : Action Alpha} {columns left : Columns} {reason : Halt}
    (failed : action.on columns = (.error reason, left)) (next : Alpha → Action Beta) :
    on (action >>= next) columns = (.error reason, left) := by
  change action columns = _ at failed
  simp only [on, ExceptT.run, StateT.run, bind, ExceptT.bind, ExceptT.mk, StateT.bind, failed,
    ExceptT.bindCont]
  rfl

end Action

/-- What is made of the answer does not matter to the columns. -/
theorem Refines.map {action : Action Alpha} {operation : Stack → Except Halt (Alpha × Stack)}
    {viewed : Stack → Except Halt (Beta × Stack)} (refines : Refines action operation)
    (view : Alpha → Beta)
    (views : ∀ stack, viewed stack = (operation stack).map fun (value, next) => (view value, next)) :
    Refines (do let value ← action; pure (view value)) viewed := by
  intro columns
  rw [views]
  obtain ⟨value, left, acted, operated⟩ | ⟨reason, acted, operated⟩ := refines columns
  · exact .inl ⟨view value, left, Action.on_bind_of_ok acted _, congrArg (Except.map _) operated⟩
  · exact .inr ⟨reason, Action.on_bind_of_error acted _, congrArg (Except.map _) operated⟩

/-- An action that looks first whether it can be done changes nothing when it cannot. -/
theorem refines_guarded {holds : Columns → Prop} [DecidablePred holds]
    {action : ∀ columns, holds columns → Action Alpha} {reason : Halt}
    {operation : Stack → Except Halt (Alpha × Stack)}
    (acts : ∀ columns (known : holds columns),
      columns.EndsAs (action columns known) (operation columns.toStack))
    (fails : ∀ columns, ¬holds columns → operation columns.toStack = .error reason) :
    Refines (do
      let columns ← get
      if known : holds columns then action columns known else throw reason) operation := by
  intro columns
  by_cases known : holds columns
  · have ends := acts columns known
    rwa [EndsAs, Action.on_get_bind, dif_pos known]
  · refine .inr ⟨reason, ?_, fails columns known⟩
    rw [Action.on_get_bind, dif_neg known]
    rfl

/-- A push fills the lowest slot that is not in use. -/
theorem push_toStack (columns : Columns) (word : Word) (room : columns.size < stackLimit) :
    columns.toStack.push word =
      .ok { columns.write columns.size word room with
        size := columns.size + 1, bounded := room : Columns }.toStack := by
  have filled := columns.slots_write word room
  rw [Stack.push, dif_pos (by simpa [size_toStack] using room), Except.ok.injEq]
  symm
  apply toStack_eq
  · change List.take (columns.size + 1) (columns.write columns.size word room).slots = _
    rw [filled, List.take_succ_eq_append_getElem (by simpa using room)]
    simp [toStack, List.take_set_of_le]
  · change List.drop (columns.size + 1) (columns.write columns.size word room).slots = _
    rw [filled, List.drop_set_of_lt (Nat.lt_succ_self _)]
    simp [toStack, List.tail_drop]

theorem refines_push (word : Word) :
    Refines (push word) fun stack => (stack.push word).map fun next => ((), next) := by
  refine refines_guarded (fun columns room => ?_) fun columns full => ?_
  · exact .inl ⟨(), _, rfl, congrArg (Except.map _) (push_toStack columns word room)⟩
  · exact congrArg (Except.map _) (dif_neg (by rwa [size_toStack]))

/-- The topmost slots in use come off as operands. -/
theorem drop_toStack (columns : Columns) {count : Nat} (enough : count ≤ columns.size) :
    columns.toStack.drop count = .ok (columns.lower count).toStack := by
  rw [Stack.drop, if_pos (by simpa [size_toStack] using enough), Except.ok.injEq]
  symm
  apply toStack_eq
  · change List.take (columns.size - count) columns.slots = _
    rw [Array.toList_shrink, size_toStack]
    simp [toStack, List.take_take]
  · change List.drop (columns.size - count) columns.slots = _
    have front : (columns.slots.take columns.size).length = columns.size := by
      simpa using columns.bounded
    conv_lhs => rw [← List.take_append_drop columns.size columns.slots]
    rw [List.drop_append_of_le_length (by omega)]
    congr 1
    rw [Array.toList_extract, List.extract_eq_take_drop]
    simp [toStack, Nat.min_eq_left columns.bounded]

theorem refines_drop (count : Nat) :
    Refines (drop count) fun stack => (stack.drop count).map fun next => ((), next) := by
  refine refines_guarded (fun columns enough => ?_) fun columns lacking => ?_
  · exact .inl ⟨(), _, rfl, congrArg (Except.map _) (drop_toStack columns enough)⟩
  · exact congrArg (Except.map _) (if_neg (by rwa [size_toStack]))

/-- Looking at the topmost slots changes nothing. -/
theorem on_peek (count : Nat) (columns : Columns) :
    (peek count).on columns = (columns.toStack.peek count, columns) := by
  by_cases enough : count ≤ columns.size
  · rw [peek, Action.on_get_bind, dif_pos enough, Stack.peek,
      dif_pos (by rw [size_toStack]; exact enough)]
    refine Prod.ext (congrArg Except.ok (Vector.ext fun index within => ?_)) rfl
    simp only [Vector.getElem_ofFn, getElem_toStack, size_toStack]
  · rw [peek, Action.on_get_bind, dif_neg enough, Stack.peek,
      dif_neg (by rw [size_toStack]; exact enough)]
    rfl

theorem refines_peek (count : Nat) :
    Refines (peek count) fun stack => (stack.peek count).map fun words => (words, stack) := by
  intro columns
  rw [EndsAs, on_peek]
  cases found : columns.toStack.peek count with
  | ok words => exact .inl ⟨words, columns, rfl, congrArg (Except.map _) found⟩
  | error reason => exact .inr ⟨reason, rfl, congrArg (Except.map _) found⟩

theorem refines_pop (count : Nat) : Refines (pop count) fun stack => stack.pop count := by
  intro columns
  have peeked := on_peek count columns
  beta_reduce
  rw [Stack.pop]
  cases found : columns.toStack.peek count with
  | ok words =>
      rw [found] at peeked
      have enough := Stack.le_size_of_peek found
      rw [Stack.size, size_toStack] at enough
      refine .inl ⟨words, columns.lower count, Action.on_bind_of_ok peeked _, ?_⟩
      rw [drop_toStack columns enough]
      rfl
  | error reason =>
      rw [found] at peeked
      exact .inr ⟨reason, Action.on_bind_of_error peeked _, rfl⟩

theorem refines_clear : Refines clear fun stack => .ok ((), stack.clear) := by
  intro columns
  refine .inl ⟨(), { columns with size := 0, bounded := Nat.zero_le _ }, rfl, ?_⟩
  refine congrArg (fun stack => Except.ok ((), stack)) (toStack_eq ?_ ?_).symm
  · exact List.take_zero
  · change List.drop 0 columns.slots = _
    simp [toStack, Stack.clear]

/-- The word that is doubled is looked at before there has to be room for it. -/
theorem refines_dup (index : Nat) :
    Refines (dup index) fun stack => (stack.dup index).map fun next => ((), next) := by
  refine refines_guarded (fun columns within => ?_) fun columns beyond => ?_
  · have doubled : columns.toStack.dup index =
        columns.toStack.push (columns.read (columns.size - 1 - index) (columns.slot_lt within)) := by
      rw [Stack.dup, dif_pos (by simpa [size_toStack] using within)]
      simp only [getElem_toStack, size_toStack]
    rw [doubled]
    exact refines_push _ columns
  · exact congrArg (Except.map _) (dif_neg (by rwa [size_toStack]))

theorem swap_toStack (columns : Columns) {index : Nat} (within : index < columns.size) :
    let top := columns.size - 1
    let topWithin := columns.slot_lt (Nat.zero_lt_of_lt within)
    columns.toStack.swap index =
      .ok (((columns.write top (columns.read (top - index) (columns.slot_lt within)) topWithin).write
        (top - index) (columns.read top topWithin) (columns.slot_lt within)).toStack) := by
  intro top topWithin
  rw [Stack.swap, dif_pos (by simpa [size_toStack] using within), Except.ok.injEq]
  symm
  apply toStack_eq
  · change List.take columns.size (write _ _ _ _).slots = _
    rw [slots_write, slots_write, Array.toList_swap]
    simp only [getElem_toStack, size_toStack]
    simp only [toStack, List.take_set, top]
  · change List.drop columns.size (write _ _ _ _).slots = _
    rw [slots_write, slots_write, List.drop_set_of_lt (by omega), List.drop_set_of_lt (by omega)]
    rfl

theorem refines_swap (index : Nat) :
    Refines (swap index) fun stack => (stack.swap index).map fun next => ((), next) := by
  refine refines_guarded (fun columns within => ?_) fun columns beyond => ?_
  · exact .inl ⟨(), _, rfl, congrArg (Except.map _) (swap_toStack columns within)⟩
  · exact congrArg (Except.map _) (dif_neg (by rwa [size_toStack]))

theorem refines_popOne : Refines popOne Stack.popWord :=
  (refines_pop 1).map Vector.head Stack.popWord_eq

theorem refines_popWord : Refines popWord Stack.popWord := by
  refine refines_popOne.map Word.intern fun stack => ?_
  simp only [Word.intern_eq]
  cases stack.popWord <;> rfl

/-- A view of the topmost word that is the same for every word takes it off in the same way. -/
theorem refines_popOne_bind {operation : Stack → Except Halt (Alpha × Stack)}
    {next : Word → Action Alpha} (view : Word → Alpha) (same : ∀ word, next word = pure (view word))
    (views : ∀ stack, operation stack =
      (Stack.popWord stack).map fun (word, rest) => (view word, rest)) :
    Refines (popOne >>= next) operation := by
  rw [funext same]
  exact refines_popOne.map view views

theorem refines_popClamped63 : Refines popClamped63 Stack.popClamped63 := by
  refine refines_popOne_bind (fun word => Min.min word.toNatSaturating 0x7fffffffffffffff)
    (fun word => congrArg pure ?_) fun _ => rfl
  unfold Word.toNatSaturating Word.toLimbSaturating
  split <;> rfl

theorem refines_popClamped31 : Refines popClamped31 Stack.popClamped31 := by
  refine refines_popOne_bind (fun word => Min.min word.toNatSaturating 0x7fffffff)
    (fun word => ?_) fun _ => rfl
  unfold Word.toNatSaturating Word.toLimbSaturating
  split <;> rfl

theorem refines_popAddress : Refines popAddress Stack.popAddress :=
  refines_popOne.map Word.toAddress fun _ => rfl

theorem refines_popHash : Refines popHash Stack.popHash :=
  refines_popOne.map Word.toHash fun _ => rfl

end Columns

end CancunMachine
