import Mathlib.Tactic
import CancunMachine.Warmth

/-!
# Warming and cooling

The order of warming is what the numbers, the bits and the stack are kept for: it lists the warm
keys, each once. Whatever a frame warms was cold when it was entered, and it lies on top of this
order. Cooling back to the mark of the frame therefore gives the old warmth of every key.
-/

namespace CancunMachine

namespace Warmth

variable (warmth : Warmth) (key : WarmKey)

/-- The warm keys, the one warmed last first. -/
def order : List WarmKey := warmth.undo.filterMap fun number => warmth.keys[number]?

/-- A key has one number only. -/
theorem number_unique {first second : Nat} (one : warmth.keys[first]? = some key)
    (other : warmth.keys[second]? = some key) : first = second := by
  have number := (warmth.consistent.numbered key first).mpr one
  have again := (warmth.consistent.numbered key second).mpr other
  exact Option.some.inj (number.symm.trans again)

theorem isWarm_iff_mem_order : warmth.isWarm key = true ↔ key ∈ warmth.order := by
  have warm : warmth.isWarm key = true ↔
      ∃ number, warmth.index.get? key = some number ∧ warmth.bits[number]? = some true := by
    unfold isWarm
    cases warmth.index.get? key with
    | none => simp
    | some number => cases seen : warmth.bits[number]? <;> simp [seen]
  rw [warm, order, List.mem_filterMap]
  refine exists_congr fun number => ?_
  rw [warmth.consistent.numbered, warmth.consistent.flagged, and_comm]

theorem nodup_order : warmth.order.Nodup :=
  warmth.consistent.distinct.filterMap fun _ _ key one other =>
    warmth.number_unique key one other

theorem length_order : warmth.order.length = warmth.size := by
  refine List.filterMap_length_eq_length.mpr fun number member => ?_
  have bound := warmth.consistent.undo_lt member
  rw [warmth.consistent.sized] at bound
  simp [bound]

theorem begin_empty : empty.begin = .ok () := by simp [begin, empty]

theorem intern_numbers : (warmth.intern key).2.keys[(warmth.intern key).1]? = some key := by
  unfold intern
  split
  · rename_i number seen
    exact (warmth.consistent.numbered key number).mp seen
  · exact Array.getElem?_push_size

theorem order_intern : (warmth.intern key).2.order = warmth.order := by
  unfold intern
  split
  · rfl
  · refine List.filterMap_congr fun number member => ?_
    have bound := warmth.consistent.undo_lt member
    rw [warmth.consistent.sized] at bound
    rw [Array.getElem?_push, if_neg (Nat.ne_of_lt bound)]

theorem always_intern : (warmth.intern key).2.always = warmth.always := by
  unfold intern
  split <;> rfl

/-- The bit that an access looks at tells whether the key is warm. -/
theorem flagged_intern :
    (warmth.intern key).2.bits[(warmth.intern key).1]? = some true ↔ warmth.isWarm key = true := by
  rw [(warmth.intern key).2.consistent.flagged, warmth.isWarm_iff_mem_order,
    ← warmth.order_intern key, order, List.mem_filterMap]
  constructor
  · intro member
    exact ⟨_, member, warmth.intern_numbers key⟩
  · rintro ⟨number, member, numbered⟩
    rw [(warmth.intern key).2.number_unique key (warmth.intern_numbers key) numbered]
    exact member

/-- An access answers whether the key was warm and leaves it warm, on top of the order if it was
cold. -/
theorem access_spec :
    (warmth.access key).1 = warmth.isWarm key ∧
      (warmth.access key).2.always = warmth.always ∧
      (warmth.access key).2.order =
        if warmth.isWarm key = true then warmth.order else key :: warmth.order := by
  unfold access
  by_cases warm : (warmth.intern key).2.bits[(warmth.intern key).1]? = some true
  · have known := (warmth.flagged_intern key).mp warm
    simp only [dif_pos warm, if_pos known]
    exact ⟨known.symm, warmth.always_intern key, warmth.order_intern key⟩
  · have unknown := (warmth.flagged_intern key).not.mp warm
    simp only [dif_neg warm, if_neg unknown]
    refine ⟨(Bool.eq_false_iff.mpr unknown).symm, warmth.always_intern key, ?_⟩
    rw [← warmth.order_intern key, order, List.filterMap_cons]
    simp only [warmth.intern_numbers key]
    rfl

theorem always_touch : (warmth.touch key).always = warmth.always := (warmth.access_spec key).2.1

theorem order_touch : (warmth.touch key).order =
    if warmth.isWarm key = true then warmth.order else key :: warmth.order :=
  (warmth.access_spec key).2.2

theorem isWarm_touch : (warmth.touch key).isWarm key = true := by
  rw [isWarm_iff_mem_order, order_touch]
  split
  · rename_i warm
    exact (warmth.isWarm_iff_mem_order key).mp warm
  · exact List.mem_cons_self

theorem touchAddress_eq (address : Address) : warmth.touchAddress address =
    if warmth.isAlways address = true then warmth else warmth.touch ⟨address, none⟩ := by
  unfold touchAddress accessAddress
  split <;> rfl

theorem always_pop : warmth.pop.always = warmth.always := by
  unfold pop
  split <;> rfl

theorem order_pop : warmth.pop.order = warmth.order.tail := by
  unfold pop
  split
  · rename_i top
    rw [order, top]
    rfl
  · rename_i number undo top
    have member : number ∈ warmth.undo := by rw [top]; exact List.mem_cons_self
    have bound := warmth.consistent.undo_lt member
    rw [warmth.consistent.sized] at bound
    have whole : warmth.order =
        warmth.keys[number] :: undo.filterMap fun number => warmth.keys[number]? := by
      unfold order
      rw [top, List.filterMap_cons, Array.getElem?_eq_getElem bound]
    rw [whole]
    rfl

theorem always_cool (count : Nat) : (warmth.cool count).always = warmth.always := by
  induction count generalizing warmth with
  | zero => rfl
  | succ count inductionHypothesis =>
      rw [cool, inductionHypothesis, always_pop]

theorem order_cool (count : Nat) : (warmth.cool count).order = warmth.order.drop count := by
  induction count generalizing warmth with
  | zero => rfl
  | succ count inductionHypothesis =>
      rw [cool, inductionHypothesis, order_pop, List.drop_tail]

theorem always_unwind (mark : Nat) : (warmth.unwind mark).always = warmth.always :=
  warmth.always_cool _

theorem order_unwind (mark : Nat) :
    (warmth.unwind mark).order = warmth.order.drop (warmth.size - mark) :=
  warmth.order_cool _

/-- `next` comes from `warmth` by warming cold keys. -/
structure Extends (warmth next : Warmth) : Prop where
  always : next.always = warmth.always
  warmed : ∃ keys, next.order = keys ++ warmth.order ∧
    (∀ key, next.isWarm key = true ↔ key ∈ keys ∨ warmth.isWarm key = true) ∧
    ∀ key ∈ keys, warmth.isWarm key = false

/-- The same keys are warm, and they were warmed in the same order. -/
structure Alike (warmth next : Warmth) : Prop where
  always : next.always = warmth.always
  order : next.order = warmth.order
  isWarm : ∀ key, next.isWarm key = warmth.isWarm key

variable {warmth} {next : Warmth}

theorem Alike.of_order (always : next.always = warmth.always)
    (order : next.order = warmth.order) : warmth.Alike next where
  always := always
  order := order
  isWarm := fun key => by
    rw [Bool.eq_iff_iff, isWarm_iff_mem_order, isWarm_iff_mem_order, order]

/-- Keys on top of the order were cold, because no key is in the order twice. -/
theorem Extends.of_order (keys : List WarmKey) (always : next.always = warmth.always)
    (order : next.order = keys ++ warmth.order) : warmth.Extends next where
  always := always
  warmed := by
    refine ⟨keys, order, ?_, ?_⟩
    · intro key
      rw [isWarm_iff_mem_order, isWarm_iff_mem_order, order, List.mem_append]
    · intro key member
      have distinct := next.nodup_order
      rw [order, List.nodup_append] at distinct
      rw [← Bool.not_eq_true, isWarm_iff_mem_order]
      exact fun old => distinct.2.2 key member key old rfl

theorem Alike.grows (alike : warmth.Alike next) : warmth.Extends next :=
  .of_order [] alike.always alike.order

variable (warmth) in
theorem Extends.refl : warmth.Extends warmth := .of_order [] rfl rfl

theorem Extends.trans {first second third : Warmth} (earlier : first.Extends second)
    (later : second.Extends third) : first.Extends third := by
  obtain ⟨old, oldOrder, -⟩ := earlier.warmed
  obtain ⟨new, newOrder, -⟩ := later.warmed
  refine .of_order (new ++ old) (later.always.trans earlier.always) ?_
  rw [newOrder, oldOrder, List.append_assoc]

variable (warmth) in
theorem extends_touch : warmth.Extends (warmth.touch key) := by
  have order := warmth.order_touch key
  split at order
  · exact .of_order [] (warmth.always_touch key) order
  · exact .of_order [key] (warmth.always_touch key) order

/-- Cooling back to the size before gives the warmth before. -/
theorem Extends.unwind (grown : warmth.Extends next) :
    warmth.Alike (next.unwind warmth.size) := by
  obtain ⟨always, keys, order, -⟩ := grown
  refine .of_order ((next.always_unwind _).trans always) ?_
  have count : next.size - warmth.size = keys.length := by
    rw [← length_order, ← length_order, order, List.length_append, Nat.add_sub_cancel_right]
  rw [order_unwind, count, order, List.drop_left]

theorem Alike.isWarmAddress (alike : warmth.Alike next) (address : Address) :
    next.isWarmAddress address = warmth.isWarmAddress address := by
  unfold Warmth.isWarmAddress isAlways
  rw [alike.always, alike.isWarm]

end Warmth

end CancunMachine
