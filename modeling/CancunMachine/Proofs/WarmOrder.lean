import Mathlib.Data.Finset.Basic
import Mathlib.Tactic
import CancunMachine.Proofs.Replay
import CancunMachine.Proofs.Warmth

/-!
# Warmth is an ordered set

The reference is a set of addresses that are always warm and one list: the other warm keys, each
once, in the order in which they were warmed. Numbers, bits and the stack of numbers give the same
answers as this list whatever is done, and a mark is a length of it.
-/

namespace CancunMachine

/-- What can be done to the warmth of a transaction. -/
inductive WarmStep
  | setAlways (addresses : List Address)
  | accessAddress (address : Address)
  | accessSlot (address : Address) (slot : Word)
  | unwind (mark : Nat)
  | finish
  | begin

/-- Nothing that was warmed before the mark is cooled. -/
def WarmStep.Spares (mark : Nat) : WarmStep → Prop
  | .unwind lower => mark ≤ lower
  | .finish => mark = 0
  | _ => True

/-- What a step answers: the former warmth for an access, and an error if keys are warm that
should not be. -/
abbrev WarmAnswer : Type := Except InternalError (Option Bool)

def WarmAnswer.was (warm : Bool) : WarmAnswer := .ok (some warm)

/-- One step on the tracker. -/
def Warmth.perform : WarmStep → Warmth → WarmAnswer × Warmth
  | .setAlways addresses, warmth => (.ok none, warmth.setAlways addresses)
  | .accessAddress address, warmth => (warmth.accessAddress address).map WarmAnswer.was id
  | .accessSlot address slot, warmth => (warmth.accessSlot address slot).map WarmAnswer.was id
  | .unwind mark, warmth => (.ok none, warmth.unwind mark)
  | .finish, warmth => (.ok none, warmth.finish)
  | .begin, warmth => (warmth.begin.map fun _ => none, warmth)

/-- The addresses that are always warm, and the other warm keys in the order of warming. -/
structure WarmList where
  always : Finset Address
  warmed : List WarmKey

namespace WarmList

def start : WarmList := ⟨∅, []⟩

/-- Appends a key that is not there yet, and tells whether it was there. -/
def access (model : WarmList) (key : WarmKey) : Bool × WarmList :=
  if key ∈ model.warmed then (true, model)
  else (false, { model with warmed := model.warmed ++ [key] })

/-- One step on the list. -/
def perform : WarmStep → WarmList → WarmAnswer × WarmList
  | .setAlways addresses, model => (.ok none, { model with always := addresses.toFinset })
  | .accessAddress address, model =>
      if address ∈ model.always then (.was true, model)
      else (model.access ⟨address, none⟩).map WarmAnswer.was id
  | .accessSlot address slot, model => (model.access ⟨address, some slot⟩).map WarmAnswer.was id
  | .unwind mark, model => (.ok none, { model with warmed := model.warmed.take mark })
  | .finish, model => (.ok none, { model with warmed := [] })
  | .begin, model =>
      if model.warmed = [] then (.ok none, model) else (.error .warmStateLeak, model)

end WarmList

namespace Warmth

/-- A tracker and a list that cannot be told apart. -/
structure Shows (warmth : Warmth) (model : WarmList) : Prop where
  isAlways : ∀ address, warmth.isAlways address = true ↔ address ∈ model.always
  isWarm : ∀ key, warmth.isWarm key = true ↔ key ∈ model.warmed
  isWarmAddress : ∀ address, warmth.isWarmAddress address = true ↔
    address ∈ model.always ∨ ⟨address, none⟩ ∈ model.warmed
  size : warmth.size = model.warmed.length
  nodup : model.warmed.Nodup

/-- Every number by which a bit is read or written is in range: the number of a key, also of one
that an access is about to see for the first time, and the numbers on the stack. -/
structure InRange (warmth : Warmth) : Prop where
  index : ∀ key number, warmth.index.get? key = some number → number < warmth.bits.size
  intern : ∀ key, (warmth.intern key).1 < (warmth.intern key).2.bits.size
  undo : ∀ number ∈ warmth.undo, number < warmth.bits.size

theorem inRange (warmth : Warmth) : warmth.InRange where
  index := fun _ _ found => warmth.consistent.number_lt found
  intern := warmth.intern_lt
  undo := fun _ member => warmth.consistent.undo_lt member

/-- The same addresses are always warm, and the order of warming is the list from its end. -/
structure Mirrors (warmth : Warmth) (model : WarmList) : Prop where
  isAlways : ∀ address, warmth.isAlways address = true ↔ address ∈ model.always
  order : warmth.order = model.warmed.reverse

variable {warmth next : Warmth} {model : WarmList}

theorem isAlways_of_always (always : next.always = warmth.always) (address : Address) :
    next.isAlways address = warmth.isAlways address := by
  unfold isAlways
  rw [always]

theorem Mirrors.isWarm (mirrors : warmth.Mirrors model) (key : WarmKey) :
    warmth.isWarm key = true ↔ key ∈ model.warmed := by
  rw [isWarm_iff_mem_order, mirrors.order, List.mem_reverse]

theorem Mirrors.size (mirrors : warmth.Mirrors model) : warmth.size = model.warmed.length := by
  rw [← length_order, mirrors.order, List.length_reverse]

theorem Mirrors.shows (mirrors : warmth.Mirrors model) : warmth.Shows model where
  isAlways := mirrors.isAlways
  isWarm := mirrors.isWarm
  isWarmAddress := fun address => by
    rw [isWarmAddress, Bool.or_eq_true, mirrors.isAlways, mirrors.isWarm]
  size := mirrors.size
  nodup := by
    have distinct := warmth.nodup_order
    rwa [mirrors.order, List.nodup_reverse] at distinct

theorem Mirrors.access (mirrors : warmth.Mirrors model) (key : WarmKey) :
    (warmth.access key).1 = (model.access key).1 ∧
      (warmth.access key).2.Mirrors (model.access key).2 := by
  obtain ⟨answer, always, order⟩ := warmth.access_spec key
  have unchanged : ∀ address, (warmth.access key).2.isAlways address = true ↔
      address ∈ model.always := fun address => by
    rw [isAlways_of_always always, mirrors.isAlways]
  unfold WarmList.access
  by_cases member : key ∈ model.warmed
  · have warm := (mirrors.isWarm key).mpr member
    rw [if_pos warm] at order
    rw [if_pos member]
    exact ⟨answer.trans warm, unchanged, order.trans mirrors.order⟩
  · have cold := (mirrors.isWarm key).not.mpr member
    rw [if_neg cold] at order
    rw [if_neg member]
    refine ⟨answer.trans (Bool.eq_false_iff.mpr cold), unchanged, ?_⟩
    rw [order, mirrors.order, List.reverse_concat]

/-- Cooling from the top of the order leaves the beginning of the list. -/
theorem Mirrors.unwind (mirrors : warmth.Mirrors model) (mark : Nat) :
    (warmth.unwind mark).Mirrors { model with warmed := model.warmed.take mark } where
  isAlways := fun address => by
    rw [isAlways_of_always (warmth.always_unwind mark), mirrors.isAlways]
  order := by
    rw [order_unwind, mirrors.order, mirrors.size, List.reverse_take]

/-- No bit is set without its number on the stack, so both checks ask for an empty list. -/
theorem Mirrors.begin (mirrors : warmth.Mirrors model) :
    warmth.begin = if model.warmed = [] then .ok () else .error .warmStateLeak := by
  unfold Warmth.begin
  by_cases none : model.warmed = []
  · have length := mirrors.size
    rw [none] at length
    have bottom : warmth.undo = [] := List.length_eq_zero_iff.mp length
    have clear : warmth.bits.any id = false := by
      rw [Array.any_eq_false]
      intro number bound set
      have flagged : warmth.bits[number]? = some true :=
        Array.getElem?_eq_some_iff.mpr ⟨bound, set⟩
      rw [warmth.consistent.flagged, bottom] at flagged
      cases flagged
    rw [if_pos none, bottom, clear]
    rfl
  · have filled : warmth.undo.isEmpty = false := by
      rw [List.isEmpty_eq_false_iff]
      intro bottom
      refine none (List.length_eq_zero_iff.mp (mirrors.size.symm.trans ?_))
      exact congrArg List.length bottom
    rw [if_neg none, filled]
    rfl

/-- Every step gives the answer of the list and keeps the two alike. -/
theorem Mirrors.perform (step : WarmStep) (warmth : Warmth) (model : WarmList)
    (mirrors : warmth.Mirrors model) :
    (Warmth.perform step warmth).1 = (WarmList.perform step model).1 ∧
      (Warmth.perform step warmth).2.Mirrors (WarmList.perform step model).2 := by
  cases step with
  | setAlways addresses =>
      refine ⟨rfl, fun address => ?_, mirrors.order⟩
      change addresses.contains address = true ↔ address ∈ addresses.toFinset
      simp
  | accessAddress address =>
      simp only [Warmth.perform, WarmList.perform, accessAddress]
      by_cases member : address ∈ model.always
      · rw [if_pos ((mirrors.isAlways address).mpr member), if_pos member]
        exact ⟨rfl, mirrors⟩
      · rw [if_neg ((mirrors.isAlways address).not.mpr member), if_neg member]
        obtain ⟨answer, alike⟩ := mirrors.access ⟨address, none⟩
        exact ⟨congrArg WarmAnswer.was answer, alike⟩
  | accessSlot address slot =>
      obtain ⟨answer, alike⟩ := mirrors.access ⟨address, some slot⟩
      exact ⟨congrArg WarmAnswer.was answer, alike⟩
  | unwind mark => exact ⟨rfl, mirrors.unwind mark⟩
  | finish =>
      have cooled := mirrors.unwind 0
      rw [List.take_zero] at cooled
      exact ⟨rfl, cooled⟩
  | begin =>
      simp only [Warmth.perform, WarmList.perform, mirrors.begin]
      split
      · exact ⟨rfl, mirrors⟩
      · exact ⟨rfl, mirrors⟩

theorem mirrors_start : Warmth.empty.Mirrors .start where
  isAlways := fun _ => by simp [isAlways, empty, WarmList.start]
  order := rfl

/-- What was warm at a mark stays at the bottom of the order while no step cools below it. -/
theorem order_of_spares {step : WarmStep} {mark : Nat} (spares : step.Spares mark)
    {bottom : List WarmKey} (height : bottom.length = mark) (below : bottom <:+ warmth.order) :
    bottom <:+ (Warmth.perform step warmth).2.order := by
  have accessed : ∀ key, bottom <:+ (warmth.access key).2.order := by
    intro key
    rw [(warmth.access_spec key).2.2]
    split
    · exact below
    · exact below.trans (List.suffix_cons _ _)
  have unwound : ∀ lower, mark ≤ lower → bottom <:+ (warmth.unwind lower).order := by
    intro lower above
    obtain ⟨upper, whole⟩ := below
    have size := warmth.length_order
    rw [← whole, List.length_append] at size
    rw [order_unwind, ← whole, List.drop_append_of_le_length (by omega)]
    exact List.suffix_append _ _
  cases step with
  | setAlways addresses => exact below
  | accessAddress address =>
      change bottom <:+ (warmth.accessAddress address).2.order
      unfold accessAddress
      split
      · exact below
      · exact accessed _
  | accessSlot address slot => exact accessed _
  | unwind lower => exact unwound lower spares
  | finish => exact unwound 0 spares.le
  | begin => exact below

/-- Unwinding to a mark below which nothing was cooled gives the order of warming at the mark. -/
theorem order_of_restored (steps : List WarmStep)
    (spare : ∀ step ∈ steps, step.Spares warmth.size) :
    ((performAll Warmth.perform steps warmth).2.unwind warmth.size).order = warmth.order := by
  have keeps : ∀ step ∈ steps, ∀ started : Warmth, warmth.order <:+ started.order →
      warmth.order <:+ (Warmth.perform step started).2.order :=
    fun step member started below => order_of_spares (spare step member) warmth.length_order below
  have kept : warmth.order <:+ (performAll Warmth.perform steps warmth).2.order :=
    performAll_keeps keeps List.suffix_rfl
  obtain ⟨upper, whole⟩ := kept
  rw [order_unwind, ← length_order, ← length_order, ← whole, List.length_append,
    Nat.add_sub_cancel_right, List.drop_left]

/-- Whatever is done to a new tracker, in whatever order, all answers are those of the list, no
observation tells the two apart, and every bit that is read or written exists. Unwinding to the mark
of the moment restores its warmth after any further steps that cool nothing below the mark. -/
theorem warmth_is_ordered_set (steps : List WarmStep) :
    let (answers, warmth) := performAll Warmth.perform steps .empty
    let (expected, model) := performAll WarmList.perform steps .start
    answers = expected ∧ warmth.Shows model ∧ warmth.InRange ∧
      ∀ later : List WarmStep, (∀ step ∈ later, step.Spares warmth.size) →
        let restored := (performAll Warmth.perform later warmth).2.unwind warmth.size
        restored.size = warmth.size ∧ ∀ key, restored.isWarm key = warmth.isWarm key := by
  obtain ⟨answers, mirrors⟩ := performAll_agrees Mirrors.perform steps mirrors_start
  refine ⟨answers, mirrors.shows, inRange _, fun later spare => ?_⟩
  have order := order_of_restored later spare
  constructor
  · rw [← length_order, order, length_order]
  · intro key
    rw [Bool.eq_iff_iff, isWarm_iff_mem_order, isWarm_iff_mem_order, order]

end Warmth

end CancunMachine
