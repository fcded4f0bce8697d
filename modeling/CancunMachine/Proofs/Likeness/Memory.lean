import Mathlib.Tactic
import CancunMachine.Proofs.Memory

/-!
# Memories that look alike

Two memories look alike if they have the same size and hold the same bytes. Their buffers may have
different capacities: a buffer was only ever grown by doubling and is zero beyond the size, so its
capacity decides neither what is read nor whether the memory can grow.
-/

namespace CancunMachine

open Ending

namespace Bytes

theorem get_of_lt {bytes : ByteArray} {position : Nat} (within : position < bytes.size) :
    get bytes position = bytes[position] := dif_pos within

theorem get_of_le {bytes : ByteArray} {position : Nat} (beyond : bytes.size ≤ position) :
    get bytes position = 0 := dif_neg (Nat.not_lt.mpr beyond)

theorem get_append (first second : ByteArray) (position : Nat) :
    get (first ++ second) position =
      if position < first.size then get first position else get second (position - first.size) := by
  split
  · rename_i early
    have within : position < (first ++ second).size := by
      rw [ByteArray.size_append]
      omega
    rw [get_of_lt within, get_of_lt early, ByteArray.getElem_append_left early]
  · rename_i late
    rcases Nat.lt_or_ge position (first ++ second).size with within | beyond
    · have later : position - first.size < second.size := by
        rw [ByteArray.size_append] at within
        omega
      rw [get_of_lt within, get_of_lt later,
        ByteArray.getElem_append_right (Nat.not_lt.mp late)]
    · rw [get_of_le beyond, get_of_le]
      rw [ByteArray.size_append] at beyond
      omega

theorem get_zeros (size position : Nat) : get (zeros size) position = 0 := by
  rcases Nat.lt_or_ge position (zeros size).size with within | beyond
  · rw [get_of_lt within, ByteArray.getElem_eq_getElem_data]
    exact Array.getElem_replicate _
  · exact get_of_le beyond

theorem get_extract (bytes : ByteArray) (start stop position : Nat) :
    get (bytes.extract start stop) position =
      if position < stop - start then get bytes (start + position) else 0 := by
  rcases Nat.lt_or_ge position (bytes.extract start stop).size with within | beyond
  · have inside := within
    rw [ByteArray.size_extract] at inside
    have reached : start + position < bytes.size := by omega
    rw [if_pos (by omega), get_of_lt within, get_of_lt reached, ByteArray.getElem_extract]
  · have outside := beyond
    rw [ByteArray.size_extract] at outside
    rw [get_of_le beyond]
    split
    · exact (get_of_le (by omega)).symm
    · rfl

theorem ext_get {first second : ByteArray} (size : first.size = second.size)
    (same : ∀ position, get first position = get second position) : first = second := by
  refine ByteArray.ext_getElem size fun position within other => ?_
  rw [← get_of_lt within, ← get_of_lt other, same]

theorem size_resized (bytes : ByteArray) (size : Nat) : (resized bytes size).size = size := by
  simp only [resized, ByteArray.size_append, ByteArray.size_extract, size_zeros]
  omega

theorem size_overwrite {bytes data : ByteArray} {offset : Nat}
    (fits : offset + data.size ≤ bytes.size) : (overwrite bytes offset data).size = bytes.size := by
  simp only [overwrite, ByteArray.copySlice_eq_append, ByteArray.size_append,
    ByteArray.size_extract, ByteArray.size_data]
  omega

theorem get_overwrite {bytes data : ByteArray} {offset : Nat}
    (fits : offset + data.size ≤ bytes.size) (position : Nat) :
    get (overwrite bytes offset data) position =
      if offset ≤ position ∧ position < offset + data.size then get data (position - offset)
      else get bytes position := by
  have whole : overwrite bytes offset data = bytes.extract 0 offset ++ data ++
      bytes.extract (offset + data.size) bytes.size := by
    rw [overwrite, ByteArray.copySlice_eq_append, Nat.zero_add, ByteArray.extract_zero_size,
      ByteArray.size_data, ByteArray.size_data, Nat.sub_zero, Nat.min_self]
  have front : (bytes.extract 0 offset).size = offset := by
    rw [ByteArray.size_extract]
    omega
  rw [whole, get_append, get_append, get_extract, get_extract, ByteArray.size_append]
  simp only [front]
  rcases Nat.lt_or_ge position offset with before | after
  · rw [if_pos (by omega), if_pos before, if_pos (by omega), if_neg (by omega), Nat.zero_add]
  · rcases Nat.lt_or_ge position (offset + data.size) with inside | behind
    · rw [if_pos inside, if_neg (by omega), if_pos ⟨after, inside⟩]
    · have other : ¬(offset ≤ position ∧ position < offset + data.size) := by omega
      rw [if_neg (by omega), if_neg other]
      rcases Nat.lt_or_ge position bytes.size with within | beyond
      · rw [if_pos (by omega)]
        congr 1
        omega
      · rw [if_neg (by omega), get_of_le beyond]

end Bytes

/-- Two answers that correspond: values that do, or the same error. -/
inductive Answers {Error Alpha Beta : Type} (values : Alpha → Beta → Prop) :
    Except Error Alpha → Except Error Beta → Prop
  | ok {first : Alpha} {second : Beta} :
      values first second → Answers values (.ok first) (.ok second)
  | error (cause : Error) : Answers values (.error cause) (.error cause)

namespace Memory

/-- The capacities that doubling leads to. -/
def Doubled (capacity : Nat) : Prop :=
  capacity = 0 ∨ ∃ steps, steps ≤ 58 ∧ capacity = 32 * 2 ^ steps

/-- A memory whose buffer has grown by doubling and is zero beyond the size. -/
structure Tidy (memory : Memory) : Prop where
  doubled : Doubled memory.capacity
  clean : ∀ position, memory.size ≤ position → Bytes.get memory.buffer position = 0

/-- Two memories that cannot be told apart by reading them. -/
structure Alike (memory other : Memory) : Prop where
  size : memory.size = other.size
  bytes : ∀ position, Bytes.get memory.buffer position = Bytes.get other.buffer position
  tidy : memory.Tidy
  otherTidy : other.Tidy

theorem tidy_empty : Tidy empty where
  doubled := .inl rfl
  clean := fun _ _ => Bytes.get_of_le (Nat.zero_le _)

theorem alike_of_cleared {memory other : Memory} (tidy : memory.Tidy) (otherTidy : other.Tidy)
    (cleared : memory.size = 0) (otherCleared : other.size = 0) : memory.Alike other where
  size := cleared.trans otherCleared.symm
  bytes := by
    intro position
    rw [tidy.clean position (cleared ▸ Nat.zero_le _),
      otherTidy.clean position (otherCleared ▸ Nat.zero_le _)]
  tidy := tidy
  otherTidy := otherTidy

theorem tidy_reset {memory : Memory} (tidy : memory.Tidy) : memory.reset.Tidy := by
  have fits : 0 + (Bytes.zeros memory.size).size ≤ memory.buffer.size := by
    rw [Bytes.size_zeros, Nat.zero_add]
    exact memory.fits
  constructor
  case doubled =>
    have same : memory.reset.capacity = memory.capacity := Bytes.size_overwrite fits
    rw [same]
    exact tidy.doubled
  case clean =>
    intro position _
    rw [reset, Bytes.get_overwrite fits, Bytes.size_zeros]
    split
    · exact Bytes.get_zeros _ _
    · exact tidy.clean position (by omega)

/-- Doubling reaches all sizes up to the largest power of two that is a position, wherever it
starts. -/
theorem doubleUntil_of_le {needed : Nat} (small : needed ≤ 32 * 2 ^ 58) {steps doublings : Nat}
    (few : doublings ≤ 58) (enough : 58 < steps + doublings) :
    ∃ grown, doubleUntil needed steps (32 * 2 ^ doublings) = some grown ∧ Doubled grown := by
  induction steps generalizing doublings with
  | zero => omega
  | succ steps inductionHypothesis =>
      unfold doubleUntil
      split
      · exact ⟨_, rfl, .inr ⟨doublings, few, rfl⟩⟩
      · rename_i short
        have less : doublings < 58 := by
          by_contra most
          have all : doublings = 58 := by omega
          exact short (all ▸ small)
        have next : 2 * (32 * 2 ^ doublings) = 32 * 2 ^ (doublings + 1) := by
          rw [pow_succ]
          omega
        have bounded : 2 ^ (doublings + 1) ≤ 2 ^ 58 := Nat.pow_le_pow_right (by decide) less
        rw [next, if_pos (by rw [positionLimit]; omega)]
        exact inductionHypothesis less (by omega)

theorem doubleUntil_of_lt {needed : Nat} (large : 32 * 2 ^ 58 < needed) {doublings : Nat}
    (few : doublings ≤ 58) (steps : Nat) :
    doubleUntil needed steps (32 * 2 ^ doublings) = none := by
  induction steps generalizing doublings with
  | zero => rfl
  | succ steps inductionHypothesis =>
      have bounded : 2 ^ doublings ≤ 2 ^ 58 := Nat.pow_le_pow_right (by decide) few
      unfold doubleUntil
      rw [if_neg (by omega)]
      split
      · rename_i room
        have next : 2 * (32 * 2 ^ doublings) = 32 * 2 ^ (doublings + 1) := by
          rw [pow_succ]
          omega
        have less : doublings < 58 := by
          by_contra most
          have all : doublings = 58 := by omega
          rw [all, positionLimit] at room
          omega
        rw [next]
        exact inductionHypothesis less
      · rfl

/-- Whether a buffer can grow does not depend on how large it is. -/
theorem grownCapacity?_of_tidy {memory : Memory} (tidy : memory.Tidy) (needed : Nat) :
    if needed ≤ 32 * 2 ^ 58 then
      ∃ grown, memory.grownCapacity? needed = some grown ∧ Doubled grown
    else memory.grownCapacity? needed = none := by
  have start : ∃ doublings, doublings ≤ 58 ∧ max memory.capacity 32 = 32 * 2 ^ doublings := by
    rcases tidy.doubled with none | ⟨doublings, few, some⟩
    · exact ⟨0, by omega, by rw [none]; rfl⟩
    · refine ⟨doublings, few, ?_⟩
      have positive : 0 < 2 ^ doublings := Nat.two_pow_pos doublings
      omega
  obtain ⟨doublings, few, start⟩ := start
  have bounded : 2 ^ doublings ≤ 2 ^ 58 := Nat.pow_le_pow_right (by decide) few
  split
  · rename_i small
    unfold grownCapacity?
    split
    · exact ⟨_, rfl, tidy.doubled⟩
    · rw [start]
      exact doubleUntil_of_le small few (by omega)
  · rename_i large
    unfold grownCapacity?
    rw [if_neg (by omega), start]
    exact doubleUntil_of_lt (Nat.not_le.mp large) few _

theorem bytes_extended (memory : Memory) {size capacity : Nat} (enough : size ≤ capacity)
    (position : Nat) : Bytes.get (memory.extended size capacity enough).buffer position =
      Bytes.get memory.buffer position := by
  dsimp only [extended, allocated]
  rw [Bytes.get_append]
  split
  · rfl
  · rename_i beyond
    rw [Bytes.get_zeros, Bytes.get_of_le (Nat.not_lt.mp beyond)]

theorem tidy_extended {memory : Memory} (tidy : memory.Tidy) {size capacity : Nat}
    (larger : memory.size ≤ size) (enough : size ≤ capacity) (doubled : Doubled capacity)
    (grown : memory.capacity ≤ capacity) : (memory.extended size capacity enough).Tidy where
  doubled := by
    have same : (memory.extended size capacity enough).capacity = capacity := by
      simp only [extended, allocated, Memory.capacity, ByteArray.size_append,
        Bytes.size_zeros] at grown ⊢
      omega
    rw [same]
    exact doubled
  clean := by
    intro position beyond
    rw [bytes_extended]
    exact tidy.clean position (larger.trans beyond)

theorem capacity_le_of_grownCapacity? {memory : Memory} {needed grown : Nat}
    (reached : memory.grownCapacity? needed = some grown) : memory.capacity ≤ grown := by
  have doubles : ∀ {steps capacity}, doubleUntil needed steps capacity = some grown →
      capacity ≤ grown := by
    intro steps
    induction steps with
    | zero => exact fun impossible => nomatch impossible
    | succ steps inductionHypothesis =>
        intro capacity doubled
        unfold doubleUntil at doubled
        split at doubled
        · cases doubled
          exact le_refl _
        · split at doubled
          · exact (Nat.le_mul_of_pos_left _ (by decide)).trans (inductionHypothesis doubled)
          · cases doubled
  unfold grownCapacity? at reached
  split at reached
  · cases reached
    exact le_refl _
  · exact (le_max_left _ _).trans (doubles reached)

/-- Two endings that cannot be told apart: the same value or the same failure, with memories that
still look alike. -/
inductive EndAlike {Alpha : Type} :
    EStateM.Result Failure Memory Alpha → EStateM.Result Failure Memory Alpha → Prop
  | ok (value : Alpha) {memory other : Memory} (alike : memory.Alike other) :
      EndAlike (.ok value memory) (.ok value other)
  | error (cause : Failure) {memory other : Memory} (alike : memory.Alike other) :
      EndAlike (.error cause memory) (.error cause other)

theorem EndAlike.bind {Alpha Beta : Type} {first : Action Alpha} {next : Alpha → Action Beta}
    {memory other : Memory} (early : EndAlike (first memory) (first other))
    (late : ∀ value grown same, first memory = .ok value grown → grown.Alike same →
      EndAlike (next value grown) (next value same)) :
    EndAlike ((first >>= next) memory) ((first >>= next) other) := by
  cases ended : first memory <;> cases otherEnded : first other <;> rw [ended, otherEnded] at early
  case ok.ok =>
    rw [bind_of_ok ended, bind_of_ok otherEnded]
    cases early with
    | ok value alike => exact late _ _ _ ended alike
  case error.error =>
    rw [bind_of_error ended, bind_of_error otherEnded]
    cases early with
    | error _ alike => exact .error _ alike
  all_goals cases early

namespace Alike

variable {memory other : Memory} (alike : memory.Alike other)
include alike

/-- Either both buffers can grow or none of them. -/
theorem grownCapacity?_eq_none (size : Nat) :
    memory.grownCapacity? size = none ↔ other.grownCapacity? size = none := by
  have first := grownCapacity?_of_tidy alike.tidy size
  have second := grownCapacity?_of_tidy alike.otherTidy size
  by_cases small : size ≤ 32 * 2 ^ 58
  · rw [if_pos small] at first second
    obtain ⟨capacity, reaches, _⟩ := first
    obtain ⟨otherCapacity, otherReaches, _⟩ := second
    rw [reaches, otherReaches]
    exact iff_of_false nofun nofun
  · rw [if_neg small] at first second
    exact iff_of_true first second

/-- Buffers that have grown are still such as doubling leads to. -/
theorem doubled {size capacity : Nat} (reached : memory.grownCapacity? size = some capacity) :
    Doubled capacity := by
  have known := grownCapacity?_of_tidy alike.tidy size
  split at known
  · obtain ⟨same, reaches, doubled⟩ := known
    cases reached.symm.trans reaches
    exact doubled
  · cases reached.symm.trans known

theorem symm : other.Alike memory :=
  ⟨alike.size.symm, fun position => (alike.bytes position).symm, alike.otherTidy, alike.tidy⟩

theorem extended {size capacity otherCapacity : Nat} (larger : memory.size ≤ size)
    (reached : memory.grownCapacity? size = some capacity)
    (otherReached : other.grownCapacity? size = some otherCapacity) :
    (memory.extended size capacity (le_of_grownCapacity? reached)).Alike
      (other.extended size otherCapacity (le_of_grownCapacity? otherReached)) where
  size := rfl
  bytes := fun position => by rw [bytes_extended, bytes_extended, alike.bytes]
  tidy := tidy_extended alike.tidy larger _ (alike.doubled reached)
    (capacity_le_of_grownCapacity? reached)
  otherTidy := tidy_extended alike.otherTidy (alike.size ▸ larger) _
    (alike.symm.doubled otherReached) (capacity_le_of_grownCapacity? otherReached)

theorem grow (needed : Nat) : EndAlike (Memory.grow needed memory) (Memory.grow needed other) := by
  have first := memory.growth needed
  have second := other.growth needed
  have size := alike.size
  generalize Memory.grow needed memory = ending at first ⊢
  generalize Memory.grow needed other = otherEnding at second ⊢
  cases first with
  | covered covered =>
      cases second with
      | covered => exact .ok () alike
      | stuck short | grown short => omega
  | stuck short stuck =>
      cases second with
      | covered covered => omega
      | stuck => exact .error _ alike
      | grown _ rounded reached =>
          rw [(alike.grownCapacity?_eq_none _).mp (stuck _ rounded)] at reached
          cases reached
  | grown short rounded reached =>
      cases second with
      | covered covered => omega
      | stuck _ stuck =>
          rw [(alike.grownCapacity?_eq_none _).mpr (stuck _ rounded)] at reached
          cases reached
      | grown _ otherRounded otherReached =>
          cases rounded.symm.trans otherRounded
          have covers := le_roundToWord? rounded
          exact .ok () (alike.extended (by omega) reached otherReached)

/-- A range that has been grown into is read alike. -/
theorem extract {start stop : Nat} (covered : stop ≤ memory.size) :
    memory.buffer.extract start stop = other.buffer.extract start stop := by
  have fits := memory.fits
  have otherFits := other.fits
  have same := alike.size
  refine Bytes.ext_get ?_ fun position => ?_
  · rw [ByteArray.size_extract, ByteArray.size_extract]
    omega
  · rw [Bytes.get_extract, Bytes.get_extract, alike.bytes]

/-- A range that has been grown into is written alike. -/
theorem write {offset : Nat} {data : ByteArray} (covered : offset + data.size ≤ memory.size) :
    (memory.write offset data).Alike (other.write offset data) := by
  have tidy : ∀ {memory : Memory}, memory.Tidy → offset + data.size ≤ memory.size →
      (memory.write offset data).Tidy := by
    intro memory tidy covered
    have fits := covered.trans memory.fits
    constructor
    case doubled =>
      have same : (memory.write offset data).capacity = memory.capacity :=
        Bytes.size_overwrite fits
      rw [same]
      exact tidy.doubled
    case clean =>
      intro position beyond
      have behind : memory.size ≤ position := beyond
      rw [Memory.write, Bytes.get_overwrite fits, if_neg (by omega)]
      exact tidy.clean position behind
  have otherCovered : offset + data.size ≤ other.size := alike.size ▸ covered
  refine ⟨alike.size, fun position => ?_, tidy alike.tidy covered,
    tidy alike.otherTidy otherCovered⟩
  rw [Memory.write, Memory.write, Bytes.get_overwrite (covered.trans memory.fits),
    Bytes.get_overwrite (otherCovered.trans other.fits), alike.bytes]

theorem reach (offset size : Nat) :
    EndAlike (Memory.reach offset size memory) (Memory.reach offset size other) := by
  rw [reach_eq, reach_eq]
  split
  · exact alike.grow (offset + size)
  · exact .error _ alike

theorem load (offset size : Nat) :
    EndAlike (Memory.load offset size memory) (Memory.load offset size other) := by
  unfold Memory.load
  split
  · exact .ok _ alike
  · refine (alike.reach offset size).bind fun _ grown same reaches alike => ?_
    rw [bind_of_ok (get_apply grown), bind_of_ok (get_apply same),
      alike.extract (le_size_of_reach reaches)]
    exact .ok _ alike

theorem loadWord (offset : Nat) :
    EndAlike (Memory.loadWord offset memory) (Memory.loadWord offset other) := by
  refine (alike.reach offset 32).bind fun _ grown same reaches alike => ?_
  rw [bind_of_ok (get_apply grown), bind_of_ok (get_apply same),
    alike.extract (le_size_of_reach reaches)]
  exact .ok _ alike

theorem store (offset : Nat) (data : ByteArray) :
    EndAlike (Memory.store offset data memory) (Memory.store offset data other) := by
  unfold Memory.store
  split
  · exact .ok () alike
  · exact (alike.reach offset data.size).bind fun _ _ _ reaches alike =>
      .ok () (alike.write (le_size_of_reach reaches))

theorem storePadded (offset : Nat) (data : ByteArray) (size : Nat) :
    EndAlike (Memory.storePadded offset data size memory)
      (Memory.storePadded offset data size other) := by
  unfold Memory.storePadded
  split
  · exact .ok () alike
  · refine (alike.reach offset size).bind fun _ _ _ reaches alike => .ok () (alike.write ?_)
    rw [Bytes.size_resized]
    exact le_size_of_reach reaches

theorem copyWithin (source target size : Nat) :
    EndAlike (Memory.copyWithin source target size memory)
      (Memory.copyWithin source target size other) := by
  rw [copyWithin_eq, copyWithin_eq]
  split
  · exact .ok () alike
  split
  · refine (alike.grow (max source target + size)).bind fun _ grown same grows alike => ?_
    have covered := le_size_of_grow grows
    have fits := grown.fits
    rw [modify_apply, modify_apply,
      ← alike.extract (show source + size ≤ grown.size by omega)]
    refine .ok () (alike.write ?_)
    rw [ByteArray.size_extract]
    omega
  · exact .error _ alike

end Alike

end Memory

end CancunMachine
