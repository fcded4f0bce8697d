import CancunMachine.Failure
import CancunMachine.Table

/-!
# Warm addresses and slots

Which addresses and storage slots a transaction has already touched. Every key gets a number when it
is first seen and keeps it for good. Whether it is warm is one bit, found by that number, and the
numbers of the warm keys lie on a stack so that a failed frame can cool what it warmed.
-/

namespace CancunMachine

/-- An address, or one of its storage slots. -/
structure WarmKey where
  address : Address
  slot : Option Word
deriving DecidableEq

/-- What ties the numbers, the bits and the stack together. -/
structure Warmth.Consistent (index : Table WarmKey Nat) (keys : Array WarmKey)
    (bits : Array Bool) (undo : List Nat) : Prop where
  numbered : ∀ key number, index.get? key = some number ↔ keys[number]? = some key
  sized : bits.size = keys.size
  flagged : ∀ number, bits[number]? = some true ↔ number ∈ undo
  distinct : undo.Nodup

namespace Warmth.Consistent

variable {index : Table WarmKey Nat} {keys : Array WarmKey} {bits : Array Bool} {undo : List Nat}

theorem start : Consistent .empty #[] #[] [] where
  numbered := fun _ _ => by simp [Table.get?_empty]
  sized := rfl
  flagged := fun _ => by simp
  distinct := .nil

theorem number_lt (consistent : Consistent index keys bits undo) {key : WarmKey} {number : Nat}
    (found : index.get? key = some number) : number < bits.size := by
  rw [consistent.sized]
  exact (Array.getElem?_eq_some_iff.mp ((consistent.numbered key number).mp found)).1

theorem undo_lt (consistent : Consistent index keys bits undo) {number : Nat}
    (member : number ∈ undo) : number < bits.size :=
  (Array.getElem?_eq_some_iff.mp ((consistent.flagged number).mpr member)).1

/-- A new key gets the next number, and its bit is not set. -/
theorem intern (consistent : Consistent index keys bits undo) {key : WarmKey}
    (unseen : index.get? key = none) :
    Consistent (index.insert key keys.size) (keys.push key) (bits.push false) undo where
  numbered := by
    intro other number
    rw [Table.get?_insert, Array.getElem?_push]
    by_cases last : number = keys.size
    · rw [if_pos last]
      by_cases same : other = key
      · simp [same, last]
      · rw [if_neg same, consistent.numbered, last, Array.getElem?_size]
        simp [Ne.symm same]
    · rw [if_neg last]
      by_cases same : other = key
      · rw [if_pos same, same, ← consistent.numbered, unseen]
        simp [Ne.symm last]
      · rw [if_neg same, consistent.numbered]
  sized := by rw [Array.size_push, Array.size_push, consistent.sized]
  flagged := by
    intro number
    rw [Array.getElem?_push]
    by_cases last : number = bits.size
    · rw [if_pos last]
      have absent : number ∉ undo := fun member =>
        Nat.lt_irrefl _ (last ▸ consistent.undo_lt member)
      simp [absent]
    · rw [if_neg last, consistent.flagged]
  distinct := consistent.distinct

/-- Warming a cold key sets its bit and puts its number on the stack. -/
theorem warm (consistent : Consistent index keys bits undo) {number : Nat}
    (bound : number < bits.size) (cold : bits[number]? ≠ some true) :
    Consistent index keys (bits.set number true bound) (number :: undo) where
  numbered := consistent.numbered
  sized := by rw [Array.size_set, consistent.sized]
  flagged := by
    intro other
    rw [Array.getElem?_set, List.mem_cons]
    by_cases same : number = other
    · simp [same]
    · rw [if_neg same, consistent.flagged]
      simp [Ne.symm same]
  distinct := List.nodup_cons.mpr
    ⟨fun member => cold ((consistent.flagged number).mpr member), consistent.distinct⟩

/-- Taking a number off the stack clears its bit. -/
theorem cool {number : Nat} (consistent : Consistent index keys bits (number :: undo)) :
    Consistent index keys
      (bits.set number false (consistent.undo_lt (List.mem_cons_self))) undo where
  numbered := consistent.numbered
  sized := by rw [Array.size_set, consistent.sized]
  flagged := by
    intro other
    have once := (List.nodup_cons.mp consistent.distinct).1
    rw [Array.getElem?_set]
    by_cases same : number = other
    · rw [if_pos same]
      subst same
      simp [once]
    · rw [if_neg same, consistent.flagged, List.mem_cons]
      simp [Ne.symm same]
  distinct := (List.nodup_cons.mp consistent.distinct).2

end Warmth.Consistent

/-- The keys that transactions have touched, and which of them are warm. -/
structure Warmth where
  /-- The number of every key that was ever seen. -/
  index : Table WarmKey Nat
  /-- These keys in the order of their numbers. -/
  keys : Array WarmKey
  /-- Whether the key of a number is warm. -/
  bits : Array Bool
  /-- The numbers of the warm keys, the one warmed last first. -/
  undo : List Nat
  /-- Addresses that are warm without being tracked. -/
  always : List Address
  consistent : Warmth.Consistent index keys bits undo

namespace Warmth

def empty : Warmth := ⟨.empty, #[], #[], [], [], .start⟩

instance : Inhabited Warmth := ⟨empty⟩

def setAlways (warmth : Warmth) (addresses : List Address) : Warmth :=
  { warmth with always := addresses }

def isAlways (warmth : Warmth) (address : Address) : Bool :=
  warmth.always.contains address

/-- The number of a key, which is a new one for a new key. -/
def intern (warmth : Warmth) (key : WarmKey) : Nat × Warmth :=
  match seen : warmth.index.get? key with
  | some number => (number, warmth)
  | none => (warmth.keys.size, { warmth with
      index := warmth.index.insert key warmth.keys.size
      keys := warmth.keys.push key
      bits := warmth.bits.push false
      consistent := warmth.consistent.intern seen })

theorem intern_lt (warmth : Warmth) (key : WarmKey) :
    (warmth.intern key).1 < (warmth.intern key).2.bits.size := by
  unfold intern
  split
  · rename_i seen
    exact warmth.consistent.number_lt seen
  · simp [warmth.consistent.sized]

/-- Warms a key and tells whether it was warm before. -/
def access (warmth : Warmth) (key : WarmKey) : Bool × Warmth :=
  let interned := warmth.intern key
  if cold : interned.2.bits[interned.1]? = some true then (true, interned.2)
  else (false, { interned.2 with
    bits := interned.2.bits.set interned.1 true (warmth.intern_lt key)
    undo := interned.1 :: interned.2.undo
    consistent := interned.2.consistent.warm (warmth.intern_lt key) cold })

/-- Warms an address and tells whether it was warm before. -/
def accessAddress (warmth : Warmth) (address : Address) : Bool × Warmth :=
  if warmth.isAlways address then (true, warmth) else warmth.access ⟨address, none⟩

/-- Warms a slot and tells whether it was warm before. -/
def accessSlot (warmth : Warmth) (address : Address) (slot : Word) : Bool × Warmth :=
  warmth.access ⟨address, some slot⟩

def touch (warmth : Warmth) (key : WarmKey) : Warmth := (warmth.access key).2

def touchAddress (warmth : Warmth) (address : Address) : Warmth :=
  (warmth.accessAddress address).2

def touchSlot (warmth : Warmth) (address : Address) (slot : Word) : Warmth :=
  (warmth.accessSlot address slot).2

/-- Whether a key is warm, without touching it. -/
def isWarm (warmth : Warmth) (key : WarmKey) : Bool :=
  ((warmth.index.get? key).bind fun number => warmth.bits[number]?).getD false

def isWarmAddress (warmth : Warmth) (address : Address) : Bool :=
  warmth.isAlways address || warmth.isWarm ⟨address, none⟩

def size (warmth : Warmth) : Nat := warmth.undo.length

/-- Cools the key that was warmed last. -/
def pop (warmth : Warmth) : Warmth :=
  match top : warmth.undo with
  | [] => warmth
  | number :: undo =>
      let consistent : Consistent warmth.index warmth.keys warmth.bits (number :: undo) :=
        top ▸ warmth.consistent
      { warmth with
        bits := warmth.bits.set number false (consistent.undo_lt List.mem_cons_self)
        undo
        consistent := consistent.cool }

/-- Cools the keys warmed last. -/
def cool (warmth : Warmth) : Nat → Warmth
  | 0 => warmth
  | count + 1 => warmth.pop.cool count

/-- Cools every key warmed since the number of warm keys was `mark`. -/
def unwind (warmth : Warmth) (mark : Nat) : Warmth :=
  warmth.cool (warmth.size - mark)

/-- Checks that nothing is warm yet. -/
def begin (warmth : Warmth) : Except InternalError Unit :=
  if warmth.undo.isEmpty && !warmth.bits.any id then .ok ()
  else .error .warmStateLeak

/-- Cools every key; their numbers are kept. -/
def finish (warmth : Warmth) : Warmth := warmth.unwind 0

end Warmth

end CancunMachine
