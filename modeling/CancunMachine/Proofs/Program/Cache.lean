import Mathlib.Tactic
import CancunMachine.Program.Cache

/-!
# What the operations of the program cache leave alone

Every operation is described by the fields it changes. Between any two operations the entries are
an index of the cached instances: under each digest stand the instances that have it, oldest first.
-/

namespace CancunMachine

/-- A program is made of its code alone. -/
theorem Program.eq_ofCode {program : Program} {code : ByteArray} (same : program.code = code) :
    program = .ofCode code := by
  obtain ⟨_, targets, rfl⟩ := program
  subst same
  rfl

/-- However a hash comes about, it is that of the code. -/
theorem Wrapper.askHash_hash (wrapper : Wrapper) : wrapper.askHash.1 = wrapper.program.hash := by
  unfold askHash
  split
  · rename_i hash filled
    exact wrapper.hash_eq hash filled
  · rfl

theorem Wrapper.askHash_keeps (wrapper : Wrapper) :
    wrapper.askHash.2.program = wrapper.program ∧ wrapper.askHash.2.digest = wrapper.digest := by
  unfold askHash
  split <;> exact ⟨rfl, rfl⟩

namespace Cache

variable (cache : Cache) (held : Nat → Bool) (serial : Nat)

def code : ByteArray := (cache.program serial).code

theorem wrapper_setWrapper (other : Nat) (wrapper : Wrapper) :
    (cache.setWrapper serial wrapper).wrapper other =
      if other = serial then wrapper else cache.wrapper other := by
  simp only [Cache.wrapper, setWrapper, Table.get?_insert]
  split <;> rfl

theorem wrapper_askHash (other : Nat) : (cache.askHash serial).2.wrapper other =
    if other = serial then (cache.wrapper serial).askHash.2 else cache.wrapper other :=
  cache.wrapper_setWrapper serial other _

theorem askHash_hash : (cache.askHash serial).1 = (cache.program serial).hash :=
  (cache.wrapper serial).askHash_hash

theorem evict_eq (count : Nat) :
    cache.evict count = (cache.order.take count, { cache with
      entries := (cache.evict count).2.entries
      order := cache.order.drop count }) := by
  induction count generalizing cache with
  | zero => rfl
  | succ count inductionHypothesis =>
      obtain ⟨_, _, _, _, order, _, _⟩ := cache
      cases order with
      | nil => rfl
      | cons oldest younger =>
          simp only [evict]
          rw [inductionHypothesis]
          rfl

theorem wrapper_evict (count : Nat) : (cache.evict count).2.wrapper = cache.wrapper := by
  rw [evict_eq]
  rfl

theorem recycle_eq :
    cache.recycle held serial = { cache with spare := (cache.recycle held serial).spare } := by
  unfold recycle
  split
  · rfl
  · split <;> rfl

theorem recycleAll_eq (olds : List Nat) :
    olds.foldl (recycle · held) cache =
      { cache with spare := (olds.foldl (recycle · held) cache).spare } := by
  induction olds generalizing cache with
  | nil => rfl
  | cons old olds inductionHypothesis =>
      rw [List.foldl_cons, inductionHypothesis, recycle_eq]

theorem wrapper_recycleAll (olds : List Nat) :
    (olds.foldl (recycle · held) cache).wrapper = cache.wrapper := by
  rw [recycleAll_eq]
  rfl

/-- A program of `code` was put into the wrapper `fresh`, and nothing else has changed. -/
structure Built (digest : UInt64) (code : ByteArray) (fresh : Nat) (built : Cache) : Prop where
  shape : built = { cache with
    wrappers := built.wrappers, spare := cache.spare.tail, nextSerial := built.nextSerial }
  /-- The wrapper was spare or was never used. -/
  taken : (cache.spare.head? = some fresh ∧ built.nextSerial = cache.nextSerial) ∨
    cache.spare = [] ∧ fresh = cache.nextSerial ∧ built.nextSerial = cache.nextSerial + 1
  program : built.program fresh = .ofCode code
  digest : (built.wrapper fresh).digest = digest
  others : ∀ other, other ≠ fresh → built.wrapper other = cache.wrapper other

theorem built_setWrapper {digest : UInt64} {code : ByteArray} {fresh : Nat} {taken : Cache}
    (shape : taken = { cache with spare := cache.spare.tail, nextSerial := taken.nextSerial })
    (origin : (cache.spare.head? = some fresh ∧ taken.nextSerial = cache.nextSerial) ∨
      cache.spare = [] ∧ fresh = cache.nextSerial ∧ taken.nextSerial = cache.nextSerial + 1) :
    cache.Built digest code fresh
      (taken.setWrapper fresh ((taken.wrapper fresh).populate code digest)) := by
  have placed := taken.wrapper_setWrapper fresh fresh ((taken.wrapper fresh).populate code digest)
  rw [if_pos rfl] at placed
  constructor
  case shape =>
    rw [shape]
    rfl
  case taken => exact origin
  case program =>
    rw [Cache.program, placed]
    exact Program.eq_ofCode rfl
  case digest =>
    rw [placed]
    rfl
  case others =>
    intro other different
    rw [wrapper_setWrapper, if_neg different, shape]
    rfl

theorem built_build (digest : UInt64) (code : ByteArray) :
    cache.Built digest code (cache.build digest code).1 (cache.build digest code).2 := by
  unfold build takeWrapper
  cases waiting : cache.spare with
  | nil =>
      refine built_setWrapper cache ?_ (.inr ⟨waiting, rfl, rfl⟩)
      rw [waiting]
      rfl
  | cons fresh spare =>
      refine built_setWrapper cache ?_ (.inl ⟨?_, rfl⟩)
      · rw [waiting]
        rfl
      · rw [waiting]
        rfl

/-- What is added is published and read as it was built. -/
theorem wrapper_add (digest : UInt64) (code : ByteArray) :
    (cache.add held digest code).2.wrapper = (cache.build digest code).2.wrapper := by
  unfold add
  simp only
  rw [wrapper_recycleAll]
  exact wrapper_evict _ _

theorem program_add (digest : UInt64) (code : ByteArray) :
    (cache.add held digest code).1.program = .ofCode code := by
  have read : (cache.add held digest code).1.program =
      ((cache.add held digest code).2.wrapper (cache.build digest code).1).program := rfl
  rw [read, wrapper_add]
  exact (cache.built_build digest code).program

/-- Whatever the cache holds, the program that is made is that of the code. -/
theorem program_make (code : ByteArray) : (cache.make held code).1.program = .ofCode code := by
  unfold make
  simp only
  split
  · rename_i found hit
    obtain ⟨bucket, -, fits⟩ := Option.bind_eq_some_iff.mp hit
    have same : (cache.program found).code = code := by simpa using List.find?_some fits
    exact Program.eq_ofCode same
  · exact cache.program_add held _ code

/-- A list under its digest; an empty one is not kept. -/
def bucket? : List Nat → Option (List Nat)
  | [] => none
  | bucket => some bucket

theorem bucket?_getD (bucket : List Nat) : (bucket? bucket).getD [] = bucket := by
  cases bucket <;> rfl

/-- Under each digest stand the cached instances that have it, oldest first. -/
def Indexed : Prop :=
  ∀ digest, cache.entries.get? digest =
    bucket? (cache.order.filter fun serial => (cache.wrapper serial).digest = digest)

variable {cache serial} {next : Cache}

/-- Only the digests of the cached instances matter. -/
theorem Indexed.of_same (indexed : cache.Indexed) (entries : next.entries = cache.entries)
    (order : next.order = cache.order)
    (digests : ∀ serial ∈ cache.order,
      (next.wrapper serial).digest = (cache.wrapper serial).digest) : next.Indexed := by
  intro digest
  rw [entries, indexed digest, order]
  congr 1
  exact List.filter_congr fun serial member => by rw [digests serial member]

theorem get?_dropEntry (entries : Table UInt64 (List Nat)) (digest other : UInt64) :
    (dropEntry entries digest serial).get? other =
      if other = digest then
        (entries.get? digest).bind fun bucket => bucket? (bucket.filter (· ≠ serial))
      else entries.get? other := by
  unfold dropEntry
  cases listed : entries.get? digest with
  | none =>
      by_cases same : other = digest
      · rw [if_pos same, same]
        exact listed
      · rw [if_neg same]
  | some bucket =>
      simp only [Option.bind_some]
      split
      · rename_i none
        rw [Table.get?_erase, none]
        rfl
      · rename_i left
        rw [Table.get?_insert]
        cases shape : bucket.filter (· ≠ serial) with
        | nil => exact absurd shape left
        | cons _ _ => rfl

/-- Taking the oldest instance out of the order and out of its bucket keeps the index. -/
theorem Indexed.shift {younger : List Nat} (indexed : cache.Indexed)
    (order : cache.order = serial :: younger) (once : serial ∉ younger) :
    Indexed { cache with
      entries := dropEntry cache.entries (cache.wrapper serial).digest serial
      order := younger } := by
  intro digest
  change (dropEntry cache.entries (cache.wrapper serial).digest serial).get? digest =
    bucket? (younger.filter fun serial => (cache.wrapper serial).digest = digest)
  rw [get?_dropEntry, indexed, indexed, order]
  by_cases same : digest = (cache.wrapper serial).digest
  · -- The instance is the oldest of its digest, so what is left of the bucket is its tail.
    have left : (younger.filter fun other =>
        (cache.wrapper other).digest = digest).filter (· ≠ serial) =
          younger.filter fun other => (cache.wrapper other).digest = digest := by
      rw [List.filter_eq_self]
      intro other member
      have different : other ≠ serial := fun equal =>
        once (equal ▸ List.mem_of_mem_filter member)
      simpa using different
    rw [if_pos same, ← same, List.filter_cons_of_pos (by simp [same])]
    simp only [bucket?, Option.bind_some]
    rw [List.filter_cons_of_neg (by simp), left]
  · rw [if_neg same, List.filter_cons_of_neg (by simpa using Ne.symm same)]

theorem Indexed.evict (indexed : cache.Indexed) (distinct : cache.order.Nodup) (count : Nat) :
    (cache.evict count).2.Indexed := by
  induction count generalizing cache with
  | zero => exact indexed
  | succ count inductionHypothesis =>
      unfold Cache.evict
      split
      · exact indexed
      · rename_i oldest younger order
        rw [order, List.nodup_cons] at distinct
        exact inductionHypothesis (indexed.shift order distinct.1) distinct.2

/-- A new instance goes to the end of the order and to the end of its bucket. -/
theorem Indexed.publish (indexed : cache.Indexed) {digest : UInt64}
    (own : (cache.wrapper serial).digest = digest) : (cache.publish digest serial).Indexed := by
  intro other
  change (cache.entries.insert digest ((cache.entries.get? digest).getD [] ++ [serial])).get? other =
    bucket? ((cache.order ++ [serial]).filter fun serial => (cache.wrapper serial).digest = other)
  rw [Table.get?_insert, indexed digest, bucket?_getD, List.filter_append, indexed other]
  by_cases same : other = digest
  · subst same
    rw [if_pos rfl, List.filter_cons_of_pos (by simpa using own), List.filter_nil]
    cases cache.order.filter _ <;> rfl
  · rw [if_neg same, List.filter_cons_of_neg (by simpa [own] using Ne.symm same), List.filter_nil,
      List.append_nil]

end Cache

end CancunMachine
