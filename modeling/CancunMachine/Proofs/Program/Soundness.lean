import Mathlib.Tactic
import CancunMachine.Proofs.Program.Cache

/-!
# What holds of the program cache between two operations

The cache is described together with the references to its instances that are held outside. A
wrapper is fresh while nobody has it; building, evicting, publishing and recycling keep everything
that others read as it was.
-/

namespace CancunMachine

namespace Cache

/-- What holds of a cache between any two operations, while `borrowed` is held outside. -/
structure Sound (cache : Cache) (borrowed : List Interned) : Prop where
  indexed : cache.Indexed
  distinct : (cache.order.map cache.code).Nodup
  digests : ∀ serial ∈ cache.order,
    (cache.wrapper serial).digest = cache.digest (cache.code serial)
  kept : ∀ reference ∈ borrowed, cache.program reference.serial = reference.program
  cachedOld : ∀ serial ∈ cache.order, serial < cache.nextSerial
  spareOld : ∀ serial ∈ cache.spare, serial < cache.nextSerial
  borrowedOld : ∀ reference ∈ borrowed, reference.serial < cache.nextSerial
  spareNodup : cache.spare.Nodup
  spareFew : cache.spare.length ≤ spareLimit
  spareUncached : ∀ serial ∈ cache.spare, serial ∉ cache.order
  spareFree : ∀ serial ∈ cache.spare, ∀ reference ∈ borrowed, reference.serial ≠ serial

variable {cache : Cache} {borrowed : List Interned} {held : Nat → Bool} {serial : Nat}
  {code : ByteArray}

theorem Sound.start (capacity : Nat) (digest : ByteArray → UInt64) :
    (Cache.start capacity digest).Sound [] where
  indexed := fun _ => rfl
  distinct := .nil
  digests := fun _ member => by cases member
  kept := fun _ member => by cases member
  cachedOld := fun _ member => by cases member
  spareOld := fun _ member => by cases member
  borrowedOld := fun _ member => by cases member
  spareNodup := .nil
  spareFew := Nat.zero_le _
  spareUncached := fun _ member => by cases member
  spareFree := fun _ member => by cases member

theorem Sound.nodup (sound : cache.Sound borrowed) : cache.order.Nodup :=
  sound.distinct.of_map

/-- Fewer references ask for less. -/
theorem Sound.sublist {fewer : List Interned} (sound : cache.Sound borrowed)
    (less : fewer ⊆ borrowed) : cache.Sound fewer :=
  { sound with
    kept := fun reference member => sound.kept reference (less member)
    borrowedOld := fun reference member => sound.borrowedOld reference (less member)
    spareFree := fun serial spare reference member =>
      sound.spareFree serial spare reference (less member) }

/-- One more reference to an instance that is in use. -/
theorem Sound.borrow (sound : cache.Sound borrowed) (old : serial < cache.nextSerial)
    (used : serial ∉ cache.spare) : cache.Sound (cache.reference serial :: borrowed) :=
  { sound with
    kept := List.forall_mem_cons.mpr ⟨rfl, sound.kept⟩
    borrowedOld := List.forall_mem_cons.mpr ⟨old, sound.borrowedOld⟩
    spareFree := fun spare member => List.forall_mem_cons.mpr
      ⟨by rintro rfl; exact used member, sound.spareFree spare member⟩ }

/-- The search finds the instance with the content, which is the only one. -/
theorem Sound.find?_eq_some (sound : cache.Sound borrowed) :
    cache.find? (cache.digest code) code = some serial ↔
      serial ∈ cache.order ∧ cache.code serial = code := by
  have search : cache.find? (cache.digest code) code =
      (cache.order.filter fun serial => (cache.wrapper serial).digest = cache.digest code).find?
        fun serial => cache.code serial = code := by
    unfold find?
    rw [sound.indexed]
    cases cache.order.filter _ <;> rfl
  rw [search]
  constructor
  · intro found
    have member := List.mem_of_mem_filter (List.mem_of_find?_eq_some found)
    exact ⟨member, by simpa using List.find?_some found⟩
  · rintro ⟨member, same⟩
    have listed : serial ∈ cache.order.filter fun serial =>
        (cache.wrapper serial).digest = cache.digest code := by
      rw [List.mem_filter, decide_eq_true_eq, sound.digests serial member, same]
      exact ⟨member, rfl⟩
    cases found : List.find? (fun serial => decide (cache.code serial = code))
        (cache.order.filter fun serial => (cache.wrapper serial).digest = cache.digest code) with
    | none => exact absurd same (by simpa using List.find?_eq_none.mp found serial listed)
    | some other =>
        have otherMember := List.mem_of_mem_filter (List.mem_of_find?_eq_some found)
        have otherSame : cache.code other = code := by simpa using List.find?_some found
        rw [List.inj_on_of_nodup_map sound.distinct otherMember member (otherSame.trans same.symm)]

/-- What is known of a wrapper that was just built: nobody has it yet. -/
structure Fresh (cache : Cache) (borrowed : List Interned) (serial : Nat) : Prop where
  old : serial < cache.nextSerial
  uncached : serial ∉ cache.order
  unspare : serial ∉ cache.spare
  unborrowed : ∀ reference ∈ borrowed, reference.serial ≠ serial

section Built

variable {digest : UInt64} {new : Nat} {built : Cache}

theorem Built.order_eq (build : cache.Built digest code new built) :
    built.order = cache.order := by
  rw [build.shape]

theorem Built.spare_eq (build : cache.Built digest code new built) :
    built.spare = cache.spare.tail := by
  rw [build.shape]

theorem Built.fresh (build : cache.Built digest code new built) (sound : cache.Sound borrowed) :
    built.Fresh borrowed new := by
  have order := build.order_eq
  have spare := build.spare_eq
  obtain ⟨first, number⟩ | ⟨none, number, more⟩ := build.taken
  · obtain ⟨rest, waiting⟩ := List.head?_eq_some_iff.mp first
    have member : new ∈ cache.spare := by
      rw [waiting]
      exact List.mem_cons_self
    have once := sound.spareNodup
    rw [waiting, List.nodup_cons] at once
    refine ⟨?_, ?_, ?_, sound.spareFree new member⟩
    · rw [number]
      exact sound.spareOld new member
    · rw [order]
      exact sound.spareUncached new member
    · rw [spare, waiting]
      exact once.1
  · refine ⟨?_, ?_, ?_, ?_⟩
    · rw [number, more]
      exact Nat.lt_succ_self _
    · rw [order]
      exact fun member => Nat.lt_irrefl _ (number ▸ sound.cachedOld new member)
    · rw [spare, none]
      exact List.not_mem_nil
    · intro reference member same
      have old := sound.borrowedOld reference member
      rw [same, number] at old
      exact Nat.lt_irrefl _ old

theorem Built.wrapper_cached (build : cache.Built digest code new built)
    (sound : cache.Sound borrowed) (cached : serial ∈ cache.order) :
    built.wrapper serial = cache.wrapper serial := by
  refine build.others serial fun same => (build.fresh sound).uncached ?_
  rw [build.order_eq, ← same]
  exact cached

theorem Built.code_cached (build : cache.Built digest code new built)
    (sound : cache.Sound borrowed) (cached : serial ∈ cache.order) :
    built.code serial = cache.code serial := by
  rw [Cache.code, Cache.program, build.wrapper_cached sound cached]
  rfl

/-- Building a program disturbs nobody. -/
theorem Built.sound (build : cache.Built digest code new built) (sound : cache.Sound borrowed) :
    built.Sound borrowed := by
  have order := build.order_eq
  have spare := build.spare_eq
  have more : cache.nextSerial ≤ built.nextSerial := by
    obtain ⟨_, number⟩ | ⟨_, _, number⟩ := build.taken <;> omega
  constructor
  case indexed =>
    refine sound.indexed.of_same (by rw [build.shape]) order fun serial member => ?_
    rw [build.wrapper_cached sound member]
  case distinct =>
    rw [order, List.map_congr_left fun serial member => build.code_cached sound member]
    exact sound.distinct
  case digests =>
    intro serial member
    rw [order] at member
    rw [build.wrapper_cached sound member, build.code_cached sound member,
      sound.digests serial member, build.shape]
  case kept =>
    intro reference member
    rw [Cache.program, build.others _ ((build.fresh sound).unborrowed reference member)]
    exact sound.kept reference member
  case cachedOld =>
    intro serial member
    exact (sound.cachedOld serial (order ▸ member)).trans_le more
  case spareOld =>
    intro serial member
    exact (sound.spareOld serial (List.mem_of_mem_tail (spare ▸ member))).trans_le more
  case borrowedOld =>
    intro reference member
    exact (sound.borrowedOld reference member).trans_le more
  case spareNodup =>
    rw [spare]
    exact sound.spareNodup.tail
  case spareFew =>
    rw [spare, List.length_tail]
    exact (Nat.sub_le _ _).trans sound.spareFew
  case spareUncached =>
    intro serial member
    rw [order]
    exact sound.spareUncached serial (List.mem_of_mem_tail (spare ▸ member))
  case spareFree =>
    intro serial member
    exact sound.spareFree serial (List.mem_of_mem_tail (spare ▸ member))

end Built

theorem Sound.evict (sound : cache.Sound borrowed) (count : Nat) :
    (cache.evict count).2.Sound borrowed := by
  have indexed := sound.indexed.evict sound.nodup count
  rw [evict_eq] at indexed ⊢
  have cached : ∀ serial ∈ cache.order.drop count, serial ∈ cache.order :=
    fun serial member => List.mem_of_mem_drop member
  exact { sound with
    indexed
    distinct := sound.distinct.sublist ((List.drop_sublist count cache.order).map _)
    digests := fun serial member => sound.digests serial (cached serial member)
    cachedOld := fun serial member => sound.cachedOld serial (cached serial member)
    spareUncached := fun serial spare member =>
      sound.spareUncached serial spare (cached serial member) }

theorem Fresh.evict (fresh : cache.Fresh borrowed serial) (count : Nat) :
    (cache.evict count).2.Fresh borrowed serial := by
  rw [evict_eq]
  exact ⟨fresh.old, fun member => fresh.uncached (List.mem_of_mem_drop member), fresh.unspare,
    fresh.unborrowed⟩

/-- A fresh instance with new content may be published. -/
theorem Sound.publish (sound : cache.Sound borrowed) (fresh : cache.Fresh borrowed serial)
    {digest : UInt64} (own : (cache.wrapper serial).digest = digest)
    (right : digest = cache.digest (cache.code serial))
    (new : ∀ other ∈ cache.order, cache.code other ≠ cache.code serial) :
    (cache.publish digest serial).Sound borrowed := by
  have either : ∀ other ∈ (cache.publish digest serial).order,
      other ∈ cache.order ∨ other = serial := fun other member =>
    (List.mem_append.mp member).imp id List.mem_singleton.mp
  exact { sound with
    indexed := sound.indexed.publish own
    distinct := by
      change ((cache.order ++ [serial]).map cache.code).Nodup
      rw [List.map_append, List.nodup_append]
      refine ⟨sound.distinct, List.nodup_singleton _, ?_⟩
      intro content listed other single
      obtain ⟨cached, member, rfl⟩ := List.mem_map.mp listed
      rw [List.mem_singleton.mp single]
      exact new cached member
    digests := by
      intro other member
      obtain cached | rfl := either other member
      · exact sound.digests other cached
      · exact own.trans right
    cachedOld := by
      intro other member
      obtain cached | rfl := either other member
      · exact sound.cachedOld other cached
      · exact fresh.old
    spareUncached := by
      intro other spare member
      obtain cached | rfl := either other member
      · exact sound.spareUncached other spare cached
      · exact fresh.unspare spare }

/-- A wrapper is recycled only when nobody has it. -/
theorem Sound.recycle (sound : cache.Sound borrowed)
    (covers : ∀ reference ∈ borrowed, held reference.serial = true)
    (old : serial < cache.nextSerial) (out : serial ∉ cache.spare) :
    (cache.recycle held serial).Sound borrowed := by
  unfold Cache.recycle
  split
  · exact sound
  · rename_i unshared
    rw [Bool.not_eq_true, Bool.or_eq_false_iff] at unshared
    have uncached : serial ∉ cache.order := by
      have unreferred := unshared.2
      rw [refersTo, Bool.or_eq_false_iff] at unreferred
      simpa using unreferred.1
    split
    · rename_i room
      exact { sound with
        spareOld := List.forall_mem_cons.mpr ⟨old, sound.spareOld⟩
        spareNodup := List.nodup_cons.mpr ⟨out, sound.spareNodup⟩
        spareFew := room
        spareUncached := List.forall_mem_cons.mpr ⟨uncached, sound.spareUncached⟩
        spareFree := by
          refine List.forall_mem_cons.mpr ⟨fun reference member same => ?_, sound.spareFree⟩
          have taken := covers reference member
          rw [same, unshared.1] at taken
          cases taken }
    · exact sound

theorem mem_spare_recycle {other : Nat} (member : other ∈ (cache.recycle held serial).spare) :
    other = serial ∨ other ∈ cache.spare := by
  unfold recycle at member
  split at member
  · exact .inr member
  · split at member
    · exact List.mem_cons.mp member
    · exact .inr member

/-- Instances that left the cache one by one, recycled one by one. -/
theorem Sound.recycleAll (olds : List Nat) (sound : cache.Sound borrowed)
    (covers : ∀ reference ∈ borrowed, held reference.serial = true) (distinct : olds.Nodup)
    (known : ∀ serial ∈ olds, serial < cache.nextSerial ∧ serial ∉ cache.spare) :
    (olds.foldl (Cache.recycle · held) cache).Sound borrowed ∧
      ∀ serial ∈ (olds.foldl (Cache.recycle · held) cache).spare,
        serial ∈ olds ∨ serial ∈ cache.spare := by
  induction olds generalizing cache with
  | nil => exact ⟨sound, fun _ => .inr⟩
  | cons old olds inductionHypothesis =>
      rw [List.nodup_cons] at distinct
      obtain ⟨own, others⟩ := List.forall_mem_cons.mp known
      have next := sound.recycle covers own.1 own.2
      have unchanged : (cache.recycle held old).nextSerial = cache.nextSerial := by
        rw [recycle_eq]
      obtain ⟨final, spare⟩ := inductionHypothesis next distinct.2 fun serial member => by
        refine ⟨unchanged ▸ (others serial member).1, fun listed => ?_⟩
        rcases mem_spare_recycle listed with rfl | before
        · exact distinct.1 member
        · exact (others serial member).2 before
      refine ⟨final, fun serial member => ?_⟩
      rcases spare serial member with later | before
      · exact .inl (List.mem_cons_of_mem _ later)
      · rcases mem_spare_recycle before with rfl | waiting
        · exact .inl List.mem_cons_self
        · exact .inr waiting

theorem excess_of_built {digest : UInt64} {fresh : Nat} {built : Cache}
    (build : cache.Built digest code fresh built) : built.excess = cache.excess := by
  rw [build.shape]
  rfl

/-- The oldest instances leave at the front, and the new one comes to the end. -/
theorem order_add (digest : UInt64) : (cache.add held digest code).2.order =
    cache.order.drop cache.excess ++ [(cache.add held digest code).1.serial] := by
  have build := cache.built_build digest code
  unfold add
  simp only
  rw [recycleAll_eq, evict_eq]
  change (cache.build digest code).2.order.drop (cache.build digest code).2.excess ++ _ = _
  rw [build.order_eq, excess_of_built build]
  rfl

/-- Instances that were cached before read as before. -/
theorem Sound.reference_add (sound : cache.Sound borrowed) (digest : UInt64)
    (cached : serial ∈ cache.order) :
    (cache.add held digest code).2.reference serial = cache.reference serial := by
  have build := cache.built_build digest code
  rw [reference, Cache.program, wrapper_add, build.wrapper_cached sound cached]
  rfl

theorem capacity_add (digest : UInt64) :
    (cache.add held digest code).2.capacity = cache.capacity := by
  have build := cache.built_build digest code
  unfold add
  simp only
  rw [recycleAll_eq, evict_eq]
  change (cache.build digest code).2.capacity = _
  rw [build.shape]

/-- New content, once it is built and the oldest instances left for it, may be published. -/
theorem Built.sound_publish {fresh : Nat} {built : Cache}
    (build : cache.Built (cache.digest code) code fresh built) (sound : cache.Sound borrowed)
    (new : ∀ serial ∈ cache.order, cache.code serial ≠ code) :
    ((built.evict built.excess).2.publish (cache.digest code) fresh).Sound borrowed := by
  have content : built.code fresh = code := by
    rw [Cache.code, build.program]
    rfl
  have same : built.digest = cache.digest := by rw [build.shape]
  refine ((build.sound sound).evict _).publish ((build.fresh sound).evict _) ?_ ?_ ?_
  · rw [wrapper_evict, build.digest]
  · rw [evict_eq]
    change cache.digest code = built.digest (built.code fresh)
    rw [content, same]
  · rw [evict_eq]
    intro other member
    change built.code other ≠ built.code fresh
    have cached : other ∈ cache.order := build.order_eq ▸ List.mem_of_mem_drop member
    rw [content, build.code_cached sound cached]
    exact new other cached

theorem Sound.add (sound : cache.Sound borrowed)
    (covers : ∀ reference ∈ borrowed, held reference.serial = true)
    (new : ∀ serial ∈ cache.order, cache.code serial ≠ code) :
    (cache.add held (cache.digest code) code).2.Sound
      ((cache.add held (cache.digest code) code).1 :: borrowed) := by
  have build := cache.built_build (cache.digest code) code
  unfold Cache.add
  simp only
  generalize (cache.build (cache.digest code) code).1 = fresh at build
  generalize (cache.build (cache.digest code) code).2 = built at build
  have isFresh := build.fresh sound
  have ready := build.sound sound
  have published := build.sound_publish sound new
  -- The instances that leave were cached, so none of them waits for reuse yet.
  have leaving : (built.evict built.excess).1 = built.order.take built.excess := by rw [evict_eq]
  have spare : ((built.evict built.excess).2.publish (cache.digest code) fresh).spare =
      built.spare := by
    rw [evict_eq]
    rfl
  have number : ((built.evict built.excess).2.publish (cache.digest code) fresh).nextSerial =
      built.nextSerial := by
    rw [evict_eq]
    rfl
  obtain ⟨final, rest⟩ := published.recycleAll (built.evict built.excess).1 covers
    (by rw [leaving]; exact ready.nodup.sublist (List.take_sublist _ _)) (by
      intro old member
      rw [leaving] at member
      have cached := List.mem_of_mem_take member
      rw [spare, number]
      exact ⟨ready.cachedOld old cached, fun listed => ready.spareUncached old listed cached⟩)
  refine final.borrow ?_ fun member => ?_
  · rw [recycleAll_eq]
    exact number.symm ▸ isFresh.old
  · rcases rest fresh member with left | waiting
    · rw [leaving] at left
      exact isFresh.uncached (List.mem_of_mem_take left)
    · exact isFresh.unspare (spare ▸ waiting)

variable (held) in
theorem Sound.make_cached (sound : cache.Sound borrowed) (cached : serial ∈ cache.order)
    (same : cache.code serial = code) :
    cache.make held code = (cache.reference serial, cache) := by
  unfold Cache.make
  simp only [sound.find?_eq_some.mpr ⟨cached, same⟩]

variable (held) in
theorem Sound.make_new (sound : cache.Sound borrowed)
    (new : ∀ serial ∈ cache.order, cache.code serial ≠ code) :
    cache.make held code = cache.add held (cache.digest code) code := by
  unfold Cache.make
  simp only
  split
  · rename_i serial hit
    obtain ⟨cached, same⟩ := sound.find?_eq_some.mp hit
    exact absurd same (new serial cached)
  · rfl

theorem Sound.make (sound : cache.Sound borrowed)
    (covers : ∀ reference ∈ borrowed, held reference.serial = true) (code : ByteArray) :
    (cache.make held code).2.Sound ((cache.make held code).1 :: borrowed) := by
  by_cases cached : ∃ serial ∈ cache.order, cache.code serial = code
  · obtain ⟨serial, member, same⟩ := cached
    rw [sound.make_cached held member same]
    exact sound.borrow (sound.cachedOld serial member)
      fun spare => sound.spareUncached serial spare member
  · have new : ∀ serial ∈ cache.order, cache.code serial ≠ code :=
      fun serial member same => cached ⟨serial, member, same⟩
    rw [sound.make_new held new]
    exact sound.add covers new

theorem program_askHash (other : Nat) :
    (cache.askHash serial).2.program other = cache.program other := by
  rw [program, wrapper_askHash]
  by_cases own : other = serial
  · rw [if_pos own, own, (cache.wrapper serial).askHash_keeps.1]
    rfl
  · rw [if_neg own]
    rfl

theorem digest_askHash (other : Nat) :
    ((cache.askHash serial).2.wrapper other).digest = (cache.wrapper other).digest := by
  rw [wrapper_askHash]
  by_cases own : other = serial
  · rw [if_pos own, own, (cache.wrapper serial).askHash_keeps.2]
  · rw [if_neg own]

theorem Sound.askHash (sound : cache.Sound borrowed) (serial : Nat) :
    (cache.askHash serial).2.Sound borrowed := by
  have codes : (cache.askHash serial).2.code = cache.code := by
    funext other
    rw [Cache.code, program_askHash]
    rfl
  exact { sound with
    indexed := sound.indexed.of_same rfl rfl fun other _ => digest_askHash other
    distinct := by
      rw [codes]
      exact sound.distinct
    digests := by
      intro other member
      rw [digest_askHash, codes]
      exact sound.digests other member
    kept := by
      intro reference member
      rw [program_askHash]
      exact sound.kept reference member }

/-- The cache without its cached instances. -/
theorem Sound.emptied (sound : cache.Sound borrowed) :
    Sound { cache with entries := .empty, order := [] } borrowed :=
  { sound with
    indexed := fun _ => rfl
    distinct := .nil
    digests := fun _ member => by cases member
    cachedOld := fun _ member => by cases member
    spareUncached := fun _ _ member => by cases member }

theorem Sound.clear (sound : cache.Sound borrowed)
    (covers : ∀ reference ∈ borrowed, held reference.serial = true) :
    (cache.clear held).Sound borrowed :=
  (sound.emptied.recycleAll _ covers sound.nodup fun serial member =>
    ⟨sound.cachedOld serial member, fun spare => sound.spareUncached serial spare member⟩).1

theorem order_clear : (cache.clear held).order = [] := by
  unfold clear
  rw [recycleAll_eq]

theorem capacity_clear : (cache.clear held).capacity = cache.capacity := by
  unfold clear
  rw [recycleAll_eq]

end Cache

end CancunMachine
