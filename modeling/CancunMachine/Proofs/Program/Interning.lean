import Mathlib.Tactic
import CancunMachine.Proofs.Program.Soundness

/-!
# The cache interns by content

A desk is a cache together with the references to it that are held outside, and with the log of the
instances that were inserted since the last clear. Whatever is done at a desk, references read what
they read when they were handed out, the cached instances are the end of the log, and no two of them
have the same content.
-/

namespace CancunMachine

/-- What can be done with a cache and the references to its instances. -/
inductive DeskStep
  | make (code : ByteArray)
  | release (position : Nat)
  | askHash (position : Nat)
  | clear

/-- A cache, the references that are held outside it, and the instances that were inserted since
the last clear, latest last. -/
structure Desk where
  cache : Cache
  borrowed : List Interned
  inserted : List Interned

/-- The last `capacity` entries of a log, or all of it when there is no limit. -/
def latest (capacity : Nat) (log : List Interned) : List Interned :=
  if capacity = 0 then log else log.drop (log.length - capacity)

namespace Desk

def start (capacity : Nat) (digest : ByteArray → UInt64) : Desk :=
  ⟨.start capacity digest, [], []⟩

variable (desk : Desk)

def isHeld (serial : Nat) : Bool := desk.borrowed.any (·.serial = serial)

/-- Whether an instance with this content is cached. -/
def isCached (code : ByteArray) : Bool := desk.cache.order.any fun serial =>
  desk.cache.code serial = code

/-- The instance of a code as it is made at this desk, and the cache afterwards. -/
def make (code : ByteArray) : Interned × Cache := desk.cache.make desk.isHeld code

def step : DeskStep → Desk
  | .make code => {
      cache := (desk.make code).2
      borrowed := (desk.make code).1 :: desk.borrowed
      inserted := if desk.isCached code then desk.inserted
        else desk.inserted ++ [(desk.make code).1] }
  | .release position => { desk with borrowed := desk.borrowed.eraseIdx position }
  | .askHash position =>
      match desk.borrowed[position]? with
      | none => desk
      | some reference => { desk with cache := (desk.cache.askHash reference.serial).2 }
  | .clear => { desk with cache := desk.cache.clear desk.isHeld, inserted := [] }

/-- What a desk promises. -/
structure Interns (capacity : Nat) : Prop where
  /-- Whatever is made next reads like a fresh program, its hash included. -/
  made : ∀ code, (desk.make code).1.program = .ofCode code ∧
    (desk.make code).2.program (desk.make code).1.serial = .ofCode code ∧
    ((desk.make code).2.askHash (desk.make code).1.serial).1 = (Program.ofCode code).hash
  /-- References that are held read what they read at first. -/
  kept : ∀ reference ∈ desk.borrowed, desk.cache.program reference.serial = reference.program ∧
    (desk.cache.askHash reference.serial).1 = reference.program.hash
  /-- The entries and the order hold the same instances, each under the digest of its content. -/
  indexed : ∀ digest, (desk.cache.entries.get? digest).getD [] =
    desk.cache.order.filter fun serial => desk.cache.digest (desk.cache.code serial) = digest
  distinct : (desk.cache.order.map desk.cache.code).Nodup
  /-- A content that is cached is not built again. -/
  found : ∀ serial ∈ desk.cache.order,
    desk.make (desk.cache.code serial) = (desk.cache.reference serial, desk.cache)
  /-- The instances that were inserted last are the cached ones. -/
  recent : desk.cache.order.map desk.cache.reference = latest capacity desk.inserted
  bounded : 0 < capacity → desk.cache.order.length ≤ capacity
  spareFew : desk.cache.spare.length ≤ 64
  spareUnreferenced : ∀ serial ∈ desk.cache.spare, serial ∉ desk.cache.order ∧
    (∀ digest bucket, desk.cache.entries.get? digest = some bucket → serial ∉ bucket) ∧
    ∀ reference ∈ desk.borrowed, reference.serial ≠ serial

/-- The invariant of a desk. -/
structure Orderly (capacity : Nat) : Prop where
  sound : desk.cache.Sound desk.borrowed
  limit : desk.cache.capacity = capacity
  recent : desk.cache.order.map desk.cache.reference = latest capacity desk.inserted

variable {desk} {capacity : Nat}

theorem held_of_borrowed :
    ∀ reference ∈ desk.borrowed, desk.isHeld reference.serial = true := by
  intro reference member
  exact List.any_eq_true.mpr ⟨reference, member, by simp⟩

/-- Making room for one more and adding it gives the end of the longer log. -/
theorem latest_concat (log : List Interned) (added : Interned) :
    (latest capacity log).drop
        (if capacity = 0 then 0 else (latest capacity log).length + 1 - capacity) ++ [added] =
      latest capacity (log ++ [added]) := by
  unfold latest
  by_cases unlimited : capacity = 0
  · simp [unlimited]
  · rw [if_neg unlimited, if_neg unlimited, if_neg unlimited, List.drop_drop, List.length_drop,
      List.length_append, List.length_singleton, List.drop_append_of_le_length (by omega)]
    congr 2
    omega

theorem latest_length (log : List Interned) (limited : 0 < capacity) :
    (latest capacity log).length ≤ capacity := by
  rw [latest, if_neg (Nat.ne_of_gt limited), List.length_drop]
  omega

theorem Orderly.make (orderly : desk.Orderly capacity) (code : ByteArray) :
    (desk.step (.make code)).Orderly capacity := by
  have sound := orderly.sound.make held_of_borrowed code
  by_cases cached : ∃ serial ∈ desk.cache.order, desk.cache.code serial = code
  · obtain ⟨serial, member, same⟩ := cached
    have known : desk.isCached code = true :=
      List.any_eq_true.mpr ⟨serial, member, decide_eq_true same⟩
    have made := orderly.sound.make_cached desk.isHeld member same
    refine ⟨sound, ?_, ?_⟩
    · simp only [step, Desk.make, made]
      exact orderly.limit
    · simp only [step, Desk.make, made, known, if_true]
      exact orderly.recent
  · have new : ∀ serial ∈ desk.cache.order, desk.cache.code serial ≠ code :=
      fun serial member same => cached ⟨serial, member, same⟩
    have unknown : desk.isCached code = false := by
      simpa [isCached] using new
    have made := orderly.sound.make_new desk.isHeld new
    refine ⟨sound, ?_, ?_⟩
    · simp only [step, Desk.make, made]
      rw [Cache.capacity_add]
      exact orderly.limit
    · have length : desk.cache.order.length = (latest capacity desk.inserted).length := by
        rw [← orderly.recent, List.length_map]
      have kept : ∀ serial ∈ desk.cache.order.drop desk.cache.excess,
          (desk.cache.add desk.isHeld (desk.cache.digest code) code).2.reference serial =
            desk.cache.reference serial :=
        fun serial member => orderly.sound.reference_add _ (List.mem_of_mem_drop member)
      simp only [step, Desk.make, made, unknown, Bool.false_eq_true, if_false]
      rw [← latest_concat, ← length, ← orderly.recent, ← orderly.limit, Cache.order_add,
        List.map_append, List.map_congr_left kept, List.map_drop]
      rfl

theorem Orderly.askHash (orderly : desk.Orderly capacity) (position : Nat) :
    (desk.step (.askHash position)).Orderly capacity := by
  unfold step
  simp only
  split
  · exact orderly
  · rename_i reference _
    refine ⟨orderly.sound.askHash reference.serial, orderly.limit, ?_⟩
    rw [← orderly.recent]
    refine List.map_congr_left fun serial _ => ?_
    rw [Cache.reference, Cache.program_askHash]
    rfl

theorem Orderly.clear (orderly : desk.Orderly capacity) :
    (desk.step .clear).Orderly capacity where
  sound := orderly.sound.clear held_of_borrowed
  limit := Cache.capacity_clear.trans orderly.limit
  recent := by
    change (desk.cache.clear desk.isHeld).order.map _ = latest capacity []
    rw [Cache.order_clear]
    simp [latest]

theorem Orderly.step (orderly : desk.Orderly capacity) (move : DeskStep) :
    (desk.step move).Orderly capacity := by
  cases move with
  | make code => exact orderly.make code
  | release position =>
      exact ⟨orderly.sound.sublist (List.eraseIdx_subset), orderly.limit, orderly.recent⟩
  | askHash position => exact orderly.askHash position
  | clear => exact orderly.clear

theorem orderly_start (capacity : Nat) (digest : ByteArray → UInt64) :
    (start capacity digest).Orderly capacity where
  sound := .start capacity digest
  limit := rfl
  recent := by simp [start, Cache.start, latest]

theorem Orderly.interns (orderly : desk.Orderly capacity) : desk.Interns capacity where
  made := by
    intro code
    have sound := orderly.sound.make held_of_borrowed code
    have program : (desk.make code).1.program = .ofCode code := desk.cache.program_make _ code
    have read := (sound.kept _ List.mem_cons_self).trans program
    refine ⟨program, read, ?_⟩
    rw [Cache.askHash_hash]
    exact congrArg Program.hash read
  kept := by
    intro reference member
    have same := orderly.sound.kept reference member
    rw [Cache.askHash_hash, same]
    exact ⟨rfl, rfl⟩
  indexed := by
    intro digest
    rw [orderly.sound.indexed digest, Cache.bucket?_getD]
    exact List.filter_congr fun serial member => by
      rw [orderly.sound.digests serial member]
  distinct := orderly.sound.distinct
  found := fun serial member => orderly.sound.make_cached desk.isHeld member rfl
  recent := orderly.recent
  bounded := by
    intro limited
    have length := congrArg List.length orderly.recent
    rw [List.length_map] at length
    rw [length]
    exact latest_length desk.inserted limited
  spareFew := orderly.sound.spareFew
  spareUnreferenced := by
    intro serial spare
    have uncached := orderly.sound.spareUncached serial spare
    refine ⟨uncached, ?_, orderly.sound.spareFree serial spare⟩
    intro digest bucket listed member
    have whole := congrArg (Option.getD · []) (orderly.sound.indexed digest)
    rw [listed, Cache.bucket?_getD] at whole
    change bucket = _ at whole
    rw [whole] at member
    exact uncached (List.mem_of_mem_filter member)

/-- Whatever is made, released, asked and cleared at a new desk, in whatever order and with whatever
digest, the cache keeps its promises. -/
theorem cache_interns_by_content (capacity : Nat) (digest : ByteArray → UInt64)
    (moves : List DeskStep) : (moves.foldl step (start capacity digest)).Interns capacity := by
  suffices orderly : ∀ desk : Desk, desk.Orderly capacity →
      (moves.foldl step desk).Orderly capacity from
    (orderly _ (orderly_start capacity digest)).interns
  induction moves with
  | nil => exact fun _ orderly => orderly
  | cons move moves inductionHypothesis =>
      exact fun desk orderly => inductionHypothesis _ (orderly.step move)

end Desk

end CancunMachine
