import CancunMachine.Program.Basic
import CancunMachine.Table

/-!
# The cache of programs

A cache that keeps one instance per code. An instance is a wrapper in the store of the cache, known
by its serial number; whoever holds the number sees what the wrapper holds. When the cache is full
the oldest instance leaves it; a wrapper that leaves and that nobody refers to is kept aside, and the
next new program is put into it.
-/

namespace CancunMachine

/-- A place for a program. -/
structure Wrapper where
  program : Program
  /-- The cheap hash by which the cache finds the program; different codes may share it. -/
  digest : UInt64
  /-- The hash of the code, once it was asked for. -/
  hash? : Option Hash
  hash_eq : ∀ hash, hash? = some hash → hash = program.hash

namespace Wrapper

def blank : Wrapper := ⟨default, 0, none, fun _ filled => by cases filled⟩

/-- Puts new code into a wrapper; nothing that was known of the old code is left. -/
def populate (wrapper : Wrapper) (code : ByteArray) (digest : UInt64) : Wrapper where
  program := wrapper.program.refill code
  digest
  hash? := none
  hash_eq := fun _ filled => by cases filled

/-- The hash of the code, which is computed when it is asked for the first time. -/
def askHash (wrapper : Wrapper) : Hash × Wrapper :=
  match wrapper.hash? with
  | some hash => (hash, wrapper)
  | none => (wrapper.program.hash, { wrapper with
      hash? := some wrapper.program.hash
      hash_eq := fun _ filled => (Option.some.inj filled).symm })

end Wrapper

/-- A reference to an instance, with the program it had when it was handed out. -/
structure Interned where
  serial : Nat
  program : Program

instance : Inhabited Interned := ⟨⟨0, default⟩⟩

/-- Instances that are cached, and wrappers that wait for reuse. -/
structure Cache where
  /-- The largest number of cached instances; zero means no limit. -/
  capacity : Nat
  /-- The cheap hash of a code. -/
  digest : ByteArray → UInt64
  wrappers : Table Nat Wrapper
  /-- The cached instances by their digests. -/
  entries : Table UInt64 (List Nat)
  /-- The cached instances in the order of their insertion. -/
  order : List Nat
  spare : List Nat
  nextSerial : Nat

namespace Cache

/-- The largest number of wrappers kept for reuse. -/
def spareLimit : Nat := 64

def start (capacity : Nat) (digest : ByteArray → UInt64) : Cache :=
  ⟨capacity, digest, .empty, .empty, [], [], 0⟩

/-- A cache in which codes of the same size share their digest. -/
def withCapacity (capacity : Nat) : Cache := start capacity fun code => code.size.toUInt64

instance : Inhabited Cache := ⟨withCapacity 0⟩

variable (cache : Cache) (held : Nat → Bool)

def size : Nat := cache.order.length

def isEmpty : Bool := cache.order.isEmpty

def wrapper (serial : Nat) : Wrapper := (cache.wrappers.get? serial).getD .blank

def program (serial : Nat) : Program := (cache.wrapper serial).program

def setWrapper (serial : Nat) (wrapper : Wrapper) : Cache :=
  { cache with wrappers := cache.wrappers.insert serial wrapper }

def reference (serial : Nat) : Interned := ⟨serial, cache.program serial⟩

/-- The cached instance of a code, looked for among those of its digest. -/
def find? (digest : UInt64) (code : ByteArray) : Option Nat :=
  (cache.entries.get? digest).bind fun bucket =>
    bucket.find? fun serial => (cache.program serial).code = code

/-- Takes an instance out of those of its digest; a digest without instances leaves the entries. -/
def dropEntry (entries : Table UInt64 (List Nat)) (digest : UInt64) (serial : Nat) :
    Table UInt64 (List Nat) :=
  match entries.get? digest with
  | none => entries
  | some bucket =>
      match bucket.filter (· ≠ serial) with
      | [] => entries.erase digest
      | left => entries.insert digest left

/-- Takes the oldest instances out of the cache. -/
def evict (cache : Cache) : Nat → List Nat × Cache
  | 0 => ([], cache)
  | count + 1 =>
      match cache.order with
      | [] => ([], cache)
      | oldest :: order =>
          let entries := dropEntry cache.entries (cache.wrapper oldest).digest oldest
          let (evicted, left) := evict { cache with entries, order } count
          (oldest :: evicted, left)

/-- The number of instances that must leave before one more fits. -/
def excess : Nat :=
  if cache.capacity = 0 then 0 else cache.order.length + 1 - cache.capacity

/-- Adds an instance behind all others. -/
def publish (digest : UInt64) (serial : Nat) : Cache :=
  { cache with
    entries := cache.entries.insert digest ((cache.entries.get? digest).getD [] ++ [serial])
    order := cache.order ++ [serial] }

/-- Whether the cache itself still refers to an instance. -/
def refersTo (serial : Nat) : Bool :=
  cache.order.contains serial || cache.entries.entries.any (·.2.contains serial)

/-- Keeps a wrapper for reuse unless someone refers to it or enough are kept already. -/
def recycle (old : Nat) : Cache :=
  if held old || cache.refersTo old then cache
  else if cache.spare.length < spareLimit then { cache with spare := old :: cache.spare }
  else cache

/-- A wrapper that nobody refers to: a spare one, or else a new one. -/
def takeWrapper : Nat × Cache :=
  match cache.spare with
  | serial :: spare => (serial, { cache with spare })
  | [] => (cache.nextSerial, { cache with nextSerial := cache.nextSerial + 1 })

/-- A wrapper with `code` in it, not cached yet. -/
def build (digest : UInt64) (code : ByteArray) : Nat × Cache :=
  let (serial, cache) := cache.takeWrapper
  (serial, cache.setWrapper serial ((cache.wrapper serial).populate code digest))

/-- A new instance of `code`, for which the oldest instances make room. They are recycled after the
new one was published. -/
def add (digest : UInt64) (code : ByteArray) : Interned × Cache :=
  let (serial, built) := cache.build digest code
  let (evicted, left) := built.evict built.excess
  let full := evicted.foldl (recycle · held) (left.publish digest serial)
  (full.reference serial, full)

/-- The instance of `code`: the cached one, or else a new one. -/
def make (code : ByteArray) : Interned × Cache :=
  let digest := cache.digest code
  match cache.find? digest code with
  | some found => (cache.reference found, cache)
  | none => cache.add held digest code

/-- The hash of the code of an instance. -/
def askHash (serial : Nat) : Hash × Cache :=
  (cache.wrapper serial).askHash.map id (cache.setWrapper serial)

/-- Drops every cached instance. -/
def clear : Cache :=
  cache.order.foldl (recycle · held) { cache with entries := .empty, order := [] }

end Cache

end CancunMachine
