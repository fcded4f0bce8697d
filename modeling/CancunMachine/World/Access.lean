import CancunMachine.World.Basic

/-!
# Access to the world

Access to the world as the machine makes it. A store may refuse single operations on single
accounts; an operation that fails leaves the world as far as it had come.
-/

namespace CancunMachine

/-- The operations of a store on an account. -/
inductive StoreOperation
  | readAccount
  | readCode
  | readSlot
  | readInitial
  | writeSlot
  | writeBalance
  | writeNonce
  | writeCode
  | destroy
deriving DecidableEq

structure Refusals where
  account : StoreOperation → Address → Option StoreError
  blockHash : UInt64 → Option StoreError

/-- A store that refuses nothing. -/
def Refusals.none : Refusals := ⟨fun _ _ => .none, fun _ => .none⟩

/-- Computations on a world; a failed one still has a final world. -/
abbrev Access := EStateM StoreError World

namespace Access

variable (refusals : Refusals)

/-- Goes on unless the operation is refused. -/
def permit : Option StoreError → Access Unit
  | some error => throw error
  | none => pure ()

def readAccount (address : Address) : Access (Option Account) := do
  permit (refusals.account .readAccount address)
  return (← get).account? address

def readCode (address : Address) : Access ByteArray := do
  permit (refusals.account .readCode address)
  return (← get).code address

def readSlot (address : Address) (key : Word) : Access Word := do
  permit (refusals.account .readSlot address)
  return (← get).slot address key

def readInitial (address : Address) (key : Word) : Access Word := do
  permit (refusals.account .readInitial address)
  return (← get).initialSlot address key

def readBlockHash (number : UInt64) : Access (Option Hash) := do
  permit (refusals.blockHash number)
  return (← get).blockHashes.get? number

def writeSlot (address : Address) (key value : Word) : Access Unit := do
  permit (refusals.account .writeSlot address)
  modify (·.setSlot address key value)

def writeBalance (address : Address) (balance : Word) : Access Unit := do
  permit (refusals.account .writeBalance address)
  modify (·.setBalance address balance)

def writeNonce (address : Address) (nonce : UInt64) : Access Unit := do
  permit (refusals.account .writeNonce address)
  modify (·.setNonce address nonce)

def writeCode (address : Address) (code : ByteArray) : Access Unit := do
  permit (refusals.account .writeCode address)
  modify (·.setCode address code)

def destroy (address : Address) : Access Unit := do
  permit (refusals.account .destroy address)
  modify (·.destroy address)

def checkpoint : Access Unit := modify (·.checkpoint)

/-- Replaces the world by the result of a closing operation. -/
def close (closing : World → Except StoreError World) : Access Unit := do
  match closing (← get) with
  | .ok world => set world
  | .error error => throw error

def commit : Access Unit := close World.commit

def revert : Access Unit := close World.revert

def finalize : Access Unit := modify (·.finalize)

def accountExists (address : Address) : Access Bool :=
  return (← readAccount refusals address).isSome

/-- Missing accounts count as empty. -/
def accountIsEmpty (address : Address) : Access Bool :=
  return ((← readAccount refusals address).getD .empty).isEmpty

def readBalance (address : Address) : Access Word :=
  return ((← readAccount refusals address).getD .empty).balance

def readNonce (address : Address) : Access UInt64 :=
  return ((← readAccount refusals address).getD .empty).nonce

/-- Raises the nonce of an account and gives the previous one. -/
def incrementNonce (address : Address) : Access UInt64 := do
  let nonce ← readNonce refusals address
  if nonce = 0xffffffffffffffff then throw (.custom "nonce overflow")
  writeNonce refusals address (nonce + 1)
  return nonce

/-- Moves `value` between two accounts. -/
def transfer (source target : Address) (value : Word) : Access Unit := do
  if value.isZero then return
  let available ← readBalance refusals source
  if available.lt value then throw (.custom "insufficient balance")
  writeBalance refusals source (available.sub value)
  let held ← readBalance refusals target
  let credited := held.add value
  if credited.lt held then throw (.custom "balance overflow")
  writeBalance refusals target credited

end Access

end CancunMachine
