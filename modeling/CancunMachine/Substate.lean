import CancunMachine.Gas
import CancunMachine.Hash
import CancunMachine.Table

/-!
# The substate of a transaction

What a transaction accumulates beside the accounts: destroyed and created addresses, the refund
counter, transient storage and logs. Opening a backup starts a new layer; committing merges the
newest layer into the one below it, and reverting drops it.
-/

namespace CancunMachine

/-- An event recorded by a contract. -/
structure Log where
  address : Address
  topics : List Hash
  data : ByteArray

/-- The additions since a backup was opened; the refund counter is a running total. -/
structure SubstateLayer where
  destroyed : List Address
  created : List Address
  refund : Int
  transient : Table (Address × Word) Word
  logs : List Log

namespace SubstateLayer

/-- A layer without additions whose refund counter starts at `refund`. -/
def start (refund : Int) : SubstateLayer := ⟨[], [], refund, .empty, []⟩

/-- The additions of `later` after those of `earlier`. -/
def merge (earlier later : SubstateLayer) : SubstateLayer where
  destroyed := later.destroyed ++ earlier.destroyed
  created := later.created ++ earlier.created
  refund := later.refund
  transient := earlier.transient.union later.transient
  logs := earlier.logs ++ later.logs

end SubstateLayer

/-- The current layer and the layers of the open backups below it, innermost first. -/
structure Substate where
  current : SubstateLayer
  below : List SubstateLayer

namespace Substate

def empty : Substate := ⟨.start 0, []⟩

instance : Inhabited Substate := ⟨empty⟩

/-- All layers, innermost first. -/
def layers (substate : Substate) : List SubstateLayer := substate.current :: substate.below

def backupDepth (substate : Substate) : Nat := substate.below.length

def pushBackup (substate : Substate) : Substate :=
  ⟨.start substate.current.refund, substate.layers⟩

/-- Keeps the additions since the last backup; without a backup nothing happens. -/
def commitBackup (substate : Substate) : Substate :=
  match substate.below with
  | [] => substate
  | earlier :: below => ⟨earlier.merge substate.current, below⟩

/-- Drops the additions since the last backup; without a backup nothing happens. -/
def revertBackup (substate : Substate) : Substate :=
  match substate.below with
  | [] => substate
  | earlier :: below => ⟨earlier, below⟩

def isDestroyed (substate : Substate) (address : Address) : Bool :=
  substate.layers.any (·.destroyed.contains address)

/-- Marks an address as destroyed and tells whether it was marked before. -/
def markDestroyed (substate : Substate) (address : Address) : Bool × Substate :=
  if substate.isDestroyed address then (true, substate)
  else (substate.current.destroyed.contains address, { substate with
    current.destroyed := address :: substate.current.destroyed })

def addDestroyed (substate : Substate) (address : Address) : Substate :=
  (substate.markDestroyed address).2

/-- Every destroyed address once, in increasing order. -/
def destroyedAddresses (substate : Substate) : List Address :=
  Address.sortedDistinct (substate.layers.flatMap (·.destroyed))

def isCreated (substate : Substate) (address : Address) : Bool :=
  substate.layers.any (·.created.contains address)

/-- Marks an address as created and tells whether it was marked before. -/
def markCreated (substate : Substate) (address : Address) : Bool × Substate :=
  if substate.isCreated address then (true, substate)
  else (substate.current.created.contains address, { substate with
    current.created := address :: substate.current.created })

def addCreated (substate : Substate) (address : Address) : Substate :=
  (substate.markCreated address).2

def refund (substate : Substate) : Int := substate.current.refund

def setRefund (substate : Substate) (refund : Int) : Substate :=
  { substate with current.refund := refund }

def addRefund (substate : Substate) (change : Int) : Substate :=
  substate.setRefund (clampInt64 (substate.refund + change))

/-- The value of a transient slot, as the innermost layer that wrote it has it. -/
def transient (substate : Substate) (address : Address) (key : Word) : Word :=
  (substate.layers.findSome? (·.transient.get? (address, key))).getD .zero

def setTransient (substate : Substate) (address : Address) (key value : Word) : Substate :=
  { substate with
    current.transient := substate.current.transient.insert (address, key) value }

/-- The logs of all layers, oldest first. -/
def logs (substate : Substate) : List Log :=
  substate.layers.reverse.flatMap (·.logs)

def addLog (substate : Substate) (log : Log) : Substate :=
  { substate with current.logs := substate.current.logs ++ [log] }

end Substate

end CancunMachine
