import CancunMachine.Failure
import CancunMachine.World.Journal

/-!
# The world

The accounts of the world and the journal of the changes that were made while a checkpoint was open.
-/

namespace CancunMachine

/-- The accounts, the hashes of past blocks and the history of the current transaction. -/
structure World where
  accounts : Table Address Account
  blockHashes : Table UInt64 Hash
  /-- Values of slots before their first write in the current transaction. -/
  initials : Table (Address × Word) Word
  journal : Journal

namespace World

def empty : World := ⟨.empty, .empty, .empty, .empty⟩

instance : Inhabited World := ⟨empty⟩

def account? (world : World) (address : Address) : Option Account :=
  world.accounts.get? address

def code (world : World) (address : Address) : ByteArray :=
  ((world.account? address).getD .empty).code

def slot (world : World) (address : Address) (key : Word) : Word :=
  ((world.account? address).getD .empty).slot key

/-- The value of a storage slot at the start of the transaction. -/
def initialSlot (world : World) (address : Address) (key : Word) : Word :=
  (world.initials.get? (address, key)).getD (world.slot address key)

/-- The number of open checkpoints. -/
def checkpointDepth (world : World) : Nat := world.journal.marks.length

def setAccount (world : World) (address : Address) (account : Account) : World :=
  { world with accounts := world.accounts.insert address account }

/-- Leaves an undo record, if a checkpoint is open. -/
def record (world : World) (undo : Undo) : World :=
  { world with journal := world.journal.record undo }

/-- Changes balance, nonce or code of an account, which comes into being if need be. -/
def updateHeader (world : World) (address : Address) (change : Account → Account) : World :=
  let previous := world.account? address
  (world.record (.header address (previous.map Account.header))).setAccount address
    (change (previous.getD .empty))

def setBalance (world : World) (address : Address) (balance : Word) : World :=
  world.updateHeader address fun account => { account with balance }

def setNonce (world : World) (address : Address) (nonce : UInt64) : World :=
  world.updateHeader address fun account => { account with nonce }

def setCode (world : World) (address : Address) (code : ByteArray) : World :=
  world.updateHeader address fun account => { account with code, codeHash := keccak code }

/-- Remembers the value of a slot before its first write. -/
def rememberInitial (world : World) (address : Address) (key : Word) : World :=
  if world.initials.contains (address, key) then world
  else
    let initials := world.initials.insert (address, key) (world.slot address key)
    { world with initials }

/-- Writes a storage slot of an account, which comes into being if need be. -/
def setSlot (world : World) (address : Address) (key value : Word) : World :=
  let previous := world.slot address key
  let world := world.rememberInitial address key
  let world := if world.accounts.contains address then world else world.updateHeader address id
  let world := world.record (.slot address key previous)
  world.setAccount address (((world.account? address).getD .empty).setSlot key value)

/-- Removes an account with its code and storage. -/
def destroy (world : World) (address : Address) : World :=
  match world.account? address with
  | none => world
  | some previous =>
      let world := world.record (.destroyed address previous)
      { world with accounts := world.accounts.erase address }

/-- Takes one change back. -/
def undo (world : World) : Undo → World
  | .header address none => { world with accounts := world.accounts.erase address }
  | .header address (some (info, code)) =>
      let account := (world.account? address).getD .empty
      world.setAccount address { account with toAccountInfo := info, code }
  | .slot address key previous =>
      match world.account? address with
      | none => world
      | some account => world.setAccount address (account.setSlot key previous)
  | .destroyed address previous => world.setAccount address previous

/-- Takes the latest records of a log back until no more than `mark` are left; gives the world and
the records that are left. -/
def rewind (mark : Nat) : List Undo → World → World × List Undo
  | [], world => (world, [])
  | latest :: earlier, world =>
      if mark < earlier.length + 1 then rewind mark earlier (world.undo latest)
      else (world, latest :: earlier)

theorem log_rewind (mark : Nat) (log : List Undo) (world : World) :
    (rewind mark log world).2 = log.drop (log.length - mark) := by
  induction log generalizing world with
  | nil => rw [rewind, List.drop_nil]
  | cons latest earlier inductionHypothesis =>
      rw [rewind, List.length_cons]
      split
      · rw [inductionHypothesis, show earlier.length + 1 - mark = earlier.length - mark + 1 by omega,
          List.drop_succ_cons]
      · rw [show earlier.length + 1 - mark = 0 by omega, List.drop_zero]

theorem descending_rewind {world : World} {mark : Nat} {outer : List Nat}
    (marked : world.journal.marks = mark :: outer) :
    ((rewind mark world.journal.log world).2.length :: outer).Pairwise (· ≥ ·) := by
  have descending := world.journal.descending
  rw [marked, List.pairwise_cons] at descending
  have within := descending.1 mark List.mem_cons_self
  rw [log_rewind, List.length_drop, show world.journal.log.length -
    (world.journal.log.length - mark) = mark by omega]
  exact descending.2

/-- Opens a checkpoint. -/
def checkpoint (world : World) : World :=
  { world with journal := world.journal.mark }

/-- Closes the innermost checkpoint and keeps the changes made since. -/
def commit (world : World) : Except StoreError World :=
  match world.journal.forget? with
  | none => .error (.noCheckpoint .commit)
  | some journal => .ok { world with journal }

/-- Closes the innermost checkpoint and takes back the changes made since. -/
def revert (world : World) : Except StoreError World :=
  match marked : world.journal.marks with
  | [] => .error (.noCheckpoint .revert)
  | mark :: outer =>
      let rewound := rewind mark world.journal.log world
      .ok { rewound.1 with journal := ⟨rewound.2, outer, descending_rewind marked⟩ }

/-- Ends the transaction: slots have no remembered values any more. -/
def finalize (world : World) : World := { world with initials := .empty }

end World

end CancunMachine
