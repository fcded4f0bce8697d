import CancunMachine.Address
import CancunMachine.Hash

/-!
# Messages and their environment

What the outside gives to a run: the block and transaction the code can ask about, and the
message to be executed.
-/

namespace CancunMachine

/-- The block and the transaction as the code sees them. -/
structure Environment where
  /-- The sender of the transaction. -/
  origin : Address
  gasPrice : Word
  coinbase : Address
  blockNumber : Word
  timestamp : Word
  prevRandao : Option Hash
  blockGasLimit : UInt64
  baseFee : Word
  blobHashes : Array Hash
  blobBaseFee : Word

def Environment.blank : Environment where
  origin := .zero
  gasPrice := .zero
  coinbase := .zero
  blockNumber := .zero
  timestamp := .zero
  prevRandao := none
  blockGasLimit := 0
  baseFee := .zero
  blobHashes := #[]
  blobBaseFee := .zero

instance : Inhabited Environment := ⟨.blank⟩

inductive Destination
  | account (address : Address)
  | creation

structure Message where
  caller : Address
  destination : Destination
  value : Word
  /-- The call data, or the initcode of a creation. -/
  data : ByteArray
  gasLimit : UInt64
  /-- Addresses and slots that are warm from the start. -/
  accessList : List (Address × List Word)

def Message.isCreation (message : Message) : Bool :=
  match message.destination with
  | .account _ => false
  | .creation => true

instance : Inhabited Message := ⟨⟨.zero, .creation, .zero, ByteArray.empty, 0, []⟩⟩

end CancunMachine
