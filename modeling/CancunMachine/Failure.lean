import CancunMachine.Address

/-!
# Failures

Why a frame or a whole message fails. A reverted frame and an exceptional halt are settled by the
caller of the frame; every other failure ends the message.
-/

namespace CancunMachine

/-- The reasons for which a frame halts exceptionally. -/
inductive Halt
  | outOfGas
  | stackUnderflow
  | stackOverflow
  | invalidJump
  | invalidOpcode
  | notAllowedInStaticContext
  | outOfBounds
  | invalidContractPrefix
  | contractOutputTooBig
  | addressCollision
  | invalidAddress
  | invalidContractId
  | insufficientChildRecords
deriving DecidableEq

namespace Halt

def message : Halt → String
  | outOfGas => "Out of gas"
  | stackUnderflow => "Stack underflow"
  | stackOverflow => "Stack overflow"
  | invalidJump => "Invalid jump destination"
  | invalidOpcode => "Invalid opcode"
  | notAllowedInStaticContext => "Opcode not allowed in static context"
  | outOfBounds => "Out of bounds"
  | invalidContractPrefix => "Invalid contract prefix"
  | contractOutputTooBig => "Contract output too big"
  | addressCollision => "Address already occupied"
  | invalidAddress => "Invalid address"
  | invalidContractId => "Invalid contract id"
  | insufficientChildRecords => "Insufficient child records"

/-- Sticky halts are raised again in every ancestor of the frame, up to the outermost one. -/
def isSticky : Halt → Bool
  | invalidContractId | insufficientChildRecords => true
  | _ => false

theorem isSticky_iff {halt : Halt} :
    halt.isSticky = true ↔ halt = .invalidContractId ∨ halt = .insufficientChildRecords := by
  cases halt <;> simp [isSticky]

end Halt

/-- Faults of the machine itself. -/
inductive InternalError
  | overflow
  | underflow
  | typeConversion
  | noSuspendedFrame
  | warmStateLeak
  | accountNotFound (address : Address)
  | stepBudgetSpent
  | custom (text : String)
  /-- An index beyond the end of a buffer, at which the machine stops dead. -/
  | indexOutOfRange
deriving DecidableEq

def InternalError.message : InternalError → String
  | overflow => "Arithmetic overflow"
  | underflow => "Arithmetic underflow"
  | typeConversion => "Type conversion error"
  | noSuspendedFrame => "Call frame stack is empty"
  | warmStateLeak => "Warm access set was not cleared by the previous transaction"
  | accountNotFound address => s!"Account not found: {address.text}"
  | stepBudgetSpent => "Step budget spent"
  | custom text => text
  | indexOutOfRange => "Index out of range"

/-- The two ways to close a checkpoint. -/
inductive Closing
  | commit
  | revert
deriving DecidableEq

def Closing.name : Closing → String
  | commit => "commit"
  | revert => "revert"

/-- Faults of the account store. -/
inductive StoreError
  | noCheckpoint (closing : Closing)
  | custom (text : String)
deriving DecidableEq

def StoreError.message : StoreError → String
  | noCheckpoint closing => s!"No checkpoint to {closing.name}"
  | custom text => text

/-- Messages the machine refuses to start. -/
inductive MessageError
  | insufficientBalance (sender : Address)
  | nonceOverflow (sender : Address)
  | initcodeSizeExceeded (size : Nat)
deriving DecidableEq

def MessageError.message : MessageError → String
  | insufficientBalance sender => s!"Sender {sender.text} cannot cover the message value"
  | nonceOverflow sender => s!"Sender {sender.text} nonce is at its maximum"
  | initcodeSizeExceeded size => s!"Initcode of {size} bytes exceeds the limit"

/-- Everything that can stop a frame. -/
inductive Failure
  | revert
  | halt (reason : Halt)
  | internal (error : InternalError)
  | store (error : StoreError)
  | invalidMessage (error : MessageError)
deriving DecidableEq

namespace Failure

def message : Failure → String
  | revert => "Revert opcode"
  | halt reason => s!"Exceptional halt: {reason.message}"
  | internal error => s!"Internal error: {error.message}"
  | store error => s!"Database error: {error.message}"
  | invalidMessage error => s!"Invalid message: {error.message}"

/-- Whether the failure ends the whole message instead of one frame. -/
def endsMessage : Failure → Bool
  | revert | halt _ => false
  | internal _ | store _ | invalidMessage _ => true

def isRevert : Failure → Bool
  | revert => true
  | _ => false

/-- The reason, if the failure is an exceptional halt. -/
def haltReason? : Failure → Option Halt
  | halt reason => some reason
  | _ => none

end Failure

end CancunMachine
