import CancunMachine.Gas
import CancunMachine.Program.Cache
import CancunMachine.Stack

/-!
# Frames

One invocation of code: what was asked for, how far it has come and how it ended.
-/

namespace CancunMachine

/-- How a frame was entered. -/
inductive CallKind
  | transaction
  | call
  | callCode
  | delegateCall
  | staticCall
  | create
  | create2
deriving DecidableEq

def CallKind.isCreation : CallKind → Bool
  | create | create2 => true
  | _ => false

structure Invocation where
  kind : CallKind
  sender : Address
  /-- The account whose storage and balance the frame acts on. -/
  recipient : Address
  codeAddress : Address
  value : Word
  calldata : ByteArray
  isStatic : Bool
  gasLimit : UInt64
  /-- The number of frames that wait for this one. -/
  depth : Nat
  /-- Where the parent wants the output. -/
  returnOffset : Nat
  returnSize : Nat

structure Frame where
  invocation : Invocation
  program : Interned
  stack : Stack
  memory : Memory
  pc : Nat
  gas : UInt64
  /-- What the frame hands to its parent. -/
  output : ByteArray
  /-- What the last child handed back. -/
  returnData : ByteArray
  /-- The number of warm keys when the frame was entered. -/
  warmMark : Nat
  /-- Whether storage accesses are reported one by one. -/
  isTracked : Bool
  /-- The last slot written and its value. -/
  lastWrite : Option (Word × Word)
  /-- A halt that a failing child raises in this frame. -/
  queuedHalt : Option Halt

namespace Frame

def start (invocation : Invocation) (program : Interned) (stack : Stack) (memory : Memory) :
    Frame where
  invocation
  program
  stack
  memory
  pc := 0
  gas := invocation.gasLimit
  output := ByteArray.empty
  returnData := ByteArray.empty
  warmMark := 0
  isTracked := false
  lastWrite := none
  queuedHalt := none

/-- Takes `cost` from the gas of a frame, if it has as much. -/
def charge (frame : Frame) (cost : UInt64) : Except Halt Frame :=
  if cost ≤ frame.gas then .ok { frame with gas := frame.gas - cost } else .error .outOfGas

def gasUsed (frame : Frame) : UInt64 := subSaturating frame.invocation.gasLimit frame.gas

def nextByte (frame : Frame) : UInt8 := frame.program.program.byteAt frame.pc

/-- Moves the program counter forward; it stays a position. -/
def advance (frame : Frame) (count : Nat) : Frame :=
  { frame with pc := min (frame.pc + count) (positionLimit - 1) }

def jump (frame : Frame) (destination : Word) : Except Halt Frame :=
  if frame.program.program.isJumpTarget destination.toNatSaturating then
    .ok { frame with pc := destination.toNatSaturating }
  else .error .invalidJump

end Frame

inductive Verdict
  | success
  | failure (cause : Failure)
deriving DecidableEq

/-- The end of a frame as its parent sees it. -/
structure Outcome where
  verdict : Verdict
  gasUsed : UInt64
  gasRemaining : UInt64
  pc : Nat
  output : ByteArray

namespace Outcome

def isSuccess (outcome : Outcome) : Bool :=
  match outcome.verdict with
  | .success => true
  | .failure _ => false

def haltReason? (outcome : Outcome) : Option Halt :=
  match outcome.verdict with
  | .success => none
  | .failure cause => cause.haltReason?

def ofFrame (frame : Frame) (verdict : Verdict) : Outcome where
  verdict
  gasUsed := frame.gasUsed
  gasRemaining := frame.gas
  pc := frame.pc
  output := frame.output

end Outcome

end CancunMachine
