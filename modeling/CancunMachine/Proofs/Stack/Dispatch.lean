import Mathlib.Tactic
import CancunMachine.Proofs.Stack.Child

/-!
# The arity of every instruction

`Opcode.arity` tells how many operands each instruction takes from the stack and how many words it
gives. Every instruction exchanges just these, whatever the children do that it runs.
-/

namespace CancunMachine

open Instruction

/-- How many operands an instruction takes from the stack and how many words it gives. -/
def Opcode.arity : Opcode → Nat × Nat
  | stop | jumpdest | invalid => (0, 0)
  | address | origin | caller | callvalue | calldatasize | codesize | gasprice | returndatasize
  | coinbase | timestamp | number | prevrandao | gaslimit | chainid | selfbalance | basefee
  | blobbasefee | pc | msize | gas | push _ => (0, 1)
  | pop | jump | selfdestruct => (1, 0)
  | iszero | not | balance | calldataload | extcodesize | extcodehash | blockhash | blobhash
  | mload | sload | tload => (1, 1)
  | mstore | mstore8 | sstore | jumpi | tstore | returns | revert => (2, 0)
  | add | mul | sub | div | sdiv | mod | smod | exp | signextend | lt | gt | slt | sgt | eq | and
  | or | xor | byte | shl | shr | sar | keccak256 => (2, 1)
  | calldatacopy | codecopy | returndatacopy | mcopy => (3, 0)
  | addmod | mulmod | create => (3, 1)
  | extcodecopy => (4, 0)
  | create2 => (4, 1)
  | delegatecall | staticcall => (6, 1)
  | call | callcode => (7, 1)
  | dup index => (index + 1, index + 2)
  | swap index => (index + 2, index + 2)
  | log topics => (topics + 2, 0)

variable {enter : Transfer → Run Outcome}

/-- Every instruction exchanges what its arity says, whatever children it runs. -/
theorem execute_exchanges (host : Host) (spares : Spares enter) (opcode : Opcode) :
    Exchanges opcode.arity.1 opcode.arity.2 (execute host enter opcode) := by
  cases opcode <;> simp only [execute]
  case stop => exact Run.exchanges_pure _
  case invalid => exact exchanges_halt _
  case add | mul | sub | div | sdiv | mod | smod | signextend | lt | gt | slt | sgt | eq | and | or
      | xor | byte | shl | shr | sar => exact exchanges_binary _ _
  case addmod | mulmod => exact exchanges_ternary _ _
  case iszero | not => exact exchanges_unary _ _
  case address | caller | callvalue | calldatasize | codesize | returndatasize | msize | pc | gas =>
    exact exchanges_pushing _ (Run.exchanges_frame _)
  case origin | gasprice | coinbase | timestamp | number | prevrandao | gaslimit | chainid
      | basefee | blobbasefee => exact exchanges_pushing _ (Run.exchanges_pure _)
  case calldatacopy | codecopy => exact exchanges_copyFrom _
  case exp => exact exchanges_exp
  case keccak256 => exact exchanges_keccak256
  case balance => exact exchanges_balance
  case calldataload => exact exchanges_calldataload
  case extcodesize | extcodehash => exact exchanges_inspectCode _
  case extcodecopy => exact exchanges_extcodecopy
  case returndatacopy => exact exchanges_returndatacopy
  case blockhash => exact exchanges_blockhash
  case selfbalance => exact exchanges_selfbalance
  case blobhash => exact exchanges_blobhash
  case pop => exact exchanges_popInstruction
  case mload => exact exchanges_mload
  case mstore => exact exchanges_mstore
  case mstore8 => exact exchanges_mstore8
  case mcopy => exact exchanges_mcopy
  case sload => exact exchanges_sload
  case sstore => exact exchanges_sstore
  case tload => exact exchanges_tload
  case tstore => exact exchanges_tstore
  case jump => exact exchanges_jumpInstruction
  case jumpi => exact exchanges_jumpi
  case jumpdest => exact exchanges_jumpdest
  case push width =>
    split
    · exact exchanges_pushing _ (Run.exchanges_pure _)
    · exact exchanges_pushImmediate _
  case dup index => exact exchanges_duplicate index
  case swap index => exact exchanges_exchange (index + 1)
  case log topics => exact exchanges_log topics
  case returns => exact exchanges_returns
  case revert => exact exchanges_revert
  case selfdestruct => exact exchanges_selfdestruct
  case create => exact exchanges_create spares
  case create2 => exact exchanges_create2 spares
  case call => exact exchanges_call spares
  case callcode => exact exchanges_callcode spares
  case delegatecall => exact exchanges_delegatecall spares
  case staticcall => exact exchanges_staticcall spares

end CancunMachine
