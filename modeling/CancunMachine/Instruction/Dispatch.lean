import CancunMachine.Instruction.Call
import CancunMachine.Instruction.Context
import CancunMachine.Instruction.Storage

/-!
# The meaning of each instruction

The instructions that start a child get the function that runs it; all others need only the host.
-/

namespace CancunMachine

namespace Instruction

/-- Executes one instruction; `enter` runs the frame of a child. -/
def execute (host : Host) (enter : Transfer → Run Outcome) : Opcode → Run Signal
  | .stop => pure .stop
  | .add => binary host .veryLow Word.add
  | .mul => binary host .low Word.mul
  | .sub => binary host .veryLow Word.sub
  | .div => binary host .low Word.div
  | .sdiv => binary host .low Word.sdiv
  | .mod => binary host .low Word.rem
  | .smod => binary host .low Word.smod
  | .addmod => ternary host .mid Word.addMod
  | .mulmod => ternary host .mid Word.mulMod
  | .exp => exp host
  | .signextend => binary host .low Word.signExtend
  | .lt => comparison host Word.lt
  | .gt => comparison host Word.gt
  | .slt => comparison host Word.slt
  | .sgt => comparison host Word.sgt
  | .eq => comparison host fun left right => left = right
  | .iszero => unary host .veryLow fun word => .ofBool word.isZero
  | .and => binary host .veryLow Word.and
  | .or => binary host .veryLow Word.or
  | .xor => binary host .veryLow Word.xor
  | .not => unary host .veryLow Word.not
  | .byte => binary host .veryLow Word.byte
  | .shl => binary host .veryLow Word.shl
  | .shr => binary host .veryLow Word.shr
  | .sar => binary host .veryLow Word.sar
  | .keccak256 => keccak256 host
  | .address => pushFrame host (·.invocation.recipient.toWord)
  | .balance => balance host
  | .origin => pushFixed host host.environment.origin.toWord
  | .caller => pushFrame host (·.invocation.sender.toWord)
  | .callvalue => pushFrame host (·.invocation.value)
  | .calldataload => calldataload host
  | .calldatasize => pushSize host (·.invocation.calldata.size)
  | .calldatacopy => copyFrom host (·.invocation.calldata)
  | .codesize => pushSize host (·.program.program.size)
  | .codecopy => copyFrom host (·.program.program.code)
  | .gasprice => pushFixed host host.environment.gasPrice
  | .extcodesize => extcodesize host
  | .extcodecopy => extcodecopy host
  | .returndatasize => pushSize host (·.returnData.size)
  | .returndatacopy => returndatacopy host
  | .extcodehash => extcodehash host
  | .blockhash => blockhash host
  | .coinbase => pushFixed host host.environment.coinbase.toWord
  | .timestamp => pushFixed host host.environment.timestamp
  | .number => pushFixed host host.environment.blockNumber
  | .prevrandao => prevrandao host
  | .gaslimit => pushFixed host (.ofLimb host.environment.blockGasLimit)
  | .chainid => chainid host
  | .selfbalance => selfbalance host
  | .basefee => pushFixed host host.environment.baseFee
  | .blobhash => blobhash host
  | .blobbasefee => pushFixed host host.environment.blobBaseFee
  | .pop => pop host
  | .mload => mload host
  | .mstore => mstore host
  | .mstore8 => mstore8 host
  | .sload => sload host
  | .sstore => sstore host
  | .jump => jump host
  | .jumpi => jumpi host
  | .pc => pc host
  | .msize => pushSize host (·.memory.size)
  | .gas => gas host
  | .jumpdest => jumpdest host
  | .tload => tload host
  | .tstore => tstore host
  | .mcopy => mcopy host
  | .push width => if width = 0 then pushZero host else pushImmediate host width
  | .dup index => duplicate host index
  | .swap index => exchange host (index + 1)
  | .log topics => log host topics
  | .create => create host enter
  | .call => call host enter
  | .callcode => callcode host enter
  | .returns => returns host
  | .delegatecall => delegatecall host enter
  | .create2 => create2 host enter
  | .staticcall => staticcall host enter
  | .revert => revert host
  | .invalid => Run.halt .invalidOpcode
  | .selfdestruct => selfdestruct host

end Instruction

end CancunMachine
