/-!
# The instruction set

One byte per instruction, with the push, duplicate, exchange and log families as single
constructors. A byte without an instruction of its own is read as `invalid`.
-/

namespace CancunMachine

/-- The instructions. `push width` pushes `width` immediate bytes, `dup index` copies the operand
`index` places below the top, `swap index` exchanges the top with the operand `index + 1` places
below it and `log topics` records that many topics. -/
inductive Opcode
  | stop | add | mul | sub | div | sdiv | mod | smod | addmod | mulmod | exp | signextend
  | lt | gt | slt | sgt | eq | iszero | and | or | xor | not | byte | shl | shr | sar
  | keccak256
  | address | balance | origin | caller | callvalue | calldataload | calldatasize | calldatacopy
  | codesize | codecopy | gasprice | extcodesize | extcodecopy | returndatasize | returndatacopy
  | extcodehash
  | blockhash | coinbase | timestamp | number | prevrandao | gaslimit | chainid | selfbalance
  | basefee | blobhash | blobbasefee
  | pop | mload | mstore | mstore8 | sload | sstore | jump | jumpi | pc | msize | gas | jumpdest
  | tload | tstore | mcopy
  | push (width : Fin 33)
  | dup (index : Fin 16)
  | swap (index : Fin 16)
  | log (topics : Fin 5)
  | create | call | callcode | returns | delegatecall | create2 | staticcall
  | revert | invalid | selfdestruct
deriving DecidableEq

namespace Opcode

def toByte : Opcode → UInt8
  | stop => 0x00 | add => 0x01 | mul => 0x02 | sub => 0x03 | div => 0x04 | sdiv => 0x05
  | mod => 0x06 | smod => 0x07 | addmod => 0x08 | mulmod => 0x09 | exp => 0x0a
  | signextend => 0x0b
  | lt => 0x10 | gt => 0x11 | slt => 0x12 | sgt => 0x13 | eq => 0x14 | iszero => 0x15
  | and => 0x16 | or => 0x17 | xor => 0x18 | not => 0x19 | byte => 0x1a | shl => 0x1b
  | shr => 0x1c | sar => 0x1d
  | keccak256 => 0x20
  | address => 0x30 | balance => 0x31 | origin => 0x32 | caller => 0x33 | callvalue => 0x34
  | calldataload => 0x35 | calldatasize => 0x36 | calldatacopy => 0x37 | codesize => 0x38
  | codecopy => 0x39 | gasprice => 0x3a | extcodesize => 0x3b | extcodecopy => 0x3c
  | returndatasize => 0x3d | returndatacopy => 0x3e | extcodehash => 0x3f
  | blockhash => 0x40 | coinbase => 0x41 | timestamp => 0x42 | number => 0x43
  | prevrandao => 0x44 | gaslimit => 0x45 | chainid => 0x46 | selfbalance => 0x47
  | basefee => 0x48 | blobhash => 0x49 | blobbasefee => 0x4a
  | pop => 0x50 | mload => 0x51 | mstore => 0x52 | mstore8 => 0x53 | sload => 0x54
  | sstore => 0x55 | jump => 0x56 | jumpi => 0x57 | pc => 0x58 | msize => 0x59 | gas => 0x5a
  | jumpdest => 0x5b | tload => 0x5c | tstore => 0x5d | mcopy => 0x5e
  | push width => UInt8.ofNat (0x5f + width.val)
  | dup index => UInt8.ofNat (0x80 + index.val)
  | swap index => UInt8.ofNat (0x90 + index.val)
  | log topics => UInt8.ofNat (0xa0 + topics.val)
  | create => 0xf0 | call => 0xf1 | callcode => 0xf2 | returns => 0xf3 | delegatecall => 0xf4
  | create2 => 0xf5 | staticcall => 0xfa | revert => 0xfd | invalid => 0xfe
  | selfdestruct => 0xff

def mnemonic : Opcode → String
  | stop => "STOP" | add => "ADD" | mul => "MUL" | sub => "SUB" | div => "DIV" | sdiv => "SDIV"
  | mod => "MOD" | smod => "SMOD" | addmod => "ADDMOD" | mulmod => "MULMOD" | exp => "EXP"
  | signextend => "SIGNEXTEND"
  | lt => "LT" | gt => "GT" | slt => "SLT" | sgt => "SGT" | eq => "EQ" | iszero => "ISZERO"
  | and => "AND" | or => "OR" | xor => "XOR" | not => "NOT" | byte => "BYTE" | shl => "SHL"
  | shr => "SHR" | sar => "SAR"
  | keccak256 => "KECCAK256"
  | address => "ADDRESS" | balance => "BALANCE" | origin => "ORIGIN" | caller => "CALLER"
  | callvalue => "CALLVALUE" | calldataload => "CALLDATALOAD" | calldatasize => "CALLDATASIZE"
  | calldatacopy => "CALLDATACOPY" | codesize => "CODESIZE" | codecopy => "CODECOPY"
  | gasprice => "GASPRICE" | extcodesize => "EXTCODESIZE" | extcodecopy => "EXTCODECOPY"
  | returndatasize => "RETURNDATASIZE" | returndatacopy => "RETURNDATACOPY"
  | extcodehash => "EXTCODEHASH"
  | blockhash => "BLOCKHASH" | coinbase => "COINBASE" | timestamp => "TIMESTAMP"
  | number => "NUMBER" | prevrandao => "PREVRANDAO" | gaslimit => "GASLIMIT"
  | chainid => "CHAINID" | selfbalance => "SELFBALANCE" | basefee => "BASEFEE"
  | blobhash => "BLOBHASH" | blobbasefee => "BLOBBASEFEE"
  | pop => "POP" | mload => "MLOAD" | mstore => "MSTORE" | mstore8 => "MSTORE8"
  | sload => "SLOAD" | sstore => "SSTORE" | jump => "JUMP" | jumpi => "JUMPI" | pc => "PC"
  | msize => "MSIZE" | gas => "GAS" | jumpdest => "JUMPDEST" | tload => "TLOAD"
  | tstore => "TSTORE" | mcopy => "MCOPY"
  | push width => s!"PUSH{width.val}"
  | dup index => s!"DUP{index.val + 1}"
  | swap index => s!"SWAP{index.val + 1}"
  | log topics => s!"LOG{topics.val}"
  | create => "CREATE" | call => "CALL" | callcode => "CALLCODE" | returns => "RETURN"
  | delegatecall => "DELEGATECALL" | create2 => "CREATE2" | staticcall => "STATICCALL"
  | revert => "REVERT" | invalid => "INVALID" | selfdestruct => "SELFDESTRUCT"

/-- Every instruction once, in the order of their bytes. -/
def all : List Opcode :=
  [stop, add, mul, sub, div, sdiv, mod, smod, addmod, mulmod, exp, signextend,
    lt, gt, slt, sgt, eq, iszero, and, or, xor, not, byte, shl, shr, sar, keccak256,
    address, balance, origin, caller, callvalue, calldataload, calldatasize, calldatacopy,
    codesize, codecopy, gasprice, extcodesize, extcodecopy, returndatasize, returndatacopy,
    extcodehash, blockhash, coinbase, timestamp, number, prevrandao, gaslimit, chainid,
    selfbalance, basefee, blobhash, blobbasefee, pop, mload, mstore, mstore8, sload, sstore,
    jump, jumpi, pc, msize, gas, jumpdest, tload, tstore, mcopy]
  ++ (List.finRange 33).map push
  ++ (List.finRange 16).map dup
  ++ (List.finRange 16).map swap
  ++ (List.finRange 5).map log
  ++ [create, call, callcode, returns, delegatecall, create2, staticcall, revert, invalid,
    selfdestruct]

/-- The instruction of a byte; `invalid` if no instruction has that byte. -/
def decode (byte : UInt8) : Opcode :=
  (all.find? fun opcode => opcode.toByte = byte).getD invalid

/-- `decode` of every byte. -/
def decodeTable : Vector Opcode 256 :=
  .ofFn fun byte => decode (UInt8.ofNat byte.val)

/-- The instruction of a byte, looked up. -/
def ofByte (byte : UInt8) : Opcode :=
  have within : byte.toNat < 256 := byte.toNat_lt
  decodeTable[byte.toNat]

theorem ofByte_eq_decode (byte : UInt8) : ofByte byte = decode byte := by
  simp [ofByte, decodeTable]

/-- The instruction with an assembler name. -/
def ofMnemonic? (name : String) : Option Opcode :=
  all.find? fun opcode => opcode.mnemonic = name

/-- The number of immediate bytes that follow an instruction byte. -/
def immediateSize (byte : UInt8) : Nat :=
  if 0x60 ≤ byte ∧ byte ≤ 0x7f then byte.toNat - 0x5f else 0

end Opcode

end CancunMachine
