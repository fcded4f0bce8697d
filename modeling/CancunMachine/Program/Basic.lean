import CancunMachine.Bytes
import CancunMachine.Keccak
import CancunMachine.Opcode

/-!
# Programs and their jump targets

A program is code together with the positions a jump may go to. A jump target is a `JUMPDEST` byte
that starts an instruction, so the scan steps over every instruction with its immediate bytes.
-/

namespace CancunMachine

namespace Program

/-- Scans `code` from `position` on, over at most `remaining` instructions, and marks the jump
targets it meets. -/
def markTargets (code : ByteArray) : Nat → Nat → Array Bool → Array Bool
  | 0, _, targets => targets
  | remaining + 1, position, targets =>
      if within : position < code.size then
        let byte := code[position]
        let marked := if byte = Opcode.jumpdest.toByte then targets.setIfInBounds position true
          else targets
        markTargets code remaining (position + 1 + Opcode.immediateSize byte) marked
      else targets

/-- For each position of `code`, whether a jump may go there. -/
def jumpTargets (code : ByteArray) : Array Bool :=
  markTargets code code.size 0 (Array.replicate code.size false)

end Program

/-- Code with its jump targets. -/
structure Program where
  code : ByteArray
  targets : Array Bool
  targets_eq : targets = Program.jumpTargets code

namespace Program

def ofCode (code : ByteArray) : Program := ⟨code, jumpTargets code, rfl⟩

instance : Inhabited Program := ⟨ofCode ByteArray.empty⟩

/-- Puts `code` in place of the code of a program that is not used any more, and clears its targets
before the scan. -/
def refill (program : Program) (code : ByteArray) : Program where
  code
  targets := markTargets code code.size 0
    (program.targets.shrink 0 ++ Array.replicate code.size false)
  targets_eq := by simp [jumpTargets]

def size (program : Program) : Nat := program.code.size

def isEmpty (program : Program) : Bool := program.code.isEmpty

/-- The byte at `position`; beyond the end stands `STOP`. -/
def byteAt (program : Program) (position : Nat) : UInt8 := Bytes.get program.code position

def isJumpTarget (program : Program) (position : Nat) : Bool :=
  program.targets[position]?.getD false

/-- Every position a jump may go to, in increasing order. -/
def targetList (program : Program) : List Nat :=
  (List.range program.size).filter program.isJumpTarget

def hash (program : Program) : Hash := keccak program.code

/-- The value of the `width` immediate bytes at `position`; beyond the end stand zeros. -/
def immediate (program : Program) (position width : Nat) : Word :=
  Word.ofBytes (Bytes.resized (program.code.extract position (position + width)) width)

end Program

end CancunMachine
