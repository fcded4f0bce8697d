import CancunMachine.Failure
import CancunMachine.Hash

/-!
# The operand stack

A stack holds at most 1024 words. `Stack.toList` lists them from the top down. A word that is taken
off stays behind in its slot until another one is pushed there. An operation that fails gives no
stack, so its caller keeps the old one.
-/

namespace CancunMachine

def stackLimit : Nat := 1024

/-- The operands, bottom first. -/
structure Stack where
  items : Array Word
  /-- What was left behind in the slots above the operands, lowest first. -/
  stale : List Word
  bounded : items.size ≤ stackLimit

namespace Stack

def empty : Stack := ⟨#[], [], Nat.zero_le _⟩

instance : Inhabited Stack := ⟨empty⟩

/-- Takes all operands off. -/
def clear (stack : Stack) : Stack := ⟨#[], stack.items.toList ++ stack.stale, Nat.zero_le _⟩

def size (stack : Stack) : Nat := stack.items.size

def isEmpty (stack : Stack) : Bool := stack.items.isEmpty

/-- The operands from the top down. -/
def toList (stack : Stack) : List Word := stack.items.toList.reverse

def push (stack : Stack) (word : Word) : Except Halt Stack :=
  if room : stack.items.size < stackLimit then
    .ok ⟨stack.items.push word, stack.stale.tail, by rw [Array.size_push]; exact room⟩
  else
    .error .stackOverflow

/-- The operand `index` places below the top. -/
def top? (stack : Stack) (index : Nat) : Option Word :=
  if index < stack.items.size then stack.items[stack.items.size - 1 - index]? else none

/-- The top `count` operands, top first. -/
def peek (stack : Stack) (count : Nat) : Except Halt (Vector Word count) :=
  if enough : count ≤ stack.items.size then
    .ok <| .ofFn fun index =>
      stack.items[stack.items.size - 1 - index.val]
  else
    .error .stackUnderflow

/-- Removes the top `count` operands. -/
def drop (stack : Stack) (count : Nat) : Except Halt Stack :=
  if count ≤ stack.items.size then
    .ok ⟨stack.items.shrink (stack.items.size - count),
      (stack.items.extract (stack.items.size - count)).toList ++ stack.stale, by
      have bounded := stack.bounded
      simp only [Array.size_shrink]
      omega⟩
  else
    .error .stackUnderflow

/-- Takes the top `count` operands off, top first. -/
def pop (stack : Stack) (count : Nat) : Except Halt (Vector Word count × Stack) := do
  let words ← stack.peek count
  let rest ← stack.drop count
  pure (words, rest)

/-- Pushes a copy of the operand `index` places below the top. -/
def dup (stack : Stack) (index : Nat) : Except Halt Stack :=
  if _within : index < stack.items.size then
    stack.push stack.items[stack.items.size - 1 - index]
  else
    .error .stackUnderflow

/-- Exchanges the top with the operand `index` places below it. -/
def swap (stack : Stack) (index : Nat) : Except Halt Stack :=
  if _within : index < stack.items.size then
    .ok ⟨stack.items.swap (stack.items.size - 1) (stack.items.size - 1 - index), stack.stale, by
      rw [Array.size_swap]
      exact stack.bounded⟩
  else
    .error .stackUnderflow

def popWord (stack : Stack) : Except Halt (Word × Stack) :=
  match stack.top? 0 with
  | some word => (stack.drop 1).map fun rest => (word, rest)
  | none => .error .stackUnderflow

/-- Takes the top operand off as a 63-bit number, saturating. -/
def popClamped63 (stack : Stack) : Except Halt (Nat × Stack) := do
  let (word, rest) ← stack.popWord
  pure (Min.min word.toNatSaturating 0x7fffffffffffffff, rest)

/-- Takes the top operand off as a 31-bit number, saturating. -/
def popClamped31 (stack : Stack) : Except Halt (Nat × Stack) := do
  let (word, rest) ← stack.popWord
  pure (Min.min word.toNatSaturating 0x7fffffff, rest)

/-- Takes the top operand off as an address. -/
def popAddress (stack : Stack) : Except Halt (Address × Stack) := do
  let (word, rest) ← stack.popWord
  pure (word.toAddress, rest)

/-- Takes the top operand off as a digest. -/
def popHash (stack : Stack) : Except Halt (Hash × Stack) := do
  let (word, rest) ← stack.popWord
  pure (word.toHash, rest)

end Stack

end CancunMachine
