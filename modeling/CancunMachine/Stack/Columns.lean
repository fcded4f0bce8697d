import CancunMachine.Stack

/-!
# The stack in columns

How the operands are laid out: four columns of limbs, column `k` holding limb `k` of every slot, and
the number of slots in use. Nothing is erased, so that the slots above the operands hold what was left
behind in them. An action may change the columns and fail all the same; a failure takes nothing back.
-/

namespace CancunMachine

/-- Four columns of 1024 limbs; the first `size` slots are in use. -/
structure Columns where
  column0 : Vector UInt64 stackLimit
  column1 : Vector UInt64 stackLimit
  column2 : Vector UInt64 stackLimit
  column3 : Vector UInt64 stackLimit
  size : Nat
  bounded : size ≤ stackLimit

/-- What can be pushed, in the form it comes in. -/
inductive Operand
  | whole (word : Word)
  | limbs (limb0 limb1 limb2 limb3 : UInt64)
  | zero
  | limb (value : UInt64)
  | position (value : USize)
  | flag (value : Bool)
  | account (address : Address)
  | string (bytes : ByteArray)

def Operand.toWord : Operand → Word
  | .whole word => word
  | .limbs limb0 limb1 limb2 limb3 => ⟨limb0, limb1, limb2, limb3⟩
  | .zero => .zero
  | .limb value => .ofLimb value
  | .position value => .ofLimb value.toUInt64
  | .flag value => .ofBool value
  | .account address => address.toWord
  | .string bytes => .ofBytes bytes

namespace Columns

/-- Answers or fails, and leaves the columns changed either way. -/
abbrev Action (Alpha : Type) := ExceptT Halt (StateM Columns) Alpha

/-- The answer of an action and the columns it leaves. -/
def Action.on {Alpha : Type} (action : Action Alpha) (columns : Columns) :
    Except Halt Alpha × Columns :=
  (ExceptT.run action).run columns

def blank : Columns :=
  ⟨.replicate _ 0, .replicate _ 0, .replicate _ 0, .replicate _ 0, 0, Nat.zero_le _⟩

def read (columns : Columns) (slot : Nat) (within : slot < stackLimit) : Word :=
  ⟨columns.column0[slot], columns.column1[slot], columns.column2[slot], columns.column3[slot]⟩

def write (columns : Columns) (slot : Nat) (word : Word) (within : slot < stackLimit) : Columns where
  column0 := columns.column0.set slot word.limb0
  column1 := columns.column1.set slot word.limb1
  column2 := columns.column2.set slot word.limb2
  column3 := columns.column3.set slot word.limb3
  size := columns.size
  bounded := columns.bounded

/-- Counts the top `count` slots as unused. -/
def lower (columns : Columns) (count : Nat) : Columns :=
  { columns with
    size := columns.size - count
    bounded := Nat.le_trans (Nat.sub_le _ _) columns.bounded }

/-- The slot `index` places below the top one. -/
theorem slot_lt (columns : Columns) {index : Nat} (within : index < columns.size) :
    columns.size - 1 - index < stackLimit := by
  have bounded := columns.bounded
  omega

def clear : Action Unit :=
  modify fun columns => { columns with size := 0, bounded := Nat.zero_le _ }

def push (word : Word) : Action Unit := do
  let columns ← get
  if room : columns.size < stackLimit then
    set { columns.write columns.size word room with size := columns.size + 1, bounded := room }
  else
    throw .stackOverflow

/-- Pushes an operand in any of its forms. -/
def pushOperand (operand : Operand) : Action Unit := push operand.toWord

/-- Reads the top `count` words, top first. -/
def peek (count : Nat) : Action (Vector Word count) := do
  let columns ← get
  if enough : count ≤ columns.size then
    pure <| .ofFn fun index =>
      columns.read (columns.size - 1 - index.val)
        (columns.slot_lt (Nat.lt_of_lt_of_le index.isLt enough))
  else
    throw .stackUnderflow

/-- Takes the top `count` words off, top first. -/
def pop (count : Nat) : Action (Vector Word count) := do
  let words ← peek count
  modify (·.lower count)
  pure words

def popOne : Action Word := do
  let words ← pop 1
  pure words.head

def drop (count : Nat) : Action Unit := do
  let columns ← get
  if _enough : count ≤ columns.size then
    set (columns.lower count)
  else
    throw .stackUnderflow

/-- Takes the top word off, shared when it is small. -/
def popWord : Action Word := do
  let word ← popOne
  pure word.intern

/-- Takes the top word off as a 63-bit number, saturating. -/
def popClamped63 : Action Nat := do
  let word ← popOne
  pure (if word.fitsLimb then min word.limb0.toNat 0x7fffffffffffffff else 0x7fffffffffffffff)

/-- Takes the top word off as a 31-bit number, saturating. -/
def popClamped31 : Action Nat := do
  let word ← popOne
  if word.fitsLimb then
    pure (if word.limb0.toNat ≤ 0x7fffffff then word.limb0.toNat else 0x7fffffff)
  else
    pure 0x7fffffff

def popAddress : Action Address := do
  let word ← popOne
  pure word.toAddress

def popHash : Action Hash := do
  let word ← popOne
  pure word.toHash

/-- Pushes a copy of the word `index` places below the top. -/
def dup (index : Nat) : Action Unit := do
  let columns ← get
  if within : index < columns.size then
    push (columns.read (columns.size - 1 - index) (columns.slot_lt within))
  else
    throw .stackUnderflow

/-- Exchanges the top word with the one `index` places below it. -/
def swap (index : Nat) : Action Unit := do
  let columns ← get
  if within : index < columns.size then
    let top := columns.size - 1
    let topWord := columns.read top (columns.slot_lt (Nat.zero_lt_of_lt within))
    let otherWord := columns.read (top - index) (columns.slot_lt within)
    modify (·.write top otherWord (columns.slot_lt (Nat.zero_lt_of_lt within)))
    modify (·.write (top - index) topWord (columns.slot_lt within))
  else
    throw .stackUnderflow

end Columns

end CancunMachine
