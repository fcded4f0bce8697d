import Mathlib.Tactic
import CancunMachine.Frame

/-!
# Where instructions start

Code is read from its beginning, each instruction with its immediate bytes. The scan for jump
targets and the frames that step through the code read it in the same way, so both stand only where
an instruction starts.
-/

namespace CancunMachine

/-- The number of immediate bytes of an instruction. -/
def Opcode.width : Opcode → Nat
  | .push width => width
  | _ => 0

namespace Opcode

theorem immediateSize_toByte (opcode : Opcode) : immediateSize opcode.toByte = opcode.width := by
  cases opcode with
  | push width => revert width; decide
  | dup index => revert index; decide
  | swap index => revert index; decide
  | log topics => revert topics; decide
  | _ => rfl

theorem push_mem_all (width : Fin 33) : push width ∈ all := by
  simp [all]

/-- The bytes that announce immediate bytes are those of the pushes. -/
theorem exists_push_of_immediateSize {byte : UInt8} (announces : immediateSize byte ≠ 0) :
    ∃ width : Fin 33, (push width).toByte = byte := by
  unfold immediateSize at announces
  split at announces
  · rename_i within
    obtain ⟨low, high⟩ := within
    rw [UInt8.le_iff_toNat_le] at low high
    have least : 0x60 ≤ byte.toNat := low
    have most : byte.toNat ≤ 0x7f := high
    refine ⟨⟨byte.toNat - 0x5f, by omega⟩, ?_⟩
    have whole : 0x5f + (byte.toNat - 0x5f) = byte.toNat := by omega
    simp [toByte, whole]
  · exact absurd rfl announces

/-- The scan for jump targets and the frames measure instructions alike. -/
theorem immediateSize_eq_width (byte : UInt8) : immediateSize byte = (ofByte byte).width := by
  rw [ofByte_eq_decode, decode]
  cases found : all.find? fun opcode => opcode.toByte = byte with
  | some opcode =>
      have same : opcode.toByte = byte := by simpa using List.find?_some found
      rw [← same, immediateSize_toByte]
      rfl
  | none =>
      have unassigned := List.find?_eq_none.mp found
      by_contra announces
      obtain ⟨width, same⟩ := exists_push_of_immediateSize announces
      exact unassigned _ (push_mem_all width) (by simpa using same)

end Opcode

namespace Program

/-- The positions where an instruction of `code` starts: the beginning, and what follows the
immediate bytes of an instruction. -/
inductive InstructionStart (code : ByteArray) : Nat → Prop
  | first : InstructionStart code 0
  | next {position : Nat} (starts : InstructionStart code position)
      (within : position < code.size) :
      InstructionStart code (position + 1 + Opcode.immediateSize code[position])

/-- `next` follows the instruction at `position` with its immediate bytes. -/
def Steps (code : ByteArray) (position next : Nat) : Prop :=
  ∃ within : position < code.size, next = position + 1 + Opcode.immediateSize code[position]

/-- The starts are what steps lead to from the beginning. -/
theorem instructionStart_iff {code : ByteArray} {position : Nat} :
    InstructionStart code position ↔ Relation.ReflTransGen (Steps code) 0 position := by
  constructor
  · intro starts
    induction starts with
    | first => exact .refl
    | next _ within inductionHypothesis => exact inductionHypothesis.tail ⟨within, rfl⟩
  · intro leads
    induction leads with
    | refl => exact .first
    | tail _ step inductionHypothesis =>
        obtain ⟨within, rfl⟩ := step
        exact inductionHypothesis.next within

theorem le_of_leads {code : ByteArray} {position other : Nat}
    (leads : Relation.ReflTransGen (Steps code) position other) : position ≤ other := by
  induction leads with
  | refl => exact le_rfl
  | tail _ step inductionHypothesis =>
      obtain ⟨within, rfl⟩ := step
      omega

/-- Only one step leads on from a position within the code. -/
theorem leads_iff_of_lt {code : ByteArray} {position other : Nat} (within : position < code.size) :
    Relation.ReflTransGen (Steps code) position other ↔ other = position ∨
      Relation.ReflTransGen (Steps code) (position + 1 + Opcode.immediateSize code[position])
        other := by
  rw [Relation.ReflTransGen.cases_head_iff, eq_comm]
  constructor
  · rintro (same | ⟨_, ⟨_, rfl⟩, leads⟩)
    · exact .inl same
    · exact .inr leads
  · rintro (same | leads)
    · exact .inl same
    · exact .inr ⟨_, ⟨within, rfl⟩, leads⟩

/-- The byte at a position of the code is that of `JUMPDEST`. -/
def HasJumpdest (code : ByteArray) (position : Nat) : Prop :=
  ∃ within : position < code.size, code[position] = 0x5b

/-- A position of the code a jump may go to: a `JUMPDEST` that starts an instruction. -/
def IsTarget (code : ByteArray) (position : Nat) : Prop :=
  HasJumpdest code position ∧ InstructionStart code position

theorem IsTarget.lt_size {code : ByteArray} {position : Nat} (target : IsTarget code position) :
    position < code.size :=
  target.1.1

theorem mark_eq_true_iff {targets : Array Bool} {position other : Nat}
    (within : position < targets.size) :
    (targets.setIfInBounds position true)[other]?.getD false = true ↔
      other = position ∨ targets[other]?.getD false = true := by
  by_cases same : other = position
  · simp [same, within]
  · rw [Array.getElem?_setIfInBounds_ne (Ne.symm same), or_iff_right same]

/-- The scan from a position on adds the marks of the `JUMPDEST` bytes that steps lead to from there. -/
theorem markTargets_eq_true_iff {code : ByteArray} (remaining : Nat) {position other : Nat}
    {targets : Array Bool} (sized : targets.size = code.size)
    (enough : code.size ≤ position + remaining) :
    (markTargets code remaining position targets)[other]?.getD false = true ↔
      targets[other]?.getD false = true ∨
        HasJumpdest code other ∧ Relation.ReflTransGen (Steps code) position other := by
  have beyond : ∀ {position}, code.size ≤ position →
      ¬(HasJumpdest code other ∧ Relation.ReflTransGen (Steps code) position other) := by
    rintro position past ⟨⟨within, _⟩, leads⟩
    have reaches := le_of_leads leads
    omega
  induction remaining generalizing position targets with
  | zero => exact (or_iff_left (beyond enough)).symm
  | succ remaining inductionHypothesis =>
      unfold markTargets
      by_cases within : position < code.size
      · have further :
            code.size ≤ position + 1 + Opcode.immediateSize code[position] + remaining := by
          omega
        rw [dif_pos within, leads_iff_of_lt within]
        by_cases marked : code[position] = Opcode.jumpdest.toByte
        · have here : HasJumpdest code position := ⟨within, marked⟩
          simp only [if_pos marked]
          refine (inductionHypothesis (by rwa [Array.size_setIfInBounds]) further).trans ?_
          rw [mark_eq_true_iff (sized ▸ within)]
          constructor
          · rintro ((rfl | earlier) | ⟨jumpdest, leads⟩)
            · exact .inr ⟨here, .inl rfl⟩
            · exact .inl earlier
            · exact .inr ⟨jumpdest, .inr leads⟩
          · rintro (earlier | ⟨jumpdest, same | leads⟩)
            · exact .inl (.inr earlier)
            · exact .inl (.inl same)
            · exact .inr ⟨jumpdest, leads⟩
        · have elsewhere : HasJumpdest code other → ¬other = position := by
            rintro ⟨_, jumpdest⟩ rfl
            exact marked jumpdest
          simp only [if_neg marked]
          refine (inductionHypothesis sized further).trans ?_
          constructor
          · rintro (earlier | ⟨jumpdest, leads⟩)
            · exact .inl earlier
            · exact .inr ⟨jumpdest, .inr leads⟩
          · rintro (earlier | ⟨jumpdest, same | leads⟩)
            · exact .inl earlier
            · exact absurd same (elsewhere jumpdest)
            · exact .inr ⟨jumpdest, leads⟩
      · rw [dif_neg within, or_iff_left (beyond (not_lt.mp within))]

/-- The scan finds the jump targets, and nothing else. -/
theorem isJumpTarget_iff {program : Program} {position : Nat} :
    program.isJumpTarget position = true ↔ IsTarget program.code position := by
  have unmarked : ¬(Array.replicate program.code.size false)[position]?.getD false = true := by
    rw [Array.getElem?_replicate]
    split <;> exact Bool.false_ne_true
  rw [isJumpTarget, program.targets_eq, jumpTargets,
    markTargets_eq_true_iff _ Array.size_replicate (Nat.le_add_left _ _), or_iff_right unmarked,
    ← instructionStart_iff, IsTarget]

instance decidableIsTarget (code : ByteArray) (position : Nat) :
    Decidable (IsTarget code position) :=
  decidable_of_iff ((ofCode code).isJumpTarget position = true) isJumpTarget_iff

/-- A jump goes to the start of an instruction. -/
theorem instructionStart_of_isJumpTarget {program : Program} {position : Nat}
    (target : program.isJumpTarget position = true) :
    InstructionStart program.code position :=
  (isJumpTarget_iff.mp target).2

theorem byteAt_of_lt {program : Program} {position : Nat} (within : position < program.code.size) :
    program.byteAt position = program.code[position] := by
  simp [byteAt, Bytes.get, within]

/-- A position beyond the end of a program, or one where an instruction starts. -/
def OnInstruction (program : Program) (position : Nat) : Prop :=
  program.size ≤ position ∨ InstructionStart program.code position

/-- Stepping over an instruction with its immediate bytes leads to the next one. -/
theorem OnInstruction.next {program : Program} {position : Nat}
    (small : program.size < positionLimit) (stands : program.OnInstruction position) :
    program.OnInstruction
      (min (position + 1 + (Opcode.ofByte (program.byteAt position)).width)
        (positionLimit - 1)) := by
  by_cases within : position < program.size
  case neg =>
    left
    omega
  have starts : InstructionStart program.code position := by
    rcases stands with beyond | starts
    · omega
    · exact starts
  have following := starts.next within
  rw [← byteAt_of_lt within, Opcode.immediateSize_eq_width] at following
  rcases le_total (position + 1 + (Opcode.ofByte (program.byteAt position)).width)
    (positionLimit - 1) with reaches | saturates
  · rw [min_eq_left reaches]
    exact .inr following
  · rw [min_eq_right saturates]
    left
    omega

end Program

end CancunMachine
