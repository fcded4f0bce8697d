import CancunMachine.World.Account

/-!
# The journal of the world

One log of undo records, and for every open checkpoint the length that the log had when it was
opened. Committing a checkpoint forgets its mark, and with the last mark the log is cleared;
reverting it takes the records beyond its mark back, latest first.
-/

namespace CancunMachine

inductive Undo
  /-- Header and code of an account before a change; there are none if it did not exist. -/
  | header (address : Address) (previous : Option (AccountInfo × ByteArray))
  | slot (address : Address) (key previous : Word)
  | destroyed (address : Address) (previous : Account)

/-- The log and the marks of the open checkpoints, the latest ones first. -/
structure Journal where
  log : List Undo
  marks : List Nat
  /-- No mark lies beyond a later one, and none beyond the end of the log. -/
  descending : (log.length :: marks).Pairwise (· ≥ ·)

namespace Journal

def empty : Journal := ⟨[], [], by simp⟩

/-- Whether a checkpoint is open. -/
def isOpen (journal : Journal) : Bool := !journal.marks.isEmpty

/-- Leaves an undo record, if a checkpoint is open. -/
def record (journal : Journal) (undo : Undo) : Journal :=
  if journal.isOpen then
    { journal with
      log := undo :: journal.log
      descending := by
        have descending := journal.descending
        rw [List.pairwise_cons] at descending ⊢
        exact ⟨fun mark held => Nat.le_succ_of_le (descending.1 mark held), descending.2⟩ }
  else journal

/-- Opens a checkpoint at the end of the log. -/
def mark (journal : Journal) : Journal where
  log := journal.log
  marks := journal.log.length :: journal.marks
  descending := by
    have descending := journal.descending
    refine List.pairwise_cons.mpr ⟨fun mark held => ?_, descending⟩
    rcases List.mem_cons.mp held with rfl | outer
    · exact Nat.le_refl _
    · exact (List.pairwise_cons.mp descending).1 mark outer

/-- Forgets the innermost mark; there is none without an open checkpoint. -/
def forget? (journal : Journal) : Option Journal :=
  match marked : journal.marks with
  | [] => none
  | [_] => some empty
  | _ :: outer :: others => some {
      log := journal.log
      marks := outer :: others
      descending := by
        have descending := journal.descending
        rw [marked] at descending
        exact descending.sublist (.cons_cons _ (.cons _ (.refl _))) }

end Journal

end CancunMachine
